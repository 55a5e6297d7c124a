import Mathlib.Data.List.TakeWhile
import Mathlib.Tactic.SplitIfs
import SymbolTags.Proofs.Textual
import SymbolTags.Tagging.Parse

namespace SymbolTags

open Syntax

/-!
# Endings of parsing — one grammar, then the other

Parsing tries the script grammar and then, if it has to and may, the module grammar.  What it tells
of a failure and of recorded errors holds numbers, which may have too many digits to be written:

* `Node.WellTyped` — a textual tree whose record of errors is a list with textual messages;
* `Fault.Worded` — the words for a fault, told without the function that finds them;
* `Accepts` and `Fails` — the last grammar that is tried accepts the source, or refuses it;
* `Value.Overlong`, `OverlongRetry` and `OverlongParse` — where a number is too long;
* `ParseEnds` — the ways through the two grammars, and `parse_ends`, which says that there
  are no others;
* `ParseResult` — the outcomes that are left if the parser keeps to the types of its output.
-/

/-! ### Wording -/

/-- `rest` stands behind one leading line number. -/
def BehindLineNumber (cs rest : List Char) : Prop :=
  ∃ digits : List Char, digits ≠ [] ∧ (∀ c ∈ digits, Text.isDecimalDigit c = true) ∧
    cs = "Line ".toList ++ (digits ++ ':' :: ' ' :: rest)

/-- A line number goes with its colon and blank. -/
theorem dropLinePrefix_of_behind {cs rest : List Char} (h : BehindLineNumber cs rest) :
    dropLinePrefix cs = rest := by
  obtain ⟨digits, hne, hdigits, rfl⟩ := h
  -- the colon is no digit, so the run of digits ends where it should
  have hcolon : Text.isDecimalDigit ':' = false := by decide
  have htake : (digits ++ ':' :: ' ' :: rest).takeWhile Text.isDecimalDigit = digits := by
    rw [List.takeWhile_append_of_pos hdigits, List.takeWhile_cons_of_neg (by simp [hcolon]),
      List.append_nil]
  have hdrop : (digits ++ ':' :: ' ' :: rest).dropWhile Text.isDecimalDigit
      = ':' :: ' ' :: rest := by
    rw [List.dropWhile_append_of_pos hdigits, List.dropWhile_cons_of_neg (by simp [hcolon])]
  have hhead : linePrefix.isPrefixOf ("Line ".toList ++ (digits ++ ':' :: ' ' :: rest)) = true :=
    List.isPrefixOf_iff_prefix.mpr (List.prefix_append _ _)
  have hbody : ("Line ".toList ++ (digits ++ ':' :: ' ' :: rest)).drop linePrefix.length
      = digits ++ ':' :: ' ' :: rest := List.drop_left
  unfold dropLinePrefix
  rw [if_pos hhead]
  simp only [hbody, htake, hdrop]
  simp [hne]

/-- Without a line number a text stays as it is. -/
theorem dropLinePrefix_of_not_behind {cs : List Char} (h : ∀ rest, ¬BehindLineNumber cs rest) :
    dropLinePrefix cs = cs := by
  unfold dropLinePrefix
  split_ifs with hhead
  · obtain ⟨body, rfl⟩ := List.isPrefixOf_iff_prefix.mp hhead
    simp only [List.drop_left]
    split
    · rename_i tail hdrop
      split_ifs with hempty
      · rfl
      · -- digits before the colon: this would be a line number after all
        refine absurd ⟨body.takeWhile Text.isDecimalDigit, ?_, ?_, ?_⟩ (h tail)
        · simpa using hempty
        · exact fun c hc => List.mem_takeWhile_imp hc
        · rw [← hdrop, List.takeWhile_append_dropWhile]
          rfl
    · rfl
  · rfl

namespace Syntax

/-- A fault has words of its own. -/
def Fault.Describes (f : Fault) (d : String) : Prop :=
  f.description = some d ∧ d ≠ ""

/-- The words for a fault: its own, or else its message without one leading line number.  A
    message that is missing counts as the word for null. -/
inductive Fault.Worded (f : Fault) : String → Prop
  | description {d : String} (h : f.Describes d) : Worded f d
  | message {rest : List Char} (h : ∀ d, ¬f.Describes d)
      (hrest : BehindLineNumber (f.message.getD Data.nullText).toList rest) :
      Worded f (String.ofList rest)
  | wholeMessage (h : ∀ d, ¬f.Describes d)
      (hrest : ∀ rest, ¬BehindLineNumber (f.message.getD Data.nullText).toList rest) :
      Worded f (f.message.getD Data.nullText)

/-- Every fault is worded. -/
theorem Fault.worded_describe (f : Fault) : f.Worded f.describe := by
  unfold describe
  cases hdescription : f.description.filter (· != "") with
  | some d =>
    obtain ⟨hd, hne⟩ := Option.filter_eq_some_iff.mp hdescription
    exact .description ⟨hd, by simpa using hne⟩
  | none =>
    -- no description, or an empty one
    have hnone : ∀ d, ¬f.Describes d := by
      rintro d ⟨hd, hne⟩
      have := Option.filter_eq_none_iff.mp hdescription d hd
      simp [hne] at this
    by_cases hrest : ∃ rest, BehindLineNumber f.text.toList rest
    · obtain ⟨rest, hrest⟩ := hrest
      show f.Worded (String.ofList (dropLinePrefix f.text.toList))
      rw [dropLinePrefix_of_behind hrest]
      exact .message hnone hrest
    · have hrest := not_exists.mp hrest
      show f.Worded (String.ofList (dropLinePrefix f.text.toList))
      rw [dropLinePrefix_of_not_behind hrest, String.ofList_toList]
      exact .wholeMessage hnone hrest

/-! ### Well-typed programs -/

/-- A textual tree whose record of errors is missing or a list, every message in it being a text
    or missing. -/
structure Node.WellTyped (program : Node) : Prop where
  textual : program.Textual
  errors : program.attr "errors" = .null ∨
    ∃ identity items, program.attr "errors" = .list identity items ∧
      ∀ v ∈ items, ∀ m, v.attr? "message" = some m → m.IsText

end Syntax

/-! ### Recorded errors -/

namespace Syntax.Value

/-- A number that is told of a recorded error is too long to be written: in its line, in the words
    for it, or in all of it if there are no words. -/
inductive Overlong (v : Value) : Prop
  | line (h : ((v.attr? "lineNumber").getD (.str "?")).isWritable = false)
  | description {d : Value} (hd : v.setAttr? "description" = some d) (h : d.isWritable = false)
  | whole (hd : v.setAttr? "description" = none) (hm : v.setAttr? "message" = none)
      (h : v.isWritable = false)

theorem format_of_isWritable {v : Value} (h : v.isWritable = true) : v.format = .ok v.text :=
  if_pos h

theorem format_of_not_isWritable {v : Value} (h : v.isWritable = false) :
    v.format = .error .tooManyDigits :=
  if_neg (by simp [h])

/-- An error whose message is a text can be worded, unless a number in the words is too long. -/
theorem describe_cases {v : Value} (h : ∀ m, v.attr? "message" = some m → m.IsText) :
    (∃ words, v.describe = .ok words ∧
      (∀ d, v.setAttr? "description" = some d → d.isWritable = true) ∧
      (v.setAttr? "description" = none → v.setAttr? "message" = none → v.isWritable = true)) ∨
    v.describe = .error .tooManyDigits ∧ v.Overlong := by
  unfold describe
  cases hdescription : v.setAttr? "description" with
  | some d =>
    cases hd : d.isWritable with
    | false => exact .inr ⟨format_of_not_isWritable hd, .description hdescription hd⟩
    | true => exact .inl ⟨_, format_of_isWritable hd, by simpa using hd, by simp⟩
  | none =>
    cases hmessage : v.setAttr? "message" with
    | none =>
      cases hv : v.isWritable with
      | false =>
        refine .inr ⟨?_, .whole hdescription hmessage hv⟩
        exact congrArg (Except.map _) (format_of_not_isWritable hv)
      | true =>
        exact .inl ⟨_, congrArg (Except.map _) (format_of_isWritable hv), by simp, by simp⟩
    | some m =>
      obtain ⟨hm, -⟩ := Option.filter_eq_some_iff.mp hmessage
      obtain ⟨s, hs⟩ := (h m hm).exists_asText
      exact .inl ⟨_, congrArg (fun t => (Except.mapError ParseError.illTyped t).map _) hs,
        by simp, by simp⟩

/-- The elements of a list are its items. -/
theorem elements_list (identity : Nat) (items : List Value) :
    (list identity items).elements = .ok items := by
  cases items <;> rfl

end Syntax.Value

/-- A recorded error with a textual message has a warning just if its numbers can be written. -/
theorem toleratedError_cases {v : Value} (h : ∀ m, v.attr? "message" = some m → m.IsText) :
    (∃ warning, toleratedError v = .ok warning ∧ ¬v.Overlong) ∨
    toleratedError v = .error .tooManyDigits ∧ v.Overlong := by
  unfold toleratedError
  -- the line is written before the words are looked for
  cases hline : ((v.attr? "lineNumber").getD (.str "?")).isWritable with
  | false =>
    rw [Value.format_of_not_isWritable hline]
    exact .inr ⟨rfl, .line hline⟩
  | true =>
    rw [Value.format_of_isWritable hline]
    rcases Value.describe_cases h with ⟨words, hwords, hdescription, hwhole⟩ | ⟨hfails, hlong⟩
    · rw [hwords]
      refine .inl ⟨_, rfl, fun hlong => ?_⟩
      cases hlong with
      | line h => exact absurd hline (by simp [h])
      | description hd h => exact absurd (hdescription _ hd) (by simp [h])
      | whole hd hm h => exact absurd (hwhole hd hm) (by simp [h])
    · rw [hfails]
      exact .inr ⟨rfl, hlong⟩

/-- Steps that all succeed, each with a result that suits its argument, give a list of results
    that suit the arguments one by one. -/
theorem exists_mapM_forall₂ {α β ε : Type} {f : α → Except ε β} {P : α → β → Prop} {xs : List α}
    (h : ∀ x ∈ xs, ∃ y, f x = .ok y ∧ P x y) :
    ∃ ys, xs.mapM f = .ok ys ∧ List.Forall₂ P xs ys := by
  induction xs with
  | nil => exact ⟨[], rfl, .nil⟩
  | cons x xs ih =>
    obtain ⟨y, hy, hxy⟩ := h x List.mem_cons_self
    obtain ⟨ys, hys, hxys⟩ := ih fun x' hx' => h x' (List.mem_cons_of_mem x hx')
    refine ⟨y :: ys, ?_, .cons hxy hxys⟩
    rw [List.mapM_cons, hy, hys]
    rfl

/-- Steps that fail in one way alone do so together if some of them does. -/
theorem mapM_eq_error_of_exists {α β ε : Type} {f : α → Except ε β} {e : ε} {xs : List α}
    (h : ∀ x ∈ xs, (∃ y, f x = .ok y) ∨ f x = .error e) (hx : ∃ x ∈ xs, f x = .error e) :
    xs.mapM f = .error e := by
  induction xs with
  | nil => simp at hx
  | cons x xs ih =>
    rw [List.mapM_cons]
    rcases h x List.mem_cons_self with ⟨y, hy⟩ | hfails
    · obtain ⟨x', hx', hfails⟩ := hx
      have hrest : ∃ x' ∈ xs, f x' = .error e := by
        rcases List.mem_cons.mp hx' with rfl | hx'
        · rw [hy] at hfails
          cases hfails
        · exact ⟨x', hx', hfails⟩
      rw [hy, ih (fun x' hx' => h x' (List.mem_cons_of_mem x hx')) hrest]
      rfl
    · rw [hfails]
      rfl

/-- A program records an error that has too long a number. -/
def Syntax.Node.RecordsOverlong (program : Node) : Prop :=
  ∃ identity items, program.attr "errors" = .list identity items ∧ ∃ v ∈ items, v.Overlong

/-- The record of errors of a well-typed program can be told, unless a number in it is too
    long. -/
theorem toleratedErrors_cases {program : Node} (h : program.WellTyped) :
    (∃ warnings, toleratedErrors program = .ok warnings ∧ ¬program.RecordsOverlong) ∨
    toleratedErrors program = .error .tooManyDigits ∧ program.RecordsOverlong := by
  unfold toleratedErrors Node.RecordsOverlong
  rcases h.errors with hnull | ⟨identity, items, hlist, hmessages⟩
  · -- no record at all is read as an empty one
    rw [hnull]
    exact .inl ⟨[], rfl, by simp⟩
  · have hcases := fun v hv => toleratedError_cases (hmessages v hv)
    rw [hlist, Value.elements_list]
    by_cases hlong : ∃ v ∈ items, v.Overlong
    · refine .inr ⟨mapM_eq_error_of_exists (fun v hv => ?_) ?_, identity, items, rfl, hlong⟩
      · exact (hcases v hv).imp (fun ⟨warning, hwarning, _⟩ => ⟨warning, hwarning⟩) And.left
      · obtain ⟨v, hv, hlong⟩ := hlong
        refine ⟨v, hv, ((hcases v hv).resolve_left ?_).1⟩
        rintro ⟨_, _, hshort⟩
        exact hshort hlong
    · have hall : ∀ v ∈ items, ∃ warning, toleratedError v = .ok warning ∧ True := by
        intro v hv
        obtain ⟨warning, hwarning, -⟩ :=
          (hcases v hv).resolve_right fun h => hlong ⟨v, hv, h.2⟩
        exact ⟨warning, hwarning, trivial⟩
      obtain ⟨warnings, hwarnings, -⟩ := exists_mapM_forall₂ hall
      refine .inl ⟨warnings, hwarnings, ?_⟩
      rintro ⟨_, _, hlist', hlong'⟩
      cases hlist'
      exact hlong hlong'

/-! ### The two grammars -/

/-- What the settings ask of the parser. -/
def Settings.parserOptions (settings : Settings) : ParserOptions :=
  { jsx := settings.jsx }

/-- The calls of the parser up to the one for a grammar. -/
def Settings.callsUpTo (settings : Settings) : Grammar → List ParserCall
  | .script => [⟨.script, settings.parserOptions⟩]
  | .module => [⟨.script, settings.parserOptions⟩, ⟨.module, settings.parserOptions⟩]

section

variable (parser : Parser) (settings : Settings) (source : String)

/-- Whatever a grammar accepts is well typed. -/
def ParserWellTyped : Prop :=
  ∀ grammar program, parser grammar settings.parserOptions source = .ok program →
    program.WellTyped

/-- A grammar accepts a source, and is the one that is asked for it. -/
inductive Accepts : Grammar → Node → Prop
  | script {program : Node}
      (h : parser .script settings.parserOptions source = .ok program) : Accepts .script program
  | module {f : Fault} {program : Node}
      (hscript : parser .script settings.parserOptions source = .error f)
      (hretry : settings.moduleRetry = true)
      (h : parser .module settings.parserOptions source = .ok program) : Accepts .module program

/-- A grammar refuses a source, and no other may be tried any more. -/
inductive Fails : Grammar → Fault → Prop
  | script {f : Fault} (h : parser .script settings.parserOptions source = .error f)
      (hretry : settings.moduleRetry = false) : Fails .script f
  | module {f g : Fault} (hscript : parser .script settings.parserOptions source = .error f)
      (hretry : settings.moduleRetry = true)
      (h : parser .module settings.parserOptions source = .error g) : Fails .module g

/-- The line of a failure is too long for the event of going on to the other grammar, which is to
    be written. -/
inductive OverlongRetry (sink : Log.Sink) : Prop
  | intro {f : Fault} {line : Int}
      (hscript : parser .script settings.parserOptions source = .error f)
      (hretry : settings.moduleRetry = true) (hadmits : sink.admits .debug = true)
      (hline : f.line = some line) (hlong : Text.isWritable line = false)

/-- A number that is told while a source is parsed is too long to be written. -/
inductive OverlongParse (sink : Log.Sink) : Prop
  | retry (h : OverlongRetry parser settings source sink)
  /-- The text of a failure tells the line. -/
  | failure {grammar : Grammar} {f : Fault} {line : Int}
      (h : Fails parser settings source grammar f)
      (hline : f.line = some line) (hlong : Text.isWritable line = false)
  | error {grammar : Grammar} {program : Node} (h : Accepts parser settings source grammar program)
      (hlong : program.RecordsOverlong)

/-- The ways through the two grammars. -/
inductive ParseEnds (path : String) (sink : Log.Sink) : ParseRun → Prop
  /-- The way to the module grammar is cut off by its own event. -/
  | cut (h : OverlongRetry parser settings source sink) :
      ParseEnds path sink ⟨.error .tooManyDigits, settings.callsUpTo .script, []⟩
  | refused {grammar : Grammar} {f : Fault} {events : List Log.Event}
      (hretry : ¬OverlongRetry parser settings source sink)
      (h : Fails parser settings source grammar f) :
      ParseEnds path sink ⟨.error (.ofFault path f), settings.callsUpTo grammar, events⟩
  | accepted {grammar : Grammar} {program : Node} (events : List Log.Event)
      (hretry : ¬OverlongRetry parser settings source sink)
      (h : Accepts parser settings source grammar program)
      (hevents : ∀ e ∈ events, e.name ≠ "parse-tolerated-error") :
      ParseEnds path sink
        (acceptProgram settings grammar program (settings.callsUpTo grammar) events)

/-- The outcomes of parsing, with the exact condition for each. -/
inductive ParseResult (path : String) (sink : Log.Sink) : Except ParseError Parsed → Prop
  | overlong (h : OverlongParse parser settings source sink) :
      ParseResult path sink (.error .tooManyDigits)
  | refused {grammar : Grammar} {f : Fault} (hshort : ¬OverlongParse parser settings source sink)
      (h : Fails parser settings source grammar f) :
      ParseResult path sink (.error (.refused (.ofFault path f)))
  | accepted {grammar : Grammar} {program : Node} (warnings : List String)
      (hshort : ¬OverlongParse parser settings source sink)
      (h : Accepts parser settings source grammar program) :
      ParseResult path sink (.ok ⟨program, grammar, warnings⟩)

variable {parser settings source}

/-- The event of going on to the other grammar is an obstacle just if its line is too long. -/
theorem overlongRetry_iff {sink : Log.Sink} {f : Fault}
    (hscript : parser .script settings.parserOptions source = .error f)
    (hretry : settings.moduleRetry = true) :
    OverlongRetry parser settings source sink ↔ sink.takes (retryEvent f) = false := by
  have hevent : (retryEvent f).isWritable = f.line.all Text.isWritable := by
    cases hline : f.line <;>
      simp [Log.Event.isWritable, retryEvent, hline, Data.isWritable]
  rw [Log.Sink.takes_eq_false_iff, hevent]
  constructor
  · rintro ⟨hscript', -, hadmits, hline, hlong⟩
    rw [hscript, Except.error.injEq] at hscript'
    rw [hscript', hline, Option.all_some]
    exact ⟨hadmits, hlong⟩
  · rintro ⟨hadmits, hlong⟩
    cases hline : f.line with
    | none =>
      rw [hline] at hlong
      cases hlong
    | some line =>
      rw [hline, Option.all_some] at hlong
      exact ⟨hscript, hretry, hadmits, hline, hlong⟩

/-- Without going on to the other grammar there is no event of it. -/
theorem not_overlongRetry_of_ok {sink : Log.Sink} {program : Node}
    (h : parser .script settings.parserOptions source = .ok program) :
    ¬OverlongRetry parser settings source sink := by
  rintro ⟨hscript, -⟩
  rw [h] at hscript
  cases hscript

theorem not_overlongRetry_of_moduleRetry {sink : Log.Sink} (h : settings.moduleRetry = false) :
    ¬OverlongRetry parser settings source sink := by
  rintro ⟨-, hretry, -⟩
  rw [h] at hretry
  cases hretry

/-- **Parsing.**  Parsing ends in one of these ways. -/
theorem parse_ends (parser : Parser) (settings : Settings) (source path : String)
    (sink : Log.Sink) :
    ParseEnds parser settings source path sink (parse parser settings source path sink) := by
  have hoptions : ({ jsx := settings.jsx } : ParserOptions) = settings.parserOptions := rfl
  simp only [parse, hoptions]
  cases hscript : parser .script settings.parserOptions source with
  | ok program => exact .accepted [] (not_overlongRetry_of_ok hscript) (.script hscript) (by simp)
  | error f =>
    -- what the script grammar refuses goes on to the module grammar only if the settings say so
    cases hretry : settings.moduleRetry with
    | false => exact .refused (not_overlongRetry_of_moduleRetry hretry) (.script hscript hretry)
    | true =>
      have hiff : OverlongRetry parser settings source sink ↔ _ :=
        overlongRetry_iff hscript hretry
      cases htakes : sink.takes (retryEvent f) with
      | false =>
        simp only [htakes, if_true, Bool.false_eq_true, if_false]
        exact .cut (hiff.mpr htakes)
      | true =>
        have hshort : ¬OverlongRetry parser settings source sink := by simp [hiff, htakes]
        simp only [htakes, if_true]
        cases hmodule : parser .module settings.parserOptions source with
        | ok program =>
          refine .accepted [retryEvent f] hshort (.module hscript hretry hmodule) ?_
          rw [List.forall_mem_singleton]
          show ¬"parse-retry-module" = "parse-tolerated-error"
          decide
        | error g => exact .refused hshort (.module hscript hretry hmodule)

/-- A source is accepted in one way. -/
theorem Accepts.unique {grammar grammar' : Grammar} {program program' : Node}
    (h : Accepts parser settings source grammar program)
    (h' : Accepts parser settings source grammar' program') :
    grammar = grammar' ∧ program = program' := by
  cases h with
  | script h =>
    cases h' with
    | script h' => exact ⟨rfl, Except.ok.inj (h.symm.trans h')⟩
    | module hscript _ _ => cases h.symm.trans hscript
  | module hscript _ h =>
    cases h' with
    | script h' => cases hscript.symm.trans h'
    | module _ _ h' => exact ⟨rfl, Except.ok.inj (h.symm.trans h')⟩

/-- A source that is accepted is not refused. -/
theorem Accepts.not_fails {grammar grammar' : Grammar} {program : Node} {f : Fault}
    (h : Accepts parser settings source grammar program) :
    ¬Fails parser settings source grammar' f := by
  intro h'
  cases h with
  | script h =>
    cases h' with
    | script h' _ => cases h.symm.trans h'
    | module hscript _ _ => cases h.symm.trans hscript
  | module _ hretry h =>
    cases h' with
    | script _ hretry' => cases hretry.symm.trans hretry'
    | module _ _ h' => cases h.symm.trans h'

/-- A source is refused in one way. -/
theorem Fails.unique {grammar grammar' : Grammar} {f f' : Fault}
    (h : Fails parser settings source grammar f) (h' : Fails parser settings source grammar' f') :
    f = f' := by
  cases h with
  | script h hretry =>
    cases h' with
    | script h' _ => exact Except.error.inj (h.symm.trans h')
    | module _ hretry' _ => cases hretry.symm.trans hretry'
  | module _ hretry h =>
    cases h' with
    | script _ hretry' => cases hretry.symm.trans hretry'
    | module _ _ h' => exact Except.error.inj (h.symm.trans h')

/-- A program that is accepted is well typed, if all of them are. -/
theorem Accepts.wellTyped (hparser : ParserWellTyped parser settings source) {grammar : Grammar}
    {program : Node} (h : Accepts parser settings source grammar program) : program.WellTyped := by
  cases h with
  | script h => exact hparser _ _ h
  | module _ _ h => exact hparser _ _ h

/-- A program whose errors can be worded is accepted with their warnings. -/
theorem acceptProgram_of_toleratedErrors (settings : Settings) {program : Node}
    {warnings : List String} (h : toleratedErrors program = .ok warnings) (grammar : Grammar)
    (calls : List ParserCall) (events : List Log.Event) :
    acceptProgram settings grammar program calls events =
      ⟨.ok ⟨program, grammar, warnings⟩, calls,
        events ++ if settings.verbose then warnings.map toleratedEvent else []⟩ := by
  unfold acceptProgram
  rw [h]

theorem calls_acceptProgram (settings : Settings) (grammar : Grammar) (program : Node)
    (calls : List ParserCall) (events : List Log.Event) :
    (acceptProgram settings grammar program calls events).calls = calls := by
  unfold acceptProgram
  split <;> rfl

/-- A program with an error that cannot be told is not accepted after all. -/
theorem acceptProgram_of_error (settings : Settings) {program : Node} {e : ParseError}
    (h : toleratedErrors program = .error e) (grammar : Grammar) (calls : List ParserCall)
    (events : List Log.Event) :
    acceptProgram settings grammar program calls events = ⟨.error e, calls, events⟩ := by
  unfold acceptProgram
  rw [h]

/-- **Outcomes.**  With a well-typed parser, nothing but a number that is too long comes between a
    source and its program or its failure. -/
theorem ParseEnds.parseResult (hparser : ParserWellTyped parser settings source) {path : String}
    {sink : Log.Sink} {run : ParseRun} (h : ParseEnds parser settings source path sink run) :
    ParseResult parser settings source path sink run.result := by
  cases h with
  | cut h => exact .overlong (.retry h)
  | @refused grammar f events hretry h =>
    show ParseResult parser settings source path sink
      (.error (if f.line.all Text.isWritable then _ else _))
    split_ifs with hline
    · refine .refused ?_ h
      rintro (hretry' | ⟨h', hline', hlong⟩ | ⟨h', -⟩)
      · exact hretry hretry'
      · rw [h.unique h', hline'] at hline
        exact absurd hline (by simp [hlong])
      · exact h'.not_fails h
    · cases hf : f.line with
      | none => simp [hf] at hline
      | some line => exact .overlong (.failure h hf (by simpa [hf] using hline))
  | @accepted grammar program events hretry h _ =>
    rcases toleratedErrors_cases (h.wellTyped hparser) with ⟨warnings, hwarnings, hshort⟩ |
      ⟨herror, hlong⟩
    · rw [acceptProgram_of_toleratedErrors settings hwarnings]
      refine .accepted warnings ?_ h
      rintro (hretry' | ⟨h', -, -⟩ | ⟨h', hlong⟩)
      · exact hretry hretry'
      · exact h.not_fails h'
      · rw [← (h.unique h').2] at hlong
        exact hshort hlong
    · rw [acceptProgram_of_error settings herror]
      exact .overlong (.error h hlong)

end

end SymbolTags
