import SymbolTags.Proofs.ParseEndings
import SymbolTags.Proofs.RenderedText

namespace SymbolTags

open Syntax

/-!
# Tolerated errors — what becomes of the errors that a parser went on from

A parser that goes on from an error records it in the program, as a fault, as an object or as a
dictionary.  Each recorded error has a line and a message:

* `Value.Records` — the values that record an error;
* `ProperWarning` — the line of an error and its message without a leading line number;
* `RecordedError.Warned` — the warning that is given for it;
* `parse_warns_of_errors` — there is one warning for each error, in their order, and just the errors
  that are readable get a proper one, unless a number in them is too long to be written.

Nothing can be read off a dictionary, so that its warning has a question mark for the line and
quotes the whole dictionary.
-/

/-! ### Recorded errors -/

/-- Entries that tell a line and a message, and no words of their own. -/
structure TellsError (entries : Fields Value) (line : Int) (message : String) : Prop where
  line : Fields.get? entries "lineNumber" = some (.int line)
  message : Fields.get? entries "message" = some (.str message)
  undescribed : ∀ d, Fields.get? entries "description" = some d → d.isTruthy = false

/-- A value records an error with a line and a message. -/
inductive Syntax.Value.Records (line : Int) (message : String) : Value → Prop
  | fault {identity : Nat} {f : Fault} (hline : f.line = some line)
      (hmessage : f.message = some message)
      (hundescribed : ∀ d, ¬f.Describes d) : Records line message (.fault identity f)
  | object {identity : Nat} {entries : List (String × Value)}
      (h : TellsError entries line message) : Records line message (.object identity entries)
  | record {identity : Nat} {entries : List (String × Value)}
      (h : TellsError entries line message) : Records line message (.record identity entries)
  | dictionary {identity : Nat} {entries : List (String × Value)}
      (h : TellsError entries line message) : Records line message (.dictionary identity entries)

/-- An error that a parser went on from. -/
structure RecordedError where
  value : Value
  line : Int
  message : String
  recorded : value.Records line message

/-- A warning tells the line of an error and its message, without one leading line number. -/
inductive ProperWarning (line : Int) (message : String) : String → Prop
  | numbered {rest : List Char} (h : BehindLineNumber message.toList rest) :
      ProperWarning line message ("line " ++ toString line ++ ": " ++ String.ofList rest)
  | whole (h : ∀ rest, ¬BehindLineNumber message.toList rest) :
      ProperWarning line message ("line " ++ toString line ++ ": " ++ message)

/-- The error can be read off its value: a fault always can, an object if its message is not
    empty, and a dictionary never. -/
def RecordedError.IsReadable (e : RecordedError) : Prop :=
  match e.value with
  | .fault _ _ => True
  | .object _ _ | .record _ _ => e.message ≠ ""
  | _ => False

/-- The warning that is given for an error. -/
inductive RecordedError.Warned (e : RecordedError) : String → Prop
  | readable {warning : String} (h : e.IsReadable)
      (hwarning : ProperWarning e.line e.message warning) : Warned e warning
  | dictionary {identity : Nat} {entries : List (String × Value)}
      (h : e.value = .dictionary identity entries) : Warned e ("line ?: " ++ e.value.quoted)
  /-- An object without words is quoted behind its line. -/
  | wordless {identity : Nat} {entries : List (String × Value)} (hmessage : e.message = "")
      (h : e.value = .object identity entries ∨ e.value = .record identity entries) :
      Warned e ("line " ++ toString e.line ++ ": " ++ e.value.quoted)

/-! ### Wording -/

/-- The proper warning is the one that the wording of errors gives. -/
theorem properWarning_iff {line : Int} {message warning : String} :
    ProperWarning line message warning ↔
      warning = "line " ++ toString line ++ ": " ++
        String.ofList (dropLinePrefix message.toList) := by
  constructor
  · intro h
    cases h with
    | numbered h => rw [dropLinePrefix_of_behind h]
    | whole h => rw [dropLinePrefix_of_not_behind h, String.ofList_toList]
  · rintro rfl
    by_cases h : ∃ rest, BehindLineNumber message.toList rest
    · obtain ⟨rest, hrest⟩ := h
      rw [dropLinePrefix_of_behind hrest]
      exact .numbered hrest
    · have h := not_exists.mp h
      rw [dropLinePrefix_of_not_behind h, String.ofList_toList]
      exact .whole h

/-- A line number starts with a capital letter. -/
theorem BehindLineNumber.head?_eq {cs rest : List Char} (h : BehindLineNumber cs rest) :
    cs.head? = some 'L' := by
  obtain ⟨digits, -, -, rfl⟩ := h
  rfl

/-- A text that starts otherwise has no line number to drop. -/
theorem ofList_dropLinePrefix {s : String} {c : Char} (h : s.toList.head? = some c)
    (hc : c ≠ 'L') : String.ofList (dropLinePrefix s.toList) = s := by
  have hno : ∀ rest, ¬BehindLineNumber s.toList rest := by
    intro rest hrest
    rw [hrest.head?_eq, Option.some.injEq] at h
    exact hc h.symm
  rw [dropLinePrefix_of_not_behind hno, String.ofList_toList]

/-- What a text starts with stays when something is added behind it. -/
theorem Text.head?_append {s : String} {c : Char} (h : s.toList.head? = some c) (t : String) :
    (s ++ t).toList.head? = some c := by
  rw [String.toList_append, List.head?_append, h, Option.some_or]

namespace Syntax.Value

/-! Written forms start with their brackets, which no line number does. -/

theorem head?_block (depth : Nat) {opening : String} {c : Char}
    (h : opening.toList.head? = some c) (closing : String) (parts : List String) :
    (block depth opening closing parts).toList.head? = some c := by
  unfold block
  split_ifs
  · exact Text.head?_append h _
  · iterate 5 apply Text.head?_append
    exact h

theorem head?_quoted_object (identity : Nat) (entries : List (String × Value)) :
    (object identity entries).quoted.toList.head? = some '\x7b' :=
  head?_block 0 rfl _ _

theorem head?_quoted_dictionary (identity : Nat) (entries : List (String × Value)) :
    (dictionary identity entries).quoted.toList.head? = some '\x7b' := by
  rw [quoted, quotedIn]
  split_ifs
  · rfl
  · rfl
  · exact Text.head?_append (Text.head?_append rfl _) _

theorem head?_quoted_record (identity : Nat) (entries : List (String × Value)) :
    (record identity entries).quoted.toList.head? = some 'n' := by
  rw [quoted, quotedIn]
  split_ifs
  · rfl
  · exact Text.head?_append (Text.head?_append rfl _) _

/-- A value with a message of its own is described by it. -/
theorem describe_of_message {v : Value} {message : String}
    (hundescribed : v.setAttr? "description" = none)
    (hmessage : v.attr? "message" = some (.str message)) (hne : message ≠ "") :
    v.describe = .ok (String.ofList (dropLinePrefix message.toList)) := by
  have hset : v.setAttr? "message" = some (.str message) := by
    rw [setAttr?, hmessage, Option.filter_some, if_pos (by simpa [isTruthy] using hne)]
  have htext : (str message).asText = .ok message := if_pos (by simpa [isTruthy] using hne)
  unfold describe
  rw [hundescribed, hset]
  exact congrArg (fun t => (Except.mapError ParseError.illTyped t).map _) htext

/-- A value with an empty message is described by its text, if the numbers in it are short. -/
theorem describe_of_text {v : Value} (hundescribed : v.setAttr? "description" = none)
    (hmessage : v.setAttr? "message" = none) (hwritable : v.isWritable = true) :
    v.describe = .ok (String.ofList (dropLinePrefix v.text.toList)) := by
  unfold describe
  rw [hundescribed, hmessage, format_of_isWritable hwritable]
  rfl

end Syntax.Value

/-! ### Warnings -/

/-- The warning of a value that has a line and words. -/
theorem toleratedError_of_describe {v : Value} {line : Int} {words : String}
    (hline : v.attr? "lineNumber" = some (.int line)) (hshort : Text.isWritable line = true)
    (hwords : v.describe = .ok words) :
    toleratedError v = .ok ("line " ++ toString line ++ ": " ++ words) := by
  have hformat : (Value.int line).format = .ok (toString line) := Value.format_of_isWritable hshort
  unfold toleratedError
  rw [hline, Option.getD_some, hformat, hwords]
  rfl

/-- Nothing is read off a dictionary. -/
theorem toleratedError_dictionary {identity : Nat} {entries : List (String × Value)}
    (hwritable : (Value.dictionary identity entries).isWritable = true) :
    toleratedError (.dictionary identity entries) =
      .ok ("line ?: " ++ (Value.dictionary identity entries).quoted) := by
  have hwords : (Value.dictionary identity entries).describe =
      .ok (Value.dictionary identity entries).quoted := by
    rw [Value.describe_of_text rfl rfl hwritable]
    exact congrArg _
      (ofList_dropLinePrefix (Value.head?_quoted_dictionary identity entries) (by decide))
  rw [toleratedError, hwords]
  rfl

/-- Words that are not set are not found, whatever is read for a missing entry. -/
theorem TellsError.filter_description {entries : Fields Value} {line : Int} {message : String}
    (h : TellsError entries line message) :
    (Fields.get? entries "description").filter Value.isTruthy = none ∧
    (some ((Fields.get? entries "description").getD .null)).filter Value.isTruthy = none := by
  cases hd : Fields.get? entries "description" with
  | none => exact ⟨rfl, rfl⟩
  | some d => simp [h.undescribed d hd]

namespace RecordedError

/-- An object is readable just if it has a message. -/
theorem isReadable_iff_of_object {e : RecordedError} {identity : Nat}
    {entries : List (String × Value)}
    (h : e.value = .object identity entries ∨ e.value = .record identity entries) :
    e.IsReadable ↔ e.message ≠ "" := by
  unfold IsReadable
  rcases h with h | h
  · rw [h]
  · rw [h]

/-- The line of an error that can be told is short, and so is all of it if it has no words. -/
theorem isWritable_of_not_overlong {v : Value} (h : ¬v.Overlong) :
    (∀ line, v.attr? "lineNumber" = some (.int line) → Text.isWritable line = true) ∧
    (v.setAttr? "description" = none → v.setAttr? "message" = none → v.isWritable = true) := by
  refine ⟨fun line hline => ?_, fun hdescription hmessage => ?_⟩
  · by_contra hlong
    refine h (.line ?_)
    rw [hline, Option.getD_some]
    exact Bool.not_eq_true _ ▸ hlong
  · by_contra hlong
    exact h (.whole hdescription hmessage (Bool.not_eq_true _ ▸ hlong))

/-- The warning of an object depends on whether its message is empty. -/
theorem exists_warned_of_object {e : RecordedError} (hshort : ¬e.value.Overlong)
    (hshape : ∃ identity entries,
      e.value = .object identity entries ∨ e.value = .record identity entries)
    (htext : e.value.text = e.value.quoted) {c : Char}
    (hhead : e.value.quoted.toList.head? = some c) (hc : c ≠ 'L')
    (hundescribed : e.value.setAttr? "description" = none)
    (hmessage : e.value.attr? "message" = some (.str e.message))
    (hline : e.value.attr? "lineNumber" = some (.int e.line)) :
    ∃ warning, toleratedError e.value = .ok warning ∧ e.Warned warning := by
  obtain ⟨identity, entries, hshape⟩ := hshape
  obtain ⟨hshortLine, hwritable⟩ := isWritable_of_not_overlong hshort
  by_cases hempty : e.message = ""
  · -- an empty message counts as none, and the object is quoted in its place
    have hunset : e.value.setAttr? "message" = none := by
      rw [Value.setAttr?, hmessage, hempty]
      rfl
    have hwords := Value.describe_of_text hundescribed hunset (hwritable hundescribed hunset)
    rw [htext, ofList_dropLinePrefix hhead hc] at hwords
    exact ⟨_, toleratedError_of_describe hline (hshortLine _ hline) hwords, .wordless hempty hshape⟩
  · have hwords := Value.describe_of_message hundescribed hmessage hempty
    exact ⟨_, toleratedError_of_describe hline (hshortLine _ hline) hwords,
      .readable ((isReadable_iff_of_object hshape).mpr hempty) (properWarning_iff.mpr rfl)⟩

/-- Every recorded error whose numbers are short has a warning. -/
theorem exists_warned (e : RecordedError) (hshort : ¬e.value.Overlong) :
    ∃ warning, toleratedError e.value = .ok warning ∧ e.Warned warning := by
  obtain ⟨value, line, message, recorded⟩ := e
  cases recorded with
  | @fault identity f hline hmessage hundescribed =>
    have hunset : (Value.fault identity f).setAttr? "description" = none := by
      show (f.description.map Value.str).filter Value.isTruthy = none
      rw [Option.filter_eq_none_iff]
      intro d hd
      obtain ⟨words, hwords, rfl⟩ := Option.map_eq_some_iff.mp hd
      have : words = "" := by
        by_contra hne
        exact hundescribed words ⟨hwords, hne⟩
      rw [this]
      decide
    have hattr : (Value.fault identity f).attr? "message" = some (.str message) := by
      simp [Value.attr?, hmessage]
    have hnumber : (Value.fault identity f).attr? "lineNumber" = some (.int line) := by
      simp [Value.attr?, hline]
    obtain ⟨hshortLine, hwritable⟩ := isWritable_of_not_overlong hshort
    -- the text of a fault is its message, even when that is empty
    have hwords : (Value.fault identity f).describe =
        .ok (String.ofList (dropLinePrefix message.toList)) := by
      by_cases hempty : message = ""
      · have hunsetMessage : (Value.fault identity f).setAttr? "message" = none := by
          rw [Value.setAttr?, hattr, hempty]
          rfl
        rw [Value.describe_of_text hunset hunsetMessage (hwritable hunset hunsetMessage)]
        show Except.ok (String.ofList (dropLinePrefix (f.message.getD Data.nullText).toList)) = _
        rw [hmessage, Option.getD_some]
      · exact Value.describe_of_message hunset hattr hempty
    exact ⟨_, toleratedError_of_describe hnumber (hshortLine _ hnumber) hwords,
      .readable trivial (properWarning_iff.mpr rfl)⟩
  | @object identity entries h =>
    exact exists_warned_of_object hshort ⟨identity, entries, .inl rfl⟩ rfl
      (Value.head?_quoted_object identity entries) (by decide) h.filter_description.2
      (by simp [Value.attr?, h.message]) (by simp [Value.attr?, h.line])
  | @record identity entries h =>
    exact exists_warned_of_object hshort ⟨identity, entries, .inr rfl⟩ rfl
      (Value.head?_quoted_record identity entries) (by decide) h.filter_description.1
      h.message h.line
  | @dictionary identity entries h =>
    have hwritable := (isWritable_of_not_overlong hshort).2 rfl rfl
    exact ⟨_, toleratedError_dictionary hwritable, .dictionary rfl⟩

/-- The message of a recorded error is a text. -/
theorem isText_message (e : RecordedError) :
    ∀ m, e.value.attr? "message" = some m → m.IsText := by
  intro m hm
  obtain ⟨value, line, message, recorded⟩ := e
  cases recorded with
  -- Each kind of error tells its message by another field, and all of them are texts.
  | @fault identity f hline hmessage _ =>
    rw [show (Value.fault identity f).attr? "message" = some (.str message) by
      simp [Value.attr?, hmessage]] at hm
    cases hm
    trivial
  | @object identity entries h =>
    rw [show (Value.object identity entries).attr? "message" = some (.str message) by
      simp [Value.attr?, h.message]] at hm
    cases hm
    trivial
  | @record identity entries h =>
    rw [show (Value.record identity entries).attr? "message" = _ from h.message] at hm
    cases hm
    trivial
  | dictionary _ => cases hm

/-- No number is written as a question mark. -/
theorem not_properWarning_questionMark (line : Int) (message rest : String) :
    ¬ProperWarning line message ("line ?: " ++ rest) := by
  intro h
  have heq := congrArg String.toList (properWarning_iff.mp h)
  rw [show "line ?: " = "line " ++ "?: " from rfl] at heq
  simp only [String.toList_append, List.append_assoc] at heq
  -- Behind the word `line` a question mark would have to start the number.
  replace heq := List.append_cancel_left heq
  cases hline : (toString line).toList with
  | nil =>
    rw [hline] at heq
    exact absurd (List.cons.inj heq).1 (by decide)
  | cons c digits =>
    rw [hline] at heq
    have hc : '?' = c := (List.cons.inj heq).1
    refine Text.notMem_toString (c := '?') (by decide) (by decide) line ?_
    rw [hline, hc]
    exact List.mem_cons_self

/-- A warning is a proper one just if the error is readable. -/
theorem Warned.proper_iff {e : RecordedError} {warning : String} (h : e.Warned warning) :
    ProperWarning e.line e.message warning ↔ e.IsReadable := by
  cases h with
  | readable hreadable hwarning => exact ⟨fun _ => hreadable, fun _ => hwarning⟩
  | dictionary h =>
    refine ⟨fun hproper => absurd hproper (not_properWarning_questionMark _ _ _), ?_⟩
    rw [IsReadable, h]
    exact False.elim
  | @wordless identity entries hmessage h =>
    -- the quoted object is no empty text
    have hne : e.value.quoted ≠ "" := by
      intro hempty
      rcases h with h | h
      · have := Value.head?_quoted_object identity entries
        rw [← h, hempty] at this
        cases this
      · have := Value.head?_quoted_record identity entries
        rw [← h, hempty] at this
        cases this
    rw [isReadable_iff_of_object h]
    refine ⟨fun hproper => ?_, fun hwords => absurd hmessage hwords⟩
    have heq := properWarning_iff.mp hproper
    rw [hmessage] at heq
    exact absurd ((String.append_right_inj _).mp heq) hne

/-- All warnings are proper ones just if all errors are readable. -/
theorem forall₂_proper_iff {errors : List RecordedError} {warnings : List String}
    (h : List.Forall₂ Warned errors warnings) :
    List.Forall₂ (fun e warning => ProperWarning e.line e.message warning) errors warnings ↔
      ∀ e ∈ errors, e.IsReadable := by
  induction h with
  | nil => simp
  | cons hwarned _ ih => rw [List.forall₂_cons, List.forall_mem_cons, hwarned.proper_iff, ih]

end RecordedError

/-! ### Parsing -/

/-- What is accepted is a program whose errors can be listed, unless the way to it is cut off;
    before them there is at most the event of going on to the other grammar. -/
theorem Accepts.parse_eq {parser : Parser} {settings : Settings} {source : String}
    {grammar : Grammar} {program : Node} (h : Accepts parser settings source grammar program)
    (path : String) {sink : Log.Sink} (hretry : ¬OverlongRetry parser settings source sink) :
    ∃ earlier, parse parser settings source path sink =
        acceptProgram settings grammar program (settings.callsUpTo grammar) earlier ∧
      ∀ event ∈ earlier, event.name ≠ "parse-tolerated-error" := by
  have hends := parse_ends parser settings source path sink
  generalize parse parser settings source path sink = run at hends
  cases hends with
  | cut h => exact absurd h hretry
  | refused _ h' => exact absurd h' h.not_fails
  | accepted events _ h' hevents =>
    obtain ⟨rfl, rfl⟩ := h.unique h'
    exact ⟨events, rfl, hevents⟩

/-- The event of going on to the other grammar ends parsing if its line is too long. -/
theorem result_parse_of_overlongRetry {parser : Parser} {settings : Settings} {source : String}
    {sink : Log.Sink} (h : OverlongRetry parser settings source sink) (path : String) :
    (parse parser settings source path sink).result = .error .tooManyDigits := by
  obtain ⟨hscript, hmodule, hadmits, hline, hlong⟩ := h
  have htakes := (overlongRetry_iff hscript hmodule).mp ⟨hscript, hmodule, hadmits, hline, hlong⟩
  have hoptions : ({ jsx := settings.jsx } : ParserOptions) = settings.parserOptions := rfl
  simp only [parse, hoptions, hscript, hmodule, htakes, if_true, Bool.false_eq_true, if_false]

section

variable {program : Node} {identity : Nat} {errors : List RecordedError}

/-- Recorded errors are told one by one. -/
theorem toleratedErrors_of_recorded
    (h : program.attr "errors" = .list identity (errors.map (·.value))) :
    toleratedErrors program = errors.mapM fun e => toleratedError e.value := by
  unfold toleratedErrors
  rw [h, Value.elements_list]
  show (errors.map (·.value)).mapM toleratedError = _
  rw [List.mapM_map]
  rfl

/-- They are told up to the first one that holds too long a number. -/
theorem toleratedErrors_of_overlong
    (h : program.attr "errors" = .list identity (errors.map (·.value))) {e : RecordedError}
    (he : e ∈ errors) (hlong : e.value.Overlong) :
    toleratedErrors program = .error .tooManyDigits := by
  have hcases := fun e : RecordedError => toleratedError_cases e.isText_message
  rw [toleratedErrors_of_recorded h]
  refine mapM_eq_error_of_exists (fun e _ => ?_) ⟨e, he, ?_⟩
  · exact (hcases e).imp (Exists.imp fun _ => And.left) And.left
  · rcases hcases e with ⟨-, -, hshort⟩ | ⟨herror, -⟩
    · exact absurd hlong hshort
    · exact herror

end

/-- The events of tolerated errors are found again behind the others. -/
theorem filter_tolerated {earlier : List Log.Event} (verbose : Bool) (warnings : List String)
    (h : ∀ event ∈ earlier, event.name ≠ "parse-tolerated-error") :
    let told : List Log.Event := if verbose then warnings.map fun warning =>
      ⟨.warning, "parse-tolerated-error", [("detail", .str warning)]⟩ else []
    (earlier ++ told).filter (fun event => event.name == "parse-tolerated-error") = told := by
  intro told
  have hnone : earlier.filter (fun event => event.name == "parse-tolerated-error") = [] := by
    rw [List.filter_eq_nil_iff]
    intro event hevent
    simpa using h event hevent
  rw [List.filter_append, hnone, List.nil_append, List.filter_eq_self]
  intro event hevent
  cases verbose with
  | true =>
    obtain ⟨warning, -, rfl⟩ := List.mem_map.mp hevent
    rfl
  | false => exact absurd hevent List.not_mem_nil

/-- **Tolerated errors.**  Over every program whose record of errors lists errors, with lines and
    messages and without words of their own, parsing gives one warning for each of them, in their
    order, and tells each warning in an event of its own just if the settings are verbose.  The
    warnings are the lines with the messages, without a leading line number, just if no error is a
    dictionary, nor an object with an empty message.  A number that is too long to be written, in
    an error or in the event of going on to the other grammar, makes parsing fail. -/
theorem parse_warns_of_errors {parser : Parser} {settings : Settings} {source : String}
    {grammar : Grammar} {program : Node} (path : String) (sink : Log.Sink)
    (haccepts : Accepts parser settings source grammar program)
    {identity : Nat} {errors : List RecordedError}
    (herrors : program.attr "errors" = .list identity (errors.map (·.value))) :
    ((∀ e ∈ errors, ¬e.value.Overlong) → ¬OverlongRetry parser settings source sink →
      ∃ warnings,
        (parse parser settings source path sink).result = .ok ⟨program, grammar, warnings⟩ ∧
        List.Forall₂ RecordedError.Warned errors warnings ∧
        ((parse parser settings source path sink).events.filter
          fun event => event.name == "parse-tolerated-error") =
            (if settings.verbose then warnings.map fun warning =>
              ⟨.warning, "parse-tolerated-error", [("detail", .str warning)]⟩ else []) ∧
        (List.Forall₂ (fun e warning => ProperWarning e.line e.message warning) errors warnings ↔
          ∀ e ∈ errors, e.IsReadable)) ∧
    ((∃ e ∈ errors, e.value.Overlong) ∨ OverlongRetry parser settings source sink →
      (parse parser settings source path sink).result = .error .tooManyDigits) := by
  constructor
  · intro hshort hretry
    obtain ⟨earlier, hparse, hearlier⟩ := haccepts.parse_eq path hretry
    obtain ⟨warnings, hwarnings, hwarned⟩ := exists_mapM_forall₂ fun e (he : e ∈ errors) =>
      e.exists_warned (hshort e he)
    rw [hparse, acceptProgram_of_toleratedErrors settings
      ((toleratedErrors_of_recorded herrors).trans hwarnings)]
    exact ⟨warnings, rfl, hwarned, filter_tolerated settings.verbose warnings hearlier,
      RecordedError.forall₂_proper_iff hwarned⟩
  · intro hlong
    by_cases hretry : OverlongRetry parser settings source sink
    · exact result_parse_of_overlongRetry hretry path
    · obtain ⟨earlier, hparse, -⟩ := haccepts.parse_eq path hretry
      obtain ⟨e, he, hlong⟩ := hlong.resolve_right hretry
      rw [hparse, acceptProgram_of_error settings (toleratedErrors_of_overlong herrors he hlong)]

/-- The entries of an error in a source that returns outside of a function. -/
def illegalReturnEntries : List (String × Value) :=
  [("message", .str "Error: Line 1: Illegal return statement"), ("index", .int 6),
   ("lineNumber", .int 1), ("column", .int 7)]

theorem tellsError_illegalReturn :
    TellsError illegalReturnEntries 1 "Error: Line 1: Illegal return statement" where
  line := rfl
  message := rfl
  undescribed := by
    intro d hd
    cases hd

/-- A dictionary records the error. -/
def illegalReturn : RecordedError where
  value := .dictionary 2 illegalReturnEntries
  line := 1
  message := "Error: Line 1: Illegal return statement"
  recorded := .dictionary tellsError_illegalReturn

/-- A fault with a line number in its message, which is not to be told twice. -/
def unexpectedToken : RecordedError where
  value := .fault 3 { message := some "Line 4: Unexpected token", line := some 4 }
  line := 4
  message := "Line 4: Unexpected token"
  recorded := .fault rfl rfl fun d hd => by cases hd.1

/-- A program with errors that the parser went on from. -/
def recoveredProgram (errors : List RecordedError) : Node :=
  { type := some "Program", attributes := [("errors", .list 1 (errors.map (·.value)))] }

/-- Accepts every source as the program. -/
def recoveringParser (errors : List RecordedError) : Parser :=
  fun _ _ _ => .ok (recoveredProgram errors)

theorem parse_warns_of_errors_unexpectedToken :
    Accepts (recoveringParser [unexpectedToken]) { verbose := true } "x;" .script
      (recoveredProgram [unexpectedToken]) ∧
    (recoveredProgram [unexpectedToken]).attr "errors" =
      .list 1 ([unexpectedToken].map (·.value)) ∧
    (∀ e ∈ [unexpectedToken], ¬e.value.Overlong) ∧
    ¬OverlongRetry (recoveringParser [unexpectedToken]) { verbose := true } "x;" .library ∧
    ∃ warnings,
      (parse (recoveringParser [unexpectedToken]) { verbose := true } "x;" "n.js").result =
        .ok ⟨recoveredProgram [unexpectedToken], .script, warnings⟩ ∧
      List.Forall₂ (fun e warning => ProperWarning e.line e.message warning) [unexpectedToken]
        warnings := by
  have haccepts : Accepts (recoveringParser [unexpectedToken]) { verbose := true } "x;" .script
      (recoveredProgram [unexpectedToken]) := .script rfl
  have hshort : ∀ e ∈ [unexpectedToken], ¬e.value.Overlong := by
    rw [List.forall_mem_singleton]
    intro hlong
    cases hlong with
    | line h => exact absurd h (by decide +kernel)
    | description hd _ => cases hd
    | whole _ hm _ => cases hm
  have hretry : ¬OverlongRetry (recoveringParser [unexpectedToken]) { verbose := true } "x;"
      .library := not_overlongRetry_of_ok rfl
  refine ⟨haccepts, rfl, hshort, hretry, ?_⟩
  obtain ⟨warnings, hresult, -, -, hproper⟩ :=
    (parse_warns_of_errors "n.js" .library haccepts rfl).1 hshort hretry
  refine ⟨warnings, hresult, hproper.mpr ?_⟩
  rw [List.forall_mem_singleton]
  trivial

/-- A dictionary that records an error is quoted instead of its message, and its line is not
    told. -/
theorem parse_quotes_illegalReturn :
    (parse (recoveringParser [illegalReturn]) {} "return" "n.js").result =
      .ok ⟨recoveredProgram [illegalReturn], .script,
        ["line ?: " ++ illegalReturn.value.quoted]⟩ ∧
    ¬ProperWarning 1 "Error: Line 1: Illegal return statement"
      ("line ?: " ++ illegalReturn.value.quoted) := by
  refine ⟨?_, RecordedError.not_properWarning_questionMark _ _ _⟩
  have hwarning : toleratedError illegalReturn.value =
      .ok ("line ?: " ++ illegalReturn.value.quoted) :=
    toleratedError_dictionary (by decide +kernel)
  have htolerated : toleratedErrors (recoveredProgram [illegalReturn]) =
      .ok ["line ?: " ++ illegalReturn.value.quoted] := by
    show [illegalReturn.value].mapM toleratedError = _
    rw [List.mapM_cons, hwarning, List.mapM_nil]
    rfl
  show (acceptProgram _ _ _ _ _).result = _
  rw [acceptProgram_of_toleratedErrors _ htolerated]

end SymbolTags
