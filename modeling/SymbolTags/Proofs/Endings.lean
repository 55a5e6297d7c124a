import SymbolTags.Proofs.OwnModule
import SymbolTags.Proofs.ParseEndings
import SymbolTags.Proofs.Shift

namespace SymbolTags

open Syntax

/-!
# Endings — the ways in which tagging a source ends

Tagging refuses a missing source or path, fails when no permitted grammar accepts the source, and
gives a report in all other cases, provided that the parser keeps to the types of its output and
that no number that has to be written has too many digits:

* `Emission.Total` — every lookup on the way from the arena to the tags finds something;
* `Overlong` — where a number of a run is too long to be written;
* `TagEnds` — the ways in which a run ends, and `tagSource_ends`, which says that there are no
  others;
* `tagSource_endings` — the endings, with the exact condition for each.
-/

/-! ### Lookups -/

/-- Everything that is looked up on the way to a report is there. -/
structure Emission.Total (e : Emission) : Prop where
  /-- The parent of an occurrence stands in the arena. -/
  parent : ∀ {i o l}, e.classifier.tree.get? i = some o → o.link = some l →
    ∃ p, e.classifier.tree.get? l.parent = some p
  /-- So do its children. -/
  children : ∀ {i o k}, e.classifier.tree.get? i = some o → k ∈ o.children →
    ∃ c, e.classifier.tree.get? k = some c
  /-- Every name that is classified has a verdict, before the policies and after them. -/
  verdict : ∀ o ∈ e.classifier.tree.identifiers,
    e.classifier.base o = .ok (e.classifier.baseVerdict o) ∧
    e.classifier.classify o = .ok (e.classifier.verdict o)
  /-- Just the verdicts that are tagged are asked for a kind, and they have one. -/
  kind : ∀ o ∈ e.classifier.tree.identifiers, ∀ ls,
    ((e.ownTag? ls o).isSome = (e.classifier.verdict o).isTagged) ∧
    ∀ tag ∈ e.ownTag? ls o, TagKind.ofVerdict (e.classifier.verdict o) = .ok tag.kind
  /-- Every name can be scanned, and what is found belongs to a lookup function. -/
  lookup : ∀ o ∈ e.classifier.tree.identifiers,
    Selector.scan e.classifier e.source o = .ok (Selector.references e.classifier e.source o) ∧
    (Selector.references e.classifier e.source o ≠ [] →
      ∃ name ∈ Selector.lookupNames, o.name = .str name)

namespace Emission

/-- The kind of an own tag is that of the verdict. -/
theorem ofVerdict_of_ownTag? {e : Emission} {ls : Array (List Char)} {o : Occurrence} {tag : Tag}
    (h : e.ownTag? ls o = some tag) :
    TagKind.ofVerdict (e.classifier.verdict o) = .ok tag.kind := by
  obtain ⟨kind, hkind, rfl⟩ := Option.map_eq_some_iff.mp h
  unfold TagKind.ofVerdict
  rw [hkind]
  rfl

/-- **Lookups.**  On a textual tree no lookup fails. -/
theorem total_of_textual {root : Node} (h : root.Textual) {e : Emission}
    (he : e.classifier.tree = Tree.ofRoot root) : e.Total := by
  have hlayout : e.classifier.tree.Layout root := he ▸ Tree.ofRoot_layout root
  have hget : ∀ o ∈ e.classifier.tree.identifiers, e.classifier.tree.get? o.index = some o := by
    rw [he]
    exact fun o ho => Tree.get?_of_mem_identifiers root ho
  -- a name has the type that classification asks for, and a textual tree has no fault
  have hanswer : ∀ o ∈ e.classifier.tree.identifiers, ∀ v, e.classifier.answer o v = .ok v := by
    intro o ho v
    unfold Classifier.answer
    rw [if_pos (List.mem_filter.mp ho).2, Classifier.fault?_eq_none h he (hget o ho)]
  constructor
  case parent =>
    intro i o l ho hl
    by_cases hi : i = 0
    · -- the root is the one occurrence without a link
      obtain ⟨top, htop, -, hnone⟩ := hlayout.root_get
      rw [hi, htop, Option.some.injEq] at ho
      rw [← ho, hnone] at hl
      cases hl
    · obtain ⟨l', p, hl', -, hp, -⟩ := hlayout.linked ho hi
      rw [hl, Option.some.injEq] at hl'
      exact ⟨p, hl' ▸ hp⟩
  case children =>
    intro i o k ho hk
    obtain ⟨-, c, -, hc, -⟩ := hlayout.of_mem_children ho hk
    exact ⟨c, hc⟩
  case verdict => exact fun o ho => ⟨hanswer o ho _, hanswer o ho _⟩
  case kind =>
    intro o _ ls
    refine ⟨?_, fun tag htag => ofVerdict_of_ownTag? htag⟩
    rw [ownTag?, Option.isSome_map, TagKind.isSome_ofVerdict?]
  case lookup =>
    intro o ho
    refine ⟨?_, fun h => (Selector.of_references_ne_nil h).2⟩
    unfold Selector.scan
    rw [Selector.fault?_eq_none h he (hget o ho)]

end Emission

/-- A name that is a text is reported as one. -/
theorem Emission.exists_shownName {o : Occurrence} (h : o.name.IsText) :
    ∃ name, Emission.shownName o = .str name := by
  unfold shownName
  cases hname : o.name with
  | null => exact ⟨_, rfl⟩
  | str s =>
    split_ifs
    · exact ⟨s, rfl⟩
    · exact ⟨_, rfl⟩
  | _ =>
    rw [hname] at h
    exact h.elim

/-- The diagnostics of a textual tree are named by texts. -/
theorem Emission.isWritable_name_of_mem_diagnostics {root : Node} (h : root.Textual)
    {e : Emission} (he : e.classifier.tree = Tree.ofRoot root) {d : Diagnostic}
    (hd : d ∈ e.report.diagnostics) : d.name.isWritable = true := by
  obtain ⟨o, ho, hd⟩ := List.mem_filterMap.mp hd
  -- What is reported is a first part of the identifiers.
  have hmem : o ∈ e.classifier.tree.identifiers := List.takeWhile_subset _ ho
  rw [he] at hmem
  have htext := Tree.isText_name h (Tree.get?_of_mem_identifiers root hmem)
  unfold diagnostic? at hd
  split_ifs at hd
  cases hd
  obtain ⟨name, hname⟩ := exists_shownName htext
  show (shownName o).isWritable = true
  rw [hname]
  rfl

/-! ### Runs -/

/-- The source or the path is missing. -/
def LacksInput (source : String) (path : Option String) : Prop :=
  source = "" ∨ path = none ∨ path = some ""

/-- A parser refuses a source under a grammar. -/
def Refuses (parser : Parser) (settings : Settings) (source : String) (grammar : Grammar) : Prop :=
  ∃ fault, parser grammar settings.parserOptions source = .error fault

/-- No grammar that may be tried accepts a source. -/
def Unparsable (parser : Parser) (settings : Settings) (source : String) : Prop :=
  Refuses parser settings source .script ∧
    (settings.moduleRetry = false ∨ Refuses parser settings source .module)

/-- The script grammar comes first, and the module grammar only after its failure.  Nothing but an
    event that cannot be written comes between the two. -/
def CalledInTurn (parser : Parser) (settings : Settings) (source : String) (sink : Log.Sink)
    (calls : List ParserCall) : Prop :=
  (calls = [⟨.script, settings.parserOptions⟩, ⟨.module, settings.parserOptions⟩] ∧
    settings.moduleRetry = true ∧ Refuses parser settings source .script ∧
    ¬OverlongRetry parser settings source sink) ∨
  (calls = [⟨.script, settings.parserOptions⟩] ∧
    (settings.moduleRetry = true ∧ Refuses parser settings source .script →
      OverlongRetry parser settings source sink))

/-- A failure tells the path, and the line and the words of the fault of the last call. -/
def TellsLastFault (parser : Parser) (source : String) (path : Option String)
    (calls : List ParserCall) (f : SyntaxFailure) : Prop :=
  path = some f.path ∧ ∃ call fault, calls.getLast? = some call ∧
    parser call.grammar call.options source = .error fault ∧
    f.line = fault.line ∧ fault.Worded f.description

section

variable (parser : Parser) (settings : Settings) (source : String) (path : Option String)
  (offsets : Offsets) (sink : Log.Sink)

/-- A number that a run has to write is too long. -/
inductive Overlong : Prop
  | parse (h : OverlongParse parser settings source sink)
  /-- The position of a name without a rule, where warnings are written. -/
  | position {grammar : Grammar} {program : Node} {d : Diagnostic}
      (h : Accepts parser settings source grammar program) (hadmits : sink.admits .warning = true)
      (hd : d ∈ (emissionOf settings (Tree.ofRoot program) source (path.getD "")
        offsets).report.diagnostics) (hlong : ¬d.PositionWritable)
  /-- The number of tags, diagnostics or shared nodes, where the closing event is written. -/
  | counts {grammar : Grammar} {program : Node}
      (h : Accepts parser settings source grammar program) (hadmits : sink.admits .debug = true)
      (hlong : ¬(emissionOf settings (Tree.ofRoot program) source (path.getD "")
        offsets).report.CountsWritable (Tree.ofRoot program))

/-- The ways in which a run over a source ends. -/
inductive TagEnds : TagRun → Prop
  | emptySource (h : source = "") : TagEnds ⟨.error .emptySource, [], []⟩
  | emptyPath (h : path = none ∨ path = some "") : TagEnds ⟨.error .emptyPath, [], []⟩
  | overlong {calls : List ParserCall} {events : List Log.Event}
      (hinput : ¬LacksInput source path) (hcalls : CalledInTurn parser settings source sink calls)
      (h : Overlong parser settings source path offsets sink) :
      TagEnds ⟨.error .tooManyDigits, calls, events⟩
  | refused {f : SyntaxFailure} {calls : List ParserCall} {events : List Log.Event}
      (hinput : ¬LacksInput source path) (hcalls : CalledInTurn parser settings source sink calls)
      (hshort : ¬Overlong parser settings source path offsets sink)
      (h : Unparsable parser settings source)
      (hlast : TellsLastFault parser source path calls f) :
      TagEnds ⟨.error (.syntaxFailure f), calls, events⟩
  | report {calls : List ParserCall} {events : List Log.Event} (r : Report)
      (hinput : ¬LacksInput source path) (hcalls : CalledInTurn parser settings source sink calls)
      (hshort : ¬Overlong parser settings source path offsets sink)
      (h : ¬Unparsable parser settings source) :
      TagEnds ⟨.ok r, calls, events⟩

end

section

variable {parser : Parser} {settings : Settings} {source : String} {path : Option String}
  {offsets : Offsets} {sink : Log.Sink}

theorem exists_of_not_lacksInput (h : ¬LacksInput source path) :
    source ≠ "" ∧ ∃ p, path = some p ∧ p ≠ "" := by
  obtain ⟨hsource, hnone, hempty⟩ : source ≠ "" ∧ path ≠ none ∧ path ≠ some "" := by
    simpa only [LacksInput, not_or] using h
  obtain ⟨p, rfl⟩ := Option.ne_none_iff_exists'.mp hnone
  exact ⟨hsource, p, rfl, fun hp => hempty (congrArg some hp)⟩

/-- A source that is refused for good is refused by every grammar that may be tried. -/
theorem Fails.unparsable {grammar : Grammar} {f : Fault}
    (h : Fails parser settings source grammar f) : Unparsable parser settings source := by
  cases h with
  | script h hretry => exact ⟨⟨_, h⟩, .inl hretry⟩
  | module hscript _ h => exact ⟨⟨_, hscript⟩, .inr ⟨_, h⟩⟩

/-- A source that is accepted is not. -/
theorem Accepts.not_unparsable {grammar : Grammar} {program : Node}
    (h : Accepts parser settings source grammar program) :
    ¬Unparsable parser settings source := by
  rintro ⟨⟨f, hscript⟩, hmodule⟩
  cases hretry : settings.moduleRetry with
  | false => exact h.not_fails (.script hscript hretry)
  | true =>
    rcases hmodule with hmodule | ⟨g, hmodule⟩
    · cases hretry.symm.trans hmodule
    · exact h.not_fails (.module hscript hretry hmodule)

/-- The module grammar is tried after a failure of the script grammar, if it may be. -/
theorem calledInTurn_of_refuses {f : Fault}
    (hscript : parser .script settings.parserOptions source = .error f)
    (hretry : settings.moduleRetry = true)
    (hshort : ¬OverlongRetry parser settings source sink) :
    CalledInTurn parser settings source sink (settings.callsUpTo .module) :=
  .inl ⟨rfl, hretry, ⟨_, hscript⟩, hshort⟩

/-- **Calls.**  The parser is called for one grammar after the other. -/
theorem ParseEnds.calledInTurn {p : String} {run : ParseRun}
    (h : ParseEnds parser settings source p sink run) :
    CalledInTurn parser settings source sink run.calls := by
  cases h with
  | cut h => exact .inr ⟨rfl, fun _ => h⟩
  | refused hretry h =>
    cases h with
    | script _ hmodule => exact .inr ⟨rfl, by simp [hmodule]⟩
    | module hscript hmodule _ => exact calledInTurn_of_refuses hscript hmodule hretry
  | @accepted grammar program events hretry h _ =>
    rw [calls_acceptProgram]
    cases h with
    | script h =>
      refine .inr ⟨rfl, ?_⟩
      -- The script grammar accepted, so it cannot have refused.
      rintro ⟨-, f, hf⟩
      cases h.symm.trans hf
    | module hscript hmodule _ => exact calledInTurn_of_refuses hscript hmodule hretry

/-- **Failures.**  What is told of a source that cannot be parsed is the fault of the last call. -/
theorem ParseEnds.tellsLastFault (hparser : ParserWellTyped parser settings source) {p : String}
    {run : ParseRun} (h : ParseEnds parser settings source p sink run) {f : SyntaxFailure}
    (hf : run.result = .error (.refused f)) :
    TellsLastFault parser source (some p) run.calls f := by
  cases h with
  | cut _ => cases hf
  | @refused grammar fault events _ h =>
    have hfault : f = .ofFault p fault := by
      have hresult : ParseError.ofFault p fault = .refused f := Except.error.inj hf
      unfold ParseError.ofFault at hresult
      split_ifs at hresult
      exact (ParseError.refused.inj hresult).symm
    rw [hfault]
    cases h with
    | script h _ => exact ⟨rfl, _, _, rfl, h, rfl, fault.worded_describe⟩
    | module _ _ h => exact ⟨rfl, _, _, rfl, h, rfl, fault.worded_describe⟩
  | accepted _ _ h _ =>
    -- the errors of a well-typed program cannot be refused like a source
    rcases toleratedErrors_cases (h.wellTyped hparser) with ⟨_, hwarnings, -⟩ | ⟨herror, -⟩
    · rw [acceptProgram_of_toleratedErrors settings hwarnings] at hf
      cases hf
    · rw [acceptProgram_of_error settings herror] at hf
      cases hf

/-- A number of the report on an accepted program is too long just if an event of it cannot be
    written. -/
theorem overlong_iff_of_accepts {grammar : Grammar} {program : Node} (htextual : program.Textual)
    (h : Accepts parser settings source grammar program)
    (hshort : ¬OverlongParse parser settings source sink) (warnings : List String) :
    Overlong parser settings source path offsets sink ↔
      ¬(reportOn settings ⟨program, grammar, warnings⟩ source (path.getD "") offsets).2.all
        sink.takes = true := by
  have hfault : (emissionOf settings (Tree.ofRoot program) source (path.getD "") offsets).fault?
      = none := Emission.fault?_eq_none htextual rfl
  rw [all_takes_reportOn_iff, not_and_or]
  constructor
  · rintro (hparse | @⟨_, _, d, h', hadmits, hd, hlong⟩ | ⟨h', hadmits, hlong⟩)
    · exact absurd hparse hshort
    · rw [← (h.unique h').2] at hd
      exact .inl fun hall => hlong (hall hadmits d hd).toPositionWritable
    · rw [← (h.unique h').2] at hlong
      exact .inr fun hcounts => hlong (hcounts hadmits hfault)
  · rintro (hdiagnostics | hcounts)
    · obtain ⟨hadmits, hlong⟩ := Classical.not_imp.mp hdiagnostics
      obtain ⟨d, hd, hlong⟩ : ∃ d, ∃ _ : d ∈ (emissionOf settings (Tree.ofRoot program) source
          (path.getD "") offsets).report.diagnostics, ¬d.IsWritable := by
        simpa only [not_forall] using hlong
      -- the name of the diagnostic is a text, so its position is at fault
      exact .position h hadmits hd fun hposition => hlong
        ⟨hposition, Emission.isWritable_name_of_mem_diagnostics htextual rfl hd⟩
    · obtain ⟨hadmits, hlong⟩ := Classical.not_imp.mp hcounts
      exact .counts h hadmits fun hcounts => hlong fun _ => hcounts

/-- **Runs.**  With a well-typed parser, a run ends in one of these ways. -/
theorem tagSource_ends (hparser : ParserWellTyped parser settings source) (path : Option String)
    (offsets : Offsets) (sink : Log.Sink) :
    TagEnds parser settings source path offsets sink
      (tagSource parser settings source path offsets sink) := by
  by_cases hinput : LacksInput source path
  · by_cases hsource : source = ""
    · rw [tagSource, if_pos hsource]
      exact .emptySource hsource
    · have hpath := hinput.resolve_left hsource
      have hempty : path.getD "" = "" := by rcases hpath with rfl | rfl <;> rfl
      simp only [tagSource, if_neg hsource, if_pos hempty]
      exact .emptyPath hpath
  · obtain ⟨hsource, p, rfl, hp⟩ := exists_of_not_lacksInput hinput
    have hends := parse_ends parser settings source p sink
    have hresult := hends.parseResult hparser
    have hcalls := hends.calledInTurn
    have hlast := fun f => hends.tellsLastFault hparser (f := f)
    simp only [tagSource, Option.getD_some, if_neg hsource, if_neg hp]
    -- from here on only the outcome and the calls of parsing count
    generalize parse parser settings source p sink = run at hresult hcalls hlast ⊢
    obtain ⟨result, calls, events⟩ := run
    simp only at hresult hcalls hlast ⊢
    cases hresult with
    | overlong h => exact .overlong hinput hcalls (.parse h)
    | refused hshort h =>
      refine .refused hinput hcalls ?_ h.unparsable (hlast _ rfl)
      rintro (hparse | ⟨h', -, -⟩ | ⟨h', -, -⟩)
      · exact hshort hparse
      · exact h'.not_fails h
      · exact h'.not_fails h
    | @accepted grammar program warnings hshort h =>
      have htextual := (h.wellTyped hparser).textual
      have hiff : Overlong parser settings source (some p) offsets sink ↔ _ :=
        overlong_iff_of_accepts htextual h hshort warnings
      have hfault : (emissionOf settings (Tree.ofRoot program) source p offsets).fault? = none :=
        Emission.fault?_eq_none htextual rfl
      rw [Option.getD_some] at hiff
      by_cases htakes : (reportOn settings ⟨program, grammar, warnings⟩ source p offsets).2.all
          sink.takes = true
      · simp only [htakes, if_true, fst_reportOn, hfault]
        exact .report _ hinput hcalls (fun hlong => hiff.mp hlong htakes) h.not_unparsable
      · simp only [if_neg htakes]
        exact .overlong hinput hcalls (hiff.mpr htakes)

end

/-- A run with both inputs at hand tells if a number is too long. -/
theorem TagEnds.not_overlong {parser : Parser} {settings : Settings} {source : String}
    {path : Option String} {offsets : Offsets} {sink : Log.Sink} {run : TagRun}
    (h : TagEnds parser settings source path offsets sink run) (hinput : ¬LacksInput source path)
    (hresult : run.result ≠ .error .tooManyDigits) :
    ¬Overlong parser settings source path offsets sink := by
  cases h with
  | emptySource hsource => exact absurd (.inl hsource) hinput
  | emptyPath hpath => exact absurd (.inr hpath) hinput
  | overlong _ _ _ => exact absurd rfl hresult
  | refused _ _ hshort _ _ => exact hshort
  | report _ _ _ hshort _ => exact hshort

/-- A run that fails in the documented ways alone, or for a number that is too long. -/
structure EndsAsDocumented (parser : Parser) (settings : Settings) (source : String)
    (path : Option String) (offsets : Offsets) (sink : Log.Sink) (run : TagRun) : Prop where
  /-- A run is refused exactly if its source or path is missing … -/
  input : (run.result = .error .emptySource ∨ run.result = .error .emptyPath) ↔
    LacksInput source path
  /-- … and this comes before any call of the parser. -/
  uncalled : LacksInput source path → run.calls = []
  /-- With both at hand, a number is at fault exactly if it is too long to be written. -/
  overlong : ¬LacksInput source path → (run.result = .error .tooManyDigits ↔
    Overlong parser settings source path offsets sink)
  /-- Apart from that the source is at fault exactly if no permitted grammar accepts it. -/
  syntaxFailure : ¬LacksInput source path →
    ((∃ f, run.result = .error (.syntaxFailure f)) ↔
      Unparsable parser settings source ∧ ¬Overlong parser settings source path offsets sink)
  /-- The failure tells the path, and the line and the words of the last fault. -/
  failure : ∀ f, run.result = .error (.syntaxFailure f) → path = some f.path ∧
    ∃ call fault, run.calls.getLast? = some call ∧
      parser call.grammar call.options source = .error fault ∧
      f.line = fault.line ∧ fault.Worded f.description
  /-- Everything else has a report. -/
  report : ¬LacksInput source path → ¬Unparsable parser settings source →
    ¬Overlong parser settings source path offsets sink → ∃ r, run.result = .ok r
  /-- The script grammar comes first, and the module grammar only after its failure. -/
  called : ¬LacksInput source path → CalledInTurn parser settings source sink run.calls

section

variable {parser : Parser} {settings : Settings} {source : String} {path : Option String}
  {offsets : Offsets} {sink : Log.Sink}

/-- Nothing is asked of a run without a source or path but that it is refused. -/
theorem EndsAsDocumented.of_lacksInput {e : TagError} (h : LacksInput source path)
    (he : e = .emptySource ∨ e = .emptyPath) :
    EndsAsDocumented parser settings source path offsets sink ⟨.error e, [], []⟩ where
  input := ⟨fun _ => h, fun _ => he.imp (congrArg _) (congrArg _)⟩
  uncalled := fun _ => rfl
  overlong := fun hn => absurd h hn
  syntaxFailure := fun hn => absurd h hn
  failure := fun f hf => by
    rw [Except.error.inj hf] at he
    rcases he with he | he <;> cases he
  report := fun hn => absurd h hn
  called := fun hn => absurd h hn

/-- Each way to end is a documented one. -/
theorem TagEnds.endsAsDocumented {run : TagRun}
    (h : TagEnds parser settings source path offsets sink run) :
    EndsAsDocumented parser settings source path offsets sink run := by
  cases h with
  | emptySource h => exact .of_lacksInput (.inl h) (.inl rfl)
  | emptyPath h => exact .of_lacksInput (.inr h) (.inr rfl)
  | overlong hinput hcalls h =>
    exact {
      input := ⟨by simp, fun hl => absurd hl hinput⟩
      uncalled := fun hl => absurd hl hinput
      overlong := fun _ => ⟨fun _ => h, fun _ => rfl⟩
      syntaxFailure := fun _ => ⟨by simp, fun hu => absurd h hu.2⟩
      failure := fun _ hf => by cases hf
      report := fun _ _ hn => absurd h hn
      called := fun _ => hcalls }
  | refused hinput hcalls hshort h hlast =>
    exact {
      input := ⟨by simp, fun hl => absurd hl hinput⟩
      uncalled := fun hl => absurd hl hinput
      overlong := fun _ => ⟨by simp, fun hlong => absurd hlong hshort⟩
      syntaxFailure := fun _ => ⟨fun _ => ⟨h, hshort⟩, fun _ => ⟨_, rfl⟩⟩
      failure := fun f hf => by
        cases hf
        exact hlast
      report := fun _ hn => absurd h hn
      called := fun _ => hcalls }
  | report r hinput hcalls hshort h =>
    exact {
      input := ⟨by simp, fun hl => absurd hl hinput⟩
      uncalled := fun hl => absurd hl hinput
      overlong := fun _ => ⟨by simp, fun hlong => absurd hlong hshort⟩
      syntaxFailure := fun _ => ⟨by simp, fun hu => absurd hu.1 h⟩
      failure := fun _ hf => by cases hf
      report := fun _ _ _ => ⟨r, rfl⟩
      called := fun _ => hcalls }

end

/-- **Tagging fails in the documented ways alone, and for numbers that are too long.**  Over every
    source, path, offsets, settings and sink, and over every parser that keeps to the types of its
    output, a run is refused for a missing source or path before the parser is called, fails for
    a number that has to be written and has too many digits, fails for a source that no permitted
    grammar accepts, with the line and the words of the last one, and has a report otherwise.  On
    the way from an accepted program to its report no lookup fails. -/
theorem tagSource_endings (parser : Parser) (settings : Settings) (source : String)
    (path : Option String) (offsets : Offsets) (sink : Log.Sink)
    (hparser : ParserWellTyped parser settings source) :
    EndsAsDocumented parser settings source path offsets sink
      (tagSource parser settings source path offsets sink) ∧
    ∀ grammar program, parser grammar settings.parserOptions source = .ok program →
      (emissionOf settings (Tree.ofRoot program) source (path.getD "") offsets).Total := by
  refine ⟨(tagSource_ends hparser path offsets sink).endsAsDocumented,
    fun grammar program h => ?_⟩
  exact Emission.total_of_textual (hparser grammar program h).textual rfl

/-- A module with an error that the parser went on from. -/
def toleratedModule : Node :=
  { type := some "Program"
    attributes :=
      [("body", .list 0 [.node (Tree.sampleName 1 "x" 0)]),
       ("errors", .list 1
         [.fault 0 { message := some "Line 1: Illegal return", line := some 1 }])] }

/-- Accepts every source as a module and none as a script. -/
def moduleParser : Parser := fun grammar _ _ =>
  match grammar with
  | .script => .error { message := some "Line 1: Unexpected token export", line := some 1 }
  | .module => .ok toleratedModule

theorem tagSource_endings_moduleParser :
    ParserWellTyped moduleParser {} "x" ∧
    EndsAsDocumented moduleParser {} "x" (some "sample.js") {} .library
      (tagSource moduleParser {} "x" (some "sample.js") {} .library) ∧
    (emissionOf {} (Tree.ofRoot toleratedModule) "x" "sample.js" {}).Total := by
  have hentries : toleratedModule.entries = [⟨"body", some 0, Tree.sampleName 1 "x" 0⟩] := rfl
  have htextual : toleratedModule.Textual := by
    rw [Node.Textual, Node.forall_mem_unfold, hentries, List.forall_mem_singleton]
    refine ⟨⟨trivial, fun hkind => ?_, fun _ => trivial⟩,
      Emission.textual_sampleName _ _ _ _⟩
    exact absurd hkind (show ¬"Program" = "Literal" by decide)
  have hwellTyped : toleratedModule.WellTyped := by
    refine ⟨htextual, .inr ⟨1, _, rfl, ?_⟩⟩
    rw [List.forall_mem_singleton]
    intro m hm
    cases hm
    trivial
  have hparser : ParserWellTyped moduleParser {} "x" := by
    intro grammar program h
    cases grammar with
    | script => cases h
    | module =>
      cases h
      exact hwellTyped
  obtain ⟨hends, htotal⟩ :=
    tagSource_endings moduleParser {} "x" (some "sample.js") {} .library hparser
  exact ⟨hparser, hends, htotal .module toleratedModule rfl⟩

theorem wellTyped_withParser : ParserWellTyped withParser {} withText := by
  intro grammar program h
  cases h
  have hscript : withScript.entries = [⟨"body", some 0, withStatement⟩] := rfl
  have hstatement : withStatement.entries =
      [⟨"object", none, Tree.sampleName 2 "x" 6⟩, ⟨"body", none, withBlock⟩] := by cbv
  have hblock : withBlock.entries = [] := rfl
  refine ⟨?_, .inl rfl⟩
  rw [Node.Textual, Node.forall_mem_unfold, hscript, List.forall_mem_singleton,
    Node.forall_mem_unfold, hstatement, List.forall_mem_cons, List.forall_mem_singleton]
  refine ⟨⟨trivial, fun hkind => ?_, fun _ => trivial⟩,
    ⟨trivial, fun hkind => ?_, fun _ => trivial⟩, Emission.textual_sampleName _ _ _ _, ?_⟩
  · exact absurd hkind (show ¬"Program" = "Literal" by decide)
  · exact absurd hkind (show ¬"WithStatement" = "Literal" by decide)
  · rw [Node.forall_mem_unfold, hblock]
    refine ⟨⟨trivial, fun hkind => ?_, fun _ => trivial⟩, by simp⟩
    exact absurd hkind (show ¬"BlockStatement" = "Literal" by decide)

/-- A name without a rule ends the run if its line is too long, although there is a source under a
    path and the script grammar accepts it. -/
theorem tagSource_overlongLine :
    ParserWellTyped withParser {} withText ∧ ¬LacksInput withText (some "a.js") ∧
    ¬Unparsable withParser {} withText ∧
    ¬∃ r, (tagSource withParser {} withText (some "a.js")
      ⟨Text.writableBound - 1, 0⟩).result = .ok r := by
  refine ⟨wellTyped_withParser, by simp [LacksInput, withText], ?_, ?_⟩
  · exact Accepts.not_unparsable (.script rfl : Accepts withParser {} withText .script withScript)
  · rintro ⟨r, hr⟩
    rw [result_withParser, if_neg] at hr
    · cases hr
    · intro h
      exact absurd h.line (by decide +kernel)

end SymbolTags
