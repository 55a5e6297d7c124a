import Mathlib.Tactic.SplitIfs
import SymbolTags.Tagging.Source

namespace SymbolTags

open Syntax

/-!
# Outcomes — what a run over a source comes to

A run goes through its refusals in a fixed order, and the last of them is about numbers: the
report raises events, and one that is to be written may hold a number with too many digits.

* `result_tagSource` and `calls_tagSource`, `fst_reportOn` and `snd_reportOn` — the parts of a
  run, and those of a report, without the detours of their definitions;
* `Refused` — the reasons for which a run has no report;
* `Diagnostic.IsWritable` and `Report.CountsWritable` — what is written of a report is short
  enough, and `all_takes_reportOn_iff`, which says that nothing else matters to a sink.
-/

/-! ### Runs -/

/-- The outcome of a run: the refusals in their order, or the report. -/
theorem result_tagSource (parser : Parser) (settings : Settings) (source : String)
    (path : Option String) (offsets : Offsets) (sink : Log.Sink) :
    (tagSource parser settings source path offsets sink).result =
      if source = "" then .error .emptySource
      else if path.getD "" = "" then .error .emptyPath
      else
        match (parse parser settings source (path.getD "") sink).result with
        | .error e => .error (.ofParseError e)
        | .ok parsed =>
          if (reportOn settings parsed source (path.getD "") offsets).2.all sink.takes then
            (reportOn settings parsed source (path.getD "") offsets).1.mapError .illTyped
          else .error .tooManyDigits := by
  simp only [tagSource]
  by_cases hsource : source = ""
  · rw [if_pos hsource, if_pos hsource]
  by_cases hpath : path.getD "" = ""
  · rw [if_neg hsource, if_neg hsource, if_pos hpath, if_pos hpath]
  rw [if_neg hsource, if_neg hsource, if_neg hpath, if_neg hpath]
  cases (parse parser settings source (path.getD "") sink).result <;> rfl

/-- The calls of a run are those of its parsing. -/
theorem calls_tagSource (parser : Parser) (settings : Settings) {source path : String}
    (hsource : source ≠ "") (hpath : path ≠ "") (offsets : Offsets) (sink : Log.Sink) :
    (tagSource parser settings source (some path) offsets sink).calls =
      (parse parser settings source path sink).calls := by
  simp only [tagSource, Option.getD_some]
  rw [if_neg hsource, if_neg hpath]
  cases (parse parser settings source path sink).result <;> rfl

/-- The report on a parsed program, or what ends it. -/
theorem fst_reportOn (settings : Settings) (parsed : Parsed) (source path : String)
    (offsets : Offsets) :
    (reportOn settings parsed source path offsets).1 =
      match (emissionOf settings (Tree.ofRoot parsed.program) source path offsets).fault? with
      | some fault => .error fault
      | none => .ok
        { (emissionOf settings (Tree.ofRoot parsed.program) source path offsets).report with
          warnings := parsed.warnings } := by
  simp only [reportOn]
  cases (emissionOf settings (Tree.ofRoot parsed.program) source path offsets).fault? <;> rfl

/-- The events of a report: those of shared nodes, those of the diagnostics, and the closing one
    unless something ends the report before. -/
theorem snd_reportOn (settings : Settings) (parsed : Parsed) (source path : String)
    (offsets : Offsets) :
    (reportOn settings parsed source path offsets).2 =
      sharingEvents (Tree.ofRoot parsed.program) ++
        (emissionOf settings (Tree.ofRoot parsed.program) source path
          offsets).report.diagnostics.map Diagnostic.event ++
        if (emissionOf settings (Tree.ofRoot parsed.program) source path offsets).fault?.isNone
          then [taggedEvent parsed.grammar
            (emissionOf settings (Tree.ofRoot parsed.program) source path offsets).report
            (Tree.ofRoot parsed.program)]
          else [] := by
  simp only [reportOn]
  cases (emissionOf settings (Tree.ofRoot parsed.program) source path offsets).fault? with
  | none => rfl
  | some fault => exact (List.append_nil _).symm

section

variable (parser : Parser) (settings : Settings) (source : String) (path : Option String)
  (offsets : Offsets) (sink : Log.Sink)

/-- The reasons for which a run over a source has no report. -/
inductive Refused : TagError → Prop
  | emptySource (h : source = "") : Refused .emptySource
  | emptyPath (hsource : source ≠ "") (h : path.getD "" = "") : Refused .emptyPath
  | unparsed {e : ParseError} (hsource : source ≠ "") (hpath : path.getD "" ≠ "")
      (h : (parse parser settings source (path.getD "") sink).result = .error e) :
      Refused (.ofParseError e)
  /-- An event that is to be written holds a number with too many digits. -/
  | unwritten {parsed : Parsed} {e : Log.Event} (hsource : source ≠ "") (hpath : path.getD "" ≠ "")
      (hparse : (parse parser settings source (path.getD "") sink).result = .ok parsed)
      (he : e ∈ (reportOn settings parsed source (path.getD "") offsets).2)
      (hadmits : sink.admits e.level = true) (hlong : e.isWritable = false) :
      Refused .tooManyDigits
  | illTyped {parsed : Parsed} {fault : IllTyped} (hsource : source ≠ "")
      (hpath : path.getD "" ≠ "")
      (hparse : (parse parser settings source (path.getD "") sink).result = .ok parsed)
      (hfault : (emissionOf settings (Tree.ofRoot parsed.program) source (path.getD "")
        offsets).fault? = some fault) :
      Refused (.illTyped fault)

variable {parser settings source path offsets sink}

/-- A run without a report is refused for one of these reasons. -/
theorem refused_of_result {e : TagError}
    (h : (tagSource parser settings source path offsets sink).result = .error e) :
    Refused parser settings source path offsets sink e := by
  rw [result_tagSource] at h
  split_ifs at h with hsource hpath
  · cases h
    exact .emptySource hsource
  · cases h
    exact .emptyPath hsource hpath
  cases hparse : (parse parser settings source (path.getD "") sink).result with
  | error e' =>
    rw [hparse] at h
    cases h
    exact .unparsed hsource hpath hparse
  | ok parsed =>
    simp only [hparse] at h
    split_ifs at h with htaken
    · rw [fst_reportOn] at h
      split at h
      · cases h
        exact .illTyped hsource hpath hparse ‹_›
      · cases h
    · -- some event is to be written and cannot be
      cases h
      rw [Bool.not_eq_true, List.all_eq_false] at htaken
      obtain ⟨e, he, hrefused⟩ := htaken
      obtain ⟨hadmits, hlong⟩ := Log.Sink.takes_eq_false_iff.mp (Bool.not_eq_true _ ▸ hrefused)
      exact .unwritten hsource hpath hparse he hadmits hlong

/-- A run with a report has parsed its source. -/
theorem exists_parsed_of_result {r : Report}
    (h : (tagSource parser settings source path offsets sink).result = .ok r) :
    ∃ parsed, (parse parser settings source (path.getD "") sink).result = .ok parsed ∧
      (reportOn settings parsed source (path.getD "") offsets).1 = .ok r := by
  rw [result_tagSource] at h
  split_ifs at h
  cases hparse : (parse parser settings source (path.getD "") sink).result with
  | error e' =>
    rw [hparse] at h
    cases h
  | ok parsed =>
    simp only [hparse] at h
    split_ifs at h
    refine ⟨parsed, rfl, ?_⟩
    cases hreport : (reportOn settings parsed source (path.getD "") offsets).1 with
    | error fault =>
      rw [hreport] at h
      cases h
    | ok r' =>
      rw [hreport] at h
      exact congrArg Except.ok (Except.ok.inj h)

end

/-! ### Numbers in events -/

/-- The position of a diagnostic is short enough to be written. -/
structure Diagnostic.PositionWritable (d : Diagnostic) : Prop where
  line : Text.isWritable d.line = true
  column : Text.isWritable (d.column + 1) = true

instance (d : Diagnostic) : Decidable d.PositionWritable :=
  decidable_of_iff (Text.isWritable d.line = true ∧ Text.isWritable (d.column + 1) = true)
    ⟨fun h => ⟨h.1, h.2⟩, fun h => ⟨h.line, h.column⟩⟩

/-- All that is told of a diagnostic is short enough to be written. -/
structure Diagnostic.IsWritable (d : Diagnostic) : Prop extends d.PositionWritable where
  name : d.name.isWritable = true

/-- The numbers of tags, diagnostics and shared nodes are short enough to be written. -/
structure Report.CountsWritable (r : Report) (t : Tree) : Prop where
  tags : Text.isWritable r.tags.length = true
  diagnostics : Text.isWritable r.diagnostics.length = true
  shared : Text.isWritable t.sharedCount = true

namespace Log.Sink

variable (sink : Sink)

/-- The event of a diagnostic goes through unless warnings are written and it cannot be. -/
theorem takes_diagnostic_iff (d : Diagnostic) :
    sink.takes d.event = true ↔ (sink.admits .warning = true → d.IsWritable) := by
  refine takes_iff.trans (imp_congr_right fun _ => ?_)
  -- place and trace are texts, so that three fields are left
  simp only [Event.isWritable, Diagnostic.event, List.all_cons, List.all_nil, Data.isWritable,
    Bool.and_true, Bool.and_eq_true]
  exact ⟨fun ⟨hname, hline, hcolumn⟩ => ⟨⟨hline, hcolumn⟩, hname⟩,
    fun h => ⟨h.name, h.line, h.column⟩⟩

/-- The closing event goes through unless debugging is written and its counts cannot be. -/
theorem takes_tagged_iff (grammar : Grammar) (r : Report) (t : Tree) :
    sink.takes (taggedEvent grammar r t) = true ↔
      (sink.admits .debug = true → r.CountsWritable t) := by
  refine takes_iff.trans (imp_congr_right fun _ => ?_)
  simp only [Event.isWritable, taggedEvent, List.all_cons, List.all_nil, Data.isWritable,
    Bool.and_true, Bool.true_and, Bool.and_eq_true]
  exact ⟨fun ⟨htags, hdiagnostics, hshared⟩ => ⟨htags, hdiagnostics, hshared⟩,
    fun h => ⟨h.tags, h.diagnostics, h.shared⟩⟩

/-- The events of shared nodes tell no numbers. -/
theorem takes_of_mem_sharingEvents {t : Tree} {e : Event} (h : e ∈ sharingEvents t) :
    sink.takes e = true := by
  have hword : ∀ word : Option String, (word.elim Data.null Data.str).isWritable = true := by
    intro word
    cases word <;> rfl
  obtain ⟨o, -, rfl⟩ := List.mem_map.mp h
  refine sink.takes_of_isWritable ?_
  simp only [Event.isWritable, sharingEvent, List.all_cons, List.all_nil, hword, Bool.and_true]

end Log.Sink

/-- **Numbers in events.**  A sink takes all events of a report just if the diagnostics can be
    written where warnings are, and the counts where the closing event is. -/
theorem all_takes_reportOn_iff (sink : Log.Sink) (settings : Settings) (parsed : Parsed)
    (source path : String) (offsets : Offsets) :
    (reportOn settings parsed source path offsets).2.all sink.takes = true ↔
      (sink.admits .warning = true →
        ∀ d ∈ (emissionOf settings (Tree.ofRoot parsed.program) source path
          offsets).report.diagnostics, d.IsWritable) ∧
      (sink.admits .debug = true →
        (emissionOf settings (Tree.ofRoot parsed.program) source path offsets).fault? = none →
        (emissionOf settings (Tree.ofRoot parsed.program) source path
          offsets).report.CountsWritable (Tree.ofRoot parsed.program)) := by
  rw [snd_reportOn]
  generalize emissionOf settings (Tree.ofRoot parsed.program) source path offsets = e
  have hsharing : (sharingEvents (Tree.ofRoot parsed.program)).all sink.takes = true :=
    List.all_eq_true.mpr fun _ => sink.takes_of_mem_sharingEvents
  have hdiagnostics : (e.report.diagnostics.map Diagnostic.event).all sink.takes = true ↔
      (sink.admits .warning = true → ∀ d ∈ e.report.diagnostics, d.IsWritable) := by
    rw [List.all_map, List.all_eq_true]
    exact ⟨fun h hadmits d hd => (sink.takes_diagnostic_iff d).mp (h d hd) hadmits,
      fun h d hd => (sink.takes_diagnostic_iff d).mpr fun hadmits => h hadmits d hd⟩
  rw [List.all_append, List.all_append, hsharing, Bool.true_and, Bool.and_eq_true, hdiagnostics]
  refine and_congr_right fun _ => ?_
  cases e.fault? with
  | some fault => simp
  -- Without a fault the closing event stands behind the diagnostics.
  | none => simpa using sink.takes_tagged_iff parsed.grammar e.report (Tree.ofRoot parsed.program)

end SymbolTags
