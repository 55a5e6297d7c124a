import SymbolTags.Proofs.Outcome
import SymbolTags.Proofs.Textual

namespace SymbolTags

open Syntax

/-!
# Shift — offsets move positions and nothing else

Offsets are added at three places: where a name gets its own tag, where a selector name gets one,
and where a diagnostic is made.  Everything else goes by positions in the source at hand: the
verdicts, the scan of literals and the lines that are quoted.  This file gives an emission further
offsets and follows them to the end of a run.  There is one obstacle: the event of a diagnostic
tells its position, and a number with too many digits cannot be written.

* `Tag.shifted`, `Diagnostic.shifted`, `Report.shifted` and `TagRun.shifted` — the same, so many
  lines and columns further on.  Of the events, those of diagnostics tell a position;
* `Emission.shifted` — an emission with further offsets, and one lemma for each thing that is
  read off it;
* `Diagnostic.PositionWritable` — the position of a diagnostic is short enough for its event, and
  `takes_shifted`, which says that a sink then takes the event wherever it is;
* `tagSource_shifts` — a run with further offsets is the shifted run.
-/

/-! ### Shifted results -/

/-- A tag, further on. -/
def Tag.shifted (further : Offsets) (t : Tag) : Tag :=
  { t with line := t.line + further.line, column := t.column + further.column }

/-- A diagnostic, further on. -/
def Diagnostic.shifted (further : Offsets) (d : Diagnostic) : Diagnostic :=
  { d with line := d.line + further.line, column := d.column + further.column }

/-- A report whose tags and diagnostics are all further on. -/
def Report.shifted (further : Offsets) (r : Report) : Report :=
  { r with
    tags := r.tags.map (Tag.shifted further)
    diagnostics := r.diagnostics.map (Diagnostic.shifted further) }

/-- The name of the events that go with diagnostics. -/
def Log.diagnosticName : String := "unknown-identifier"

/-- A field of an event, with a line or a column further on. -/
def Log.shiftedField (further : Offsets) : String × Data → String × Data
  | ("line", .int n) => ("line", .int (n + further.line))
  | ("column", .int n) => ("column", .int (n + further.column))
  | field => field

/-- An event, further on if it goes with a diagnostic. -/
def Log.Event.shifted (further : Offsets) (e : Log.Event) : Log.Event :=
  if e.name = diagnosticName then { e with fields := e.fields.map (shiftedField further) } else e

/-- A run that tells all positions further on. -/
def TagRun.shifted (further : Offsets) (run : TagRun) : TagRun where
  result := run.result.map (Report.shifted further)
  calls := run.calls
  events := run.events.map (Log.Event.shifted further)

/-! ### Events -/

theorem Log.Event.shifted_of_ne {e : Log.Event} (further : Offsets) (h : e.name ≠ diagnosticName) :
    e.shifted further = e :=
  if_neg h

/-- Events of other names stay as they are. -/
theorem Log.Event.map_shifted_of_ne {events : List Log.Event} (further : Offsets)
    (h : ∀ e ∈ events, e.name ≠ diagnosticName) : events.map (shifted further) = events := by
  rw [List.map_congr_left fun e he => shifted_of_ne further (h e he), List.map_id']

/-- The event of a shifted diagnostic is the shifted event. -/
theorem Diagnostic.event_shifted (further : Offsets) (d : Diagnostic) :
    (d.shifted further).event = d.event.shifted further := by
  have hcolumn : d.column + further.column + 1 = d.column + 1 + further.column := by omega
  simp [event, shifted, Log.Event.shifted, Log.diagnosticName, Log.shiftedField, hcolumn]

/-- Accepting a program adds no events but those of tolerated errors. -/
theorem name_of_mem_acceptProgram {settings : Settings} {grammar : Grammar} {program : Node}
    {calls : List ParserCall} {events : List Log.Event} {e : Log.Event}
    (h : e ∈ (acceptProgram settings grammar program calls events).events) :
    e ∈ events ∨ e.name = "parse-tolerated-error" := by
  unfold acceptProgram at h
  split at h
  · exact .inl h
  · rcases List.mem_append.mp h with h | h
    · exact .inl h
    · split_ifs at h
      · obtain ⟨warning, -, rfl⟩ := List.mem_map.mp h
        exact .inr rfl
      · simp at h

/-- Parsing tells of no names. -/
theorem name_ne_of_mem_parse {parser : Parser} {settings : Settings} {source path : String}
    {sink : Log.Sink} {e : Log.Event} (h : e ∈ (parse parser settings source path sink).events) :
    e.name ≠ Log.diagnosticName := by
  -- The parser logs a retry and the tolerated errors, and nothing else.
  have hname : e.name = "parse-retry-module" ∨ e.name = "parse-tolerated-error" := by
    simp only [parse] at h
    split at h
    · exact .inr ((name_of_mem_acceptProgram h).resolve_left (by simp))
    · split_ifs at h
      · split at h
        · refine (name_of_mem_acceptProgram h).imp_left fun hretry => ?_
          rw [List.mem_singleton.mp hretry]
          rfl
        · rw [List.mem_singleton.mp h]
          exact .inl rfl
      · cases h
      · cases h
  rcases hname with hname | hname <;> rw [hname] <;> decide

/-- Sharing tells of no names. -/
theorem name_ne_of_mem_sharingEvents {t : Tree} {e : Log.Event} (h : e ∈ sharingEvents t) :
    e.name ≠ Log.diagnosticName := by
  obtain ⟨o, -, rfl⟩ := List.mem_map.mp h
  show "shared-node-cloned" ≠ Log.diagnosticName
  decide

/-! ### Emissions -/

namespace Emission

/-- An emission with further offsets. -/
def shifted (further : Offsets) (e : Emission) : Emission :=
  { e with
    lineOffset := e.lineOffset + further.line
    columnOffset := e.columnOffset + further.column }

variable (further : Offsets) (e : Emission) (ls : Array (List Char)) (o : Occurrence)

/-- A tag is shifted, but the line that it quotes is looked up by the position itself. -/
theorem tagAt_shifted (kind : TagKind) (name : Data) (p : Position) :
    (e.shifted further).tagAt ls kind name p = (e.tagAt ls kind name p).shifted further := by
  simp only [tagAt, shifted, Tag.shifted, Int.add_assoc]

theorem ownTag?_shifted :
    (e.shifted further).ownTag? ls o = (e.ownTag? ls o).map (Tag.shifted further) := by
  simp only [ownTag?, tagAt_shifted, Option.map_map]
  rfl

theorem selectorTags_shifted :
    (e.shifted further).selectorTags ls o = (e.selectorTags ls o).map (Tag.shifted further) := by
  simp only [selectorTags, tagAt_shifted, List.map_map]
  rfl

/-- **Tags.**  Own tags and those of selector names are shifted alike. -/
theorem tagsOf_shifted :
    (e.shifted further).tagsOf ls o = (e.tagsOf ls o).map (Tag.shifted further) := by
  rw [tagsOf, ownTag?_shifted, selectorTags_shifted, tagsOf, List.map_append, Option.toList_map]

/-- **Diagnostics.**  Place, trace and quoted line stay, the position is shifted. -/
theorem diagnostic?_shifted :
    (e.shifted further).diagnostic? ls o
      = (e.diagnostic? ls o).map (Diagnostic.shifted further) := by
  unfold diagnostic?
  show (if e.classifier.verdict o = .unknown then _ else _) = _
  split_ifs
  · simp only [Option.map_some, Diagnostic.shifted, diagnosticOf, shifted, Int.add_assoc]
    rfl
  · rfl

/-- **Reports.**  Further offsets shift the report, and what ends it stays. -/
theorem report_shifted : (e.shifted further).report = e.report.shifted further := by
  have htags : e.reported.flatMap ((e.shifted further).tagsOf e.sourceLines)
      = (e.reported.flatMap (e.tagsOf e.sourceLines)).map (Tag.shifted further) := by
    rw [List.map_flatMap]
    exact List.flatMap_congr fun o _ => tagsOf_shifted further e e.sourceLines o
  have hdiagnostics : e.reported.filterMap ((e.shifted further).diagnostic? e.sourceLines)
      = (e.reported.filterMap (e.diagnostic? e.sourceLines)).map (Diagnostic.shifted further) := by
    rw [List.map_filterMap]
    exact List.filterMap_congr fun o _ => diagnostic?_shifted further e e.sourceLines o
  exact congrArg₂ (fun tags diagnostics => Report.mk e.path tags diagnostics []) htags hdiagnostics

end Emission

/-! ### Runs -/

/-- The closing event counts tags and diagnostics, wherever they are. -/
theorem taggedEvent_shifted (further : Offsets) (grammar : Grammar) (r : Report) (t : Tree) :
    taggedEvent grammar (r.shifted further) t = taggedEvent grammar r t := by
  simp only [taggedEvent, Report.shifted, List.length_map]

/-- A parsed program is reported on with further offsets as without them, but further on. -/
theorem reportOn_shifted (settings : Settings) (parsed : Parsed) (source path : String)
    (offsets further : Offsets) :
    reportOn settings parsed source path
        ⟨offsets.line + further.line, offsets.column + further.column⟩
      = ((reportOn settings parsed source path offsets).1.map (Report.shifted further),
         (reportOn settings parsed source path offsets).2.map (Log.Event.shifted further)) := by
  have hemission : emissionOf settings (Tree.ofRoot parsed.program) source path
      ⟨offsets.line + further.line, offsets.column + further.column⟩
      = (emissionOf settings (Tree.ofRoot parsed.program) source path offsets).shifted further :=
    rfl
  have hsharing := Log.Event.map_shifted_of_ne further
    fun e => name_ne_of_mem_sharingEvents (t := Tree.ofRoot parsed.program) (e := e)
  simp only [reportOn, hemission, Emission.report_shifted]
  generalize emissionOf settings (Tree.ofRoot parsed.program) source path offsets = e
  have hevents : (e.report.shifted further).diagnostics.map Diagnostic.event
      = (e.report.diagnostics.map Diagnostic.event).map (Log.Event.shifted further) := by
    simp only [Report.shifted, List.map_map]
    exact List.map_congr_left fun d _ => Diagnostic.event_shifted further d
  have htagged : (taggedEvent parsed.grammar e.report (Tree.ofRoot parsed.program)).shifted further
      = taggedEvent parsed.grammar e.report (Tree.ofRoot parsed.program) :=
    Log.Event.shifted_of_ne further (show "tagged" ≠ Log.diagnosticName by decide)
  have hfault : (e.shifted further).fault? = e.fault? := rfl
  -- what stops the report does not depend on offsets, so both runs end alike
  rw [hfault, hevents, taggedEvent_shifted]
  cases e.fault? with
  | some fault => simp only [List.map_append, hsharing, Except.map]
  | none =>
    simp only [List.map_append, hsharing, List.map_cons, htagged, List.map_nil, Except.map]
    rfl

/-- A list and its image are cut at the same place if the image suits a predicate where the list
    does. -/
theorem takeWhile_map_of_forall {α : Type} {f : α → α} {p : α → Bool} {xs : List α}
    (h : ∀ x ∈ xs, p (f x) = p x) :
    (xs.map f).takeWhile p = (xs.takeWhile p).map f ∧ (xs.map f).all p = xs.all p := by
  induction xs with
  | nil => exact ⟨rfl, rfl⟩
  | cons x xs ih =>
    -- Whether a member is taken does not change, so the cut stays where it is.
    obtain ⟨htake, hall⟩ := ih fun x' hx' => h x' (List.mem_cons_of_mem x hx')
    have hx := h x List.mem_cons_self
    rw [List.map_cons, List.takeWhile_cons, List.takeWhile_cons, List.all_cons, List.all_cons, hx,
      htake, hall]
    refine ⟨?_, rfl⟩
    split <;> rfl

section

variable {sink : Log.Sink} {further : Offsets}

/-- A position that is short enough both here and further on changes nothing for a sink. -/
theorem Diagnostic.takes_shifted {d : Diagnostic}
    (h : sink.admits .warning = true → d.PositionWritable ∧ (d.shifted further).PositionWritable) :
    sink.takes (d.event.shifted further) = sink.takes d.event := by
  rw [← event_shifted, Bool.eq_iff_iff, sink.takes_diagnostic_iff, sink.takes_diagnostic_iff]
  refine imp_congr_right fun hadmits => ?_
  obtain ⟨hhere, hfurther⟩ := h hadmits
  exact ⟨fun hd => ⟨hhere, hd.name⟩, fun hd => ⟨hfurther, hd.name⟩⟩

/-- **Events.**  If all positions are short enough where warnings are written, the sink takes the
    same events of a report further on. -/
theorem takes_shifted_of_mem_reportOn {settings : Settings} {parsed : Parsed}
    {source path : String} {offsets : Offsets}
    (h : sink.admits .warning = true →
      ∀ d ∈ (emissionOf settings (Tree.ofRoot parsed.program) source path
        offsets).report.diagnostics,
      d.PositionWritable ∧ (d.shifted further).PositionWritable) {e : Log.Event}
    (he : e ∈ (reportOn settings parsed source path offsets).2) :
    sink.takes (e.shifted further) = sink.takes e := by
  rw [snd_reportOn] at he
  rcases List.mem_append.mp he with he | he
  · rcases List.mem_append.mp he with he | he
    · rw [Log.Event.shifted_of_ne further (name_ne_of_mem_sharingEvents he)]
    · obtain ⟨d, hd, rfl⟩ := List.mem_map.mp he
      exact Diagnostic.takes_shifted fun hadmits => h hadmits d hd
  · -- the closing event tells no position
    split_ifs at he
    · rw [List.mem_singleton.mp he,
        Log.Event.shifted_of_ne further (show "tagged" ≠ Log.diagnosticName by decide)]
    · cases he

end

/-- **Offsets are a pure shift.**  Over every parser, settings, source, path and sink, a run with
    further offsets ends as the run without them, with the further lines and columns added to
    the positions of all tags, own and selector tags alike, and of all diagnostics.  Number,
    order, kinds, names, quoted lines, places, traces and warnings stay, and so do refusals, the
    calls of the parser and the events, those of diagnostics telling the new positions.  Where
    warnings are written, no position of a diagnostic may have too many digits. -/
theorem tagSource_shifts (parser : Parser) (settings : Settings) (source : String)
    (path : Option String) (line column furtherLine furtherColumn : Int) (sink : Log.Sink)
    (hpositions : sink.admits .warning = true →
      ∀ parsed, (parse parser settings source (path.getD "") sink).result = .ok parsed →
      ∀ d ∈ (emissionOf settings (Tree.ofRoot parsed.program) source (path.getD "")
        ⟨line, column⟩).report.diagnostics,
      d.PositionWritable ∧ (d.shifted ⟨furtherLine, furtherColumn⟩).PositionWritable) :
    tagSource parser settings source path ⟨line + furtherLine, column + furtherColumn⟩ sink
      = (tagSource parser settings source path ⟨line, column⟩ sink).shifted
          ⟨furtherLine, furtherColumn⟩ := by
  simp only [tagSource]
  split_ifs
  · rfl
  · rfl
  · have hparse := Log.Event.map_shifted_of_ne ⟨furtherLine, furtherColumn⟩
      fun e => @name_ne_of_mem_parse parser settings source (path.getD "") sink e
    cases hresult : (parse parser settings source (path.getD "") sink).result with
    | error e => simp only [TagRun.shifted, hparse, Except.map]
    | ok parsed =>
      have hreport := reportOn_shifted settings parsed source (path.getD "") ⟨line, column⟩
        ⟨furtherLine, furtherColumn⟩
      -- the sink cuts both rows of events at the same place
      obtain ⟨htake, hall⟩ := takeWhile_map_of_forall fun e he =>
        takes_shifted_of_mem_reportOn (fun hadmits => hpositions hadmits parsed hresult) he
      simp only at hreport ⊢
      rw [hreport]
      simp only [TagRun.shifted, List.map_append, hparse, htake, hall]
      congr 1
      split_ifs
      · cases (reportOn settings parsed source (path.getD "") ⟨line, column⟩).1 <;> rfl
      · rfl

/-! ### Samples -/

/-- A block without statements. -/
def withBlock : Node :=
  { type := some "BlockStatement", identity := 3, attributes := [("body", .list 4 [])] }

/-- A statement that has no rule for the name in its head. -/
def withStatement : Node :=
  { type := some "WithStatement", identity := 1
    attributes := [("object", .node (Tree.sampleName 2 "x" 6)), ("body", .node withBlock)] }

/-- The program of the statement. -/
def withScript : Node :=
  { type := some "Program", attributes := [("body", .list 0 [.node withStatement])] }

/-- Accepts every source as the program. -/
def withParser : Parser := fun _ _ _ => .ok withScript

/-- The text of the statement. -/
def withText : String := "with (x) \x7b\x7d"

/-- The diagnostic of the name in the statement. -/
def withDiagnostic (offsets : Offsets) : Diagnostic where
  name := .str "x"
  path := "a.js"
  line := 1 + offsets.line
  column := 6 + offsets.column
  place := "WithStatement.object"
  trace := ["Program.body[0]", "WithStatement.object"]
  sourceLine := withText

/-- The report on the statement. -/
def withReport (offsets : Offsets) : Report where
  path := "a.js"
  diagnostics := [withDiagnostic offsets]

/-- Nothing stops it. -/
theorem fault?_withScript (offsets : Offsets) :
    (emissionOf {} (Tree.ofRoot withScript) withText "a.js" offsets).fault? = none := by
  cbv

theorem report_withScript (line column : Int) :
    (emissionOf {} (Tree.ofRoot withScript) withText "a.js" ⟨line, column⟩).report =
      withReport ⟨line, column⟩ := by
  rw [Emission.report, Emission.reported_eq (fault?_withScript _)]
  cbv

theorem reportOn_withScript (line column : Int) :
    reportOn {} ⟨withScript, .script, []⟩ withText "a.js" ⟨line, column⟩ =
      (.ok (withReport ⟨line, column⟩), [(withDiagnostic ⟨line, column⟩).event,
        taggedEvent .script (withReport ⟨line, column⟩) (Tree.ofRoot withScript)]) := by
  have hunshared : sharingEvents (Tree.ofRoot withScript) = [] := by cbv
  simp only [reportOn, fault?_withScript, report_withScript, hunshared]
  rfl

theorem result_withParser (line column : Int) :
    (tagSource withParser {} withText (some "a.js") ⟨line, column⟩).result =
      if (withDiagnostic ⟨line, column⟩).PositionWritable then .ok (withReport ⟨line, column⟩)
      else .error .tooManyDigits := by
  have hparse : (parse withParser {} withText "a.js").result = .ok ⟨withScript, .script, []⟩ := rfl
  have htagged : Log.Sink.library.takes
      (taggedEvent .script (withReport ⟨line, column⟩) (Tree.ofRoot withScript)) = true :=
    Log.Sink.takes_of_not_admits rfl
  have htakes : Log.Sink.library.takes (withDiagnostic ⟨line, column⟩).event = true ↔
      (withDiagnostic ⟨line, column⟩).PositionWritable := by
    rw [Log.Sink.takes_diagnostic_iff]
    exact ⟨fun h => (h rfl).toPositionWritable, fun h _ => ⟨h, rfl⟩⟩
  rw [result_tagSource, if_neg (by decide), if_neg (by decide)]
  simp only [Option.getD_some, hparse, reportOn_withScript, List.all_cons, htagged, List.all_nil,
    Bool.and_true, htakes]
  rfl

theorem tagSource_shifts_withParser :
    (Log.Sink.library.admits .warning = true ∧
      ∀ parsed, (parse withParser {} withText "a.js").result = .ok parsed →
      ∀ d ∈ (emissionOf {} (Tree.ofRoot parsed.program) withText "a.js" ⟨3, 4⟩).report.diagnostics,
      d.PositionWritable ∧ (d.shifted ⟨-10, 20⟩).PositionWritable) ∧
    tagSource withParser {} withText (some "a.js") ⟨3 + -10, 4 + 20⟩ =
      (tagSource withParser {} withText (some "a.js") ⟨3, 4⟩).shifted ⟨-10, 20⟩ := by
  have hpositions : ∀ parsed, (parse withParser {} withText "a.js").result = .ok parsed →
      ∀ d ∈ (emissionOf {} (Tree.ofRoot parsed.program) withText "a.js" ⟨3, 4⟩).report.diagnostics,
      d.PositionWritable ∧ (d.shifted ⟨-10, 20⟩).PositionWritable := by
    intro parsed hparsed
    cases hparsed
    rw [report_withScript]
    intro d hd
    rw [List.mem_singleton.mp hd]
    exact ⟨⟨by decide +kernel, by decide +kernel⟩, by decide +kernel, by decide +kernel⟩
  exact ⟨⟨rfl, hpositions⟩, tagSource_shifts withParser {} withText (some "a.js") 3 4 (-10) 20
    .library fun _ => hpositions⟩

/-- A column with too many digits ends the run, so that there is nothing to be shifted. -/
theorem tagSource_overlongColumn :
    (tagSource withParser {} withText (some "a.js") ⟨0, 0⟩).result = .ok (withReport ⟨0, 0⟩) ∧
    (tagSource withParser {} withText (some "a.js") ⟨0 + 0, 0 + Text.writableBound⟩).result =
      .error .tooManyDigits ∧
    tagSource withParser {} withText (some "a.js") ⟨0 + 0, 0 + Text.writableBound⟩ ≠
      (tagSource withParser {} withText (some "a.js") ⟨0, 0⟩).shifted ⟨0, Text.writableBound⟩ := by
  -- Here the column can be written; moved by the bound, it cannot.
  have hhere : (tagSource withParser {} withText (some "a.js") ⟨0, 0⟩).result
      = .ok (withReport ⟨0, 0⟩) := by
    rw [result_withParser, if_pos ⟨by decide +kernel, by decide +kernel⟩]
  have hfurther : (tagSource withParser {} withText (some "a.js")
      ⟨0 + 0, 0 + Text.writableBound⟩).result = .error .tooManyDigits := by
    rw [result_withParser, if_neg]
    intro h
    exact absurd h.column (by decide +kernel)
  refine ⟨hhere, hfurther, fun h => ?_⟩
  have hresult := congrArg TagRun.result h
  rw [hfurther, TagRun.shifted, hhere] at hresult
  cases hresult

end SymbolTags
