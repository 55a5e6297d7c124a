import SymbolTags.CommandLine.Run
import SymbolTags.Proofs.Endings

namespace SymbolTags

open Syntax

/-!
# Rounds — what tagging one file comes to

The command `tag` goes through its files one by one, with a log in its hands.  The round for a
file reads it, tags it, logs and prints, and there are four ways out of it:

* `exists_unreadable_of_readSource` — reading fails in one way, unless a null character is in the
  way;
* `Log.State.ConsoleOnly` — a log without a file, which no event changes;
* `CommandLine.outputOf`, `CommandLine.Unreadable` and `CommandLine.HasBadSyntax` — what a file
  prints and how it fails, told without the round;
* `CommandLine.answers_tagOne` — the round prints and fails accordingly, if everything that it
  writes can be written, and everything that it prints be encoded;
* `CommandLine.tagFiles_eq` — so the rounds over a list of files are a map.
-/

/-! ### Paths -/

namespace File

theorem mem_of_mem_splitSlashes {cs part : List Char} {c : Char} (hpart : part ∈ splitSlashes cs)
    (hc : c ∈ part) : c ∈ cs := by
  induction cs generalizing part with
  | nil =>
    rw [splitSlashes, List.mem_singleton] at hpart
    rw [hpart] at hc
    exact hc
  | cons d rest ih =>
    unfold splitSlashes at hpart
    split_ifs at hpart with hd
    · -- a slash starts a part of its own
      rcases List.mem_cons.mp hpart with rfl | hpart
      · cases hc
      · exact List.mem_cons_of_mem d (ih hpart hc)
    · split at hpart
      · rw [List.mem_singleton] at hpart
        rw [hpart, List.mem_singleton] at hc
        exact hc ▸ List.mem_cons_self
      · -- any other character goes in front of the first part
        rename_i first parts hsplit
        rcases List.mem_cons.mp hpart with rfl | hpart
        · rcases List.mem_cons.mp hc with rfl | hc
          · exact List.mem_cons_self
          · exact List.mem_cons_of_mem d (ih (hsplit ▸ List.mem_cons_self) hc)
        · exact List.mem_cons_of_mem d (ih (hsplit ▸ List.mem_cons_of_mem first hpart) hc)

theorem mem_intercalate {sep : List Char} {parts : List (List Char)} {c : Char}
    (h : c ∈ sep.intercalate parts) : c ∈ sep ∨ ∃ part ∈ parts, c ∈ part := by
  induction parts with
  | nil => cases h
  | cons first rest ih =>
    cases rest with
    | nil =>
      rw [List.intercalate_singleton] at h
      exact .inr ⟨first, List.mem_cons_self, h⟩
    | cons second rest =>
      rw [List.intercalate_cons_cons, List.mem_append, List.mem_append] at h
      rcases h with (h | h) | h
      · exact .inr ⟨first, List.mem_cons_self, h⟩
      · exact .inl h
      · rcases ih h with h | ⟨part, hpart, hc⟩
        · exact .inl h
        · exact .inr ⟨part, List.mem_cons_of_mem first hpart, hc⟩

/-- The text form of a path is made of its characters, slashes and dots. -/
theorem mem_display {path : String} {c : Char} (h : c ∈ (display path).toList) :
    c ∈ path.toList ∨ c = '/' ∨ c = '.' := by
  simp only [display, textOf] at h
  split_ifs at h with hempty
  · -- a path without components is shown as a dot
    exact .inr (.inr (List.mem_singleton.mp h))
  · rw [String.toList_append, List.mem_append] at h
    rcases h with h | h
    · refine .inr (.inl ?_)
      unfold leadingSlashes at h
      split at h
      · exact List.mem_singleton.mp h
      · simpa using h
      · exact List.mem_singleton.mp h
      · cases h
    · rw [String.toList_intercalate] at h
      rcases mem_intercalate h with h | ⟨part, hpart, hc⟩
      · exact .inr (.inl (List.mem_singleton.mp h))
      · obtain ⟨component, hcomponent, rfl⟩ := List.mem_map.mp hpart
        obtain ⟨chars, hchars, rfl⟩ := List.mem_map.mp (List.mem_filter.mp hcomponent).1
        rw [String.toList_ofList] at hc
        exact .inl (mem_of_mem_splitSlashes hchars hc)

/-- No null character comes into the text form of a path. -/
theorem hasNull_display {path : String} (h : hasNull path = false) :
    hasNull (display path) = false := by
  unfold hasNull at h ⊢
  rw [List.contains_eq_mem, decide_eq_false_iff_not] at h ⊢
  intro hmem
  rcases mem_display hmem with hmem | hslash | hdot
  · exact h hmem
  · exact absurd hslash (by decide)
  · exact absurd hdot (by decide)

end File

/-! ### Reading -/

/-- Bytes without a text have no codec here, or one that finds them at fault. -/
theorem Encoding.decode_ne_failed {name : String} (h : File.hasNull name = false)
    (bytes : List UInt8) (message : String) : decode name bytes ≠ .error (.failed message) := by
  have hmap : ∀ x : Except Fault (List Char),
      x.mapError DecodeError.fault ≠ .error (.failed message) := by
    intro x
    cases x <;> simp [Except.mapError]
  unfold File.hasNull at h
  unfold decode
  rw [h]
  simp only [Bool.false_eq_true, if_false]
  split_ifs
  · simp
  · split
    · simp
    · rename_i codec _
      cases codec <;> simp [Codec.decode, hmap]

section

variable (fs : File.Files) (settings : Settings) {path : String} (decoder : Encoding.Decoder)

/-- Reading takes two steps, and either may fail. -/
theorem readSource_eq (hpath : File.hasNull path = false) :
    readSource fs settings path decoder =
      match fs.read path with
      | .error e => .error (.unreadable path e.reason)
      | .ok bytes =>
        match decoder settings.encoding bytes with
        | .error e => .error (.ofDecodeError path e)
        | .ok cs =>
          .ok (String.ofList (if settings.stripShebang then blankShebang cs else cs)) := by
  unfold readSource
  simp only [hpath]
  cases fs.read path with
  | error e => rfl
  | ok bytes =>
    show ((decoder settings.encoding bytes).mapError (TagError.ofDecodeError path) >>= _) =
      match decoder settings.encoding bytes with
      | .error e => _
      | .ok cs => _
    cases decoder settings.encoding bytes <;> rfl

variable {fs settings decoder}

/-- A source cannot be read, or is a text, with a codec that fails in no way of its own. -/
theorem exists_unreadable_of_readSource {e : TagError} (hpath : File.hasNull path = false)
    (hdecoder : ∀ bytes message, decoder settings.encoding bytes ≠ .error (.failed message))
    (h : readSource fs settings path decoder = .error e) :
    ∃ reason, e = .unreadable path reason := by
  rw [readSource_eq fs settings decoder hpath] at h
  split at h
  · exact ⟨_, (Except.error.inj h).symm⟩
  · split at h
    · rename_i problem hdecode
      rw [← Except.error.inj h]
      cases problem with
      | failed message => exact absurd hdecode (hdecoder _ message)
      | unknownEncoding name => exact ⟨_, rfl⟩
      | notText name => exact ⟨_, rfl⟩
      | fault f => exact ⟨_, rfl⟩
    · cases h

end

/-! ### Names of tags -/

/-- The tags of a textual tree are named by texts. -/
theorem Emission.exists_name_of_mem_tags {root : Node} (h : root.Textual) {e : Emission}
    (he : e.classifier.tree = Tree.ofRoot root) {t : Tag} (ht : t ∈ e.report.tags) :
    ∃ name, t.name = .str name := by
  -- a tag comes from a name that is classified: it is its own tag, or one of its selectors'
  obtain ⟨o, ho, ht⟩ := List.mem_flatMap.mp ht
  have hmem : o ∈ e.classifier.tree.identifiers := List.takeWhile_subset _ ho
  rcases List.mem_append.mp ht with hown | hselector
  · obtain ⟨kind, -, rfl⟩ := Option.map_eq_some_iff.mp (Option.mem_toList.mp hown)
    rw [he] at hmem
    exact exists_shownName (Tree.isText_name h (Tree.get?_of_mem_identifiers root hmem))
  · obtain ⟨r, -, rfl⟩ := List.mem_map.mp hselector
    exact ⟨r.name, rfl⟩

section

variable {parser : Parser} {settings : Settings} {source : String} {path : Option String}
  {offsets : Offsets} {sink : Log.Sink}

/-- So are those of a run. -/
theorem exists_name_of_tagSource (h : ParserWellTyped parser settings source) {r : Report}
    (hr : (tagSource parser settings source path offsets sink).result = .ok r) {t : Tag}
    (ht : t ∈ r.tags) : ∃ name, t.name = .str name := by
  obtain ⟨parsed, hparse, hreport⟩ := exists_parsed_of_result hr
  have hends := (parse_ends parser settings source (path.getD "") sink).parseResult h
  rw [hparse] at hends
  cases hends with
  | @accepted grammar program warnings _ haccepts =>
    have htextual := (haccepts.wellTyped h).textual
    have hfault : (emissionOf settings (Tree.ofRoot program) source (path.getD "")
        offsets).fault? = none := Emission.fault?_eq_none htextual rfl
    rw [fst_reportOn, hfault] at hreport
    rw [← Except.ok.inj hreport] at ht
    exact Emission.exists_name_of_mem_tags htextual rfl ht

/-- A run without a report has nothing to do, or fails to parse, if it writes no number that is
    too long. -/
theorem TagEnds.error_cases {run : TagRun}
    (h : TagEnds parser settings source path offsets sink run) {e : TagError}
    (he : run.result = .error e)
    (hshort : source ≠ "" → ¬Overlong parser settings source path offsets sink) :
    e = .emptySource ∨ e = .emptyPath ∨ ∃ f, e = .syntaxFailure f := by
  cases h with
  | emptySource _ => exact .inl (Except.error.inj he).symm
  | emptyPath _ => exact .inr (.inl (Except.error.inj he).symm)
  | overlong hinput _ h => exact absurd h (hshort fun hsource => hinput (.inl hsource))
  | refused _ _ _ _ _ => exact .inr (.inr ⟨_, (Except.error.inj he).symm⟩)
  | report _ _ _ _ _ => cases he

end

/-! ### Logs without a file -/

namespace Log.State

/-- Events go to the console alone. -/
def ConsoleOnly (log : State) : Prop :=
  ∀ handler ∈ log.handlers, ∃ level, handler = .console level

/-- A log without a file stays as it is. -/
theorem ConsoleOnly.record_eq {log : State} (h : log.ConsoleOnly) (bound context : Fields Data)
    (e : Event) : log.record bound context e = log := by
  -- a handler for the console hands the log on as it is
  have hfold : ∀ handlers : List Handler,
      (∀ handler ∈ handlers, ∃ level, handler = .console level) →
      ∀ row, handlers.foldl (fun s handler => s.handle e row handler) log = log := by
    intro handlers hhandlers row
    induction handlers with
    | nil => rfl
    | cons handler rest ih =>
      obtain ⟨level, rfl⟩ := hhandlers handler List.mem_cons_self
      exact ih fun other hother => hhandlers other (List.mem_cons_of_mem _ hother)
  unfold record send
  split_ifs
  · exact hfold log.handlers h _
  · rfl

end Log.State

namespace CommandLine

/-- Events leave no trace in a log without a file. -/
theorem logEvents_of_consoleOnly {log : Log.State} (h : log.ConsoleOnly)
    (events : List (Fields Data × Log.Event)) : logEvents log events = log := by
  induction events with
  | nil => rfl
  | cons p rest ih =>
    show logEvents (log.record tagBound p.1 p.2) rest = log
    rw [h.record_eq]
    exact ih

/-! ### One file -/

section

variable (s : Surroundings) (settings : Settings) (options : TagOptions) (sink : Log.Sink)
  (files : File.Files)

/-- The source of a file, if it can be read. -/
def sourceOf (file : String) : Except TagError String :=
  readSource files settings (File.display file) s.decoder

/-- The outcome of tagging a source under the path of a file. -/
def reportOf (file source : String) : Except TagError Report :=
  (tagSource s.parser settings source (some (File.display file)) options.offsets sink).result

/-- What a file prints: nothing if it has no report, and else its tags, one a line. -/
def outputOf (file : String) : String :=
  match sourceOf s settings files file with
  | .error _ => ""
  | .ok source =>
    match reportOf s settings options sink file source with
    | .error _ => ""
    | .ok r => String.join (r.tags.map fun t => s.stdout.shown (options.format.line t))

/-- A file cannot be read. -/
def Unreadable (file : String) : Prop :=
  ∃ path reason, sourceOf s settings files file = .error (.unreadable path reason)

/-- A file can be read, and its source cannot be parsed. -/
def HasBadSyntax (file : String) : Prop :=
  ∃ source f, sourceOf s settings files file = .ok source ∧
    reportOf s settings options sink file source = .error (.syntaxFailure f)

/-- What tagging a file has to come to. -/
structure Answers (file : String) (f : FileOutcome) : Prop where
  stdout : f.stdout = outputOf s settings options sink files file
  read : f.failure = some .read ↔ Unreadable s settings files file
  parse : f.failure = some .parse ↔ HasBadSyntax s settings options sink files file
  /-- Nothing ends the command. -/
  escape : f.escape? = none

end

/-- The numbers of a tag that a format writes. -/
def Format.numbers (f : Format) (t : Tag) : List Int :=
  match f with
  | text => [t.line, t.column + 1]
  | json => [t.line, t.column]

/-- Values are written if all their numbers are short enough. -/
theorem digitsFault?_eq_none {ds : List Data} (h : ∀ d ∈ ds, d.isWritable = true) :
    digitsFault? ds = none :=
  if_pos (List.all_eq_true.mpr h)

/-- Only the numbers of a tag can keep it from being written, if it is named by a text. -/
theorem Format.fault?_eq_none (f : Format) {t : Tag} (hname : ∃ name, t.name = .str name)
    (h : ∀ n ∈ f.numbers t, Text.isWritable n = true) : f.fault? t = none := by
  obtain ⟨name, hname⟩ := hname
  -- both formats ask for the name and two numbers
  have hall : ∀ x y : Int, (∀ n ∈ [x, y], Text.isWritable n = true) →
      digitsFault? [t.name, .int x, .int y] = none := by
    intro x y hxy
    refine digitsFault?_eq_none ?_
    rw [List.forall_mem_cons, List.forall_mem_cons, List.forall_mem_singleton, hname]
    exact ⟨rfl, hxy x (by simp), hxy y (by simp)⟩
  cases f with
  | text => exact hall _ _ h
  | json =>
    have hforeign : t.name.foreignType? = none := by
      rw [hname]
      rfl
    show (t.name.foreignType?.map _).or (digitsFault? [t.name, .int t.line, .int t.column]) = none
    rw [hforeign, Option.map_none, Option.none_or]
    exact hall _ _ h

/-- A tag is printed if its numbers are short enough and the stream takes its line. -/
theorem Format.refusal?_eq_none (f : Format) {out : Stream} {t : Tag}
    (hname : ∃ name, t.name = .str name) (hnumbers : ∀ n ∈ f.numbers t, Text.isWritable n = true)
    (hout : out.refusal? (f.line t) = none) : f.refusal? out t = none := by
  rw [refusal?, f.fault?_eq_none hname hnumbers, hout]
  rfl

/-- What tagging a file writes can be written: no number that goes into an event has too many
    digits, nor one of a tag, and the output can encode the lines of all tags. -/
structure Fits (s : Surroundings) (settings : Settings) (options : TagOptions) (sink : Log.Sink)
    (files : File.Files) (file : String) : Prop where
  events : ∀ source, sourceOf s settings files file = .ok source → source ≠ "" →
    ¬Overlong s.parser settings source (some (File.display file)) options.offsets sink
  numbers : ∀ source r, sourceOf s settings files file = .ok source →
    reportOf s settings options sink file source = .ok r →
    ∀ t ∈ r.tags, ∀ n ∈ options.format.numbers t, Text.isWritable n = true
  lines : ∀ source r, sourceOf s settings files file = .ok source →
    reportOf s settings options sink file source = .ok r →
    ∀ t ∈ r.tags, s.stdout.refusal? (options.format.line t) = none

section

variable {s : Surroundings} {settings : Settings} {options : TagOptions} {sink : Log.Sink}
  {files : File.Files} {file source : String}

/-- A file that cannot be read is told of. -/
theorem answers_of_unreadable {path reason : String}
    (h : sourceOf s settings files file = .error (.unreadable path reason)) :
    Answers s settings options sink files file (tagOne s settings options sink files file) := by
  have hrun : tagFile s.parser files settings (File.display file) options.offsets s.decoder sink =
      { result := .error (.unreadable path reason) } := by
    unfold tagFile
    rw [show readSource files settings (File.display file) s.decoder = _ from h]
  have hone : tagOne s settings options sink files file =
      { stderr := s.told [red] (TagError.unreadable path reason).message
        failure := some .read } := by
    simp only [tagOne, hrun]
    rfl
  rw [hone]
  constructor
  case stdout => simp only [outputOf, h]
  case read => exact ⟨fun _ => ⟨_, _, h⟩, fun _ => rfl⟩
  case parse => simp [HasBadSyntax, h]
  case escape => rfl

section

variable (hsource : sourceOf s settings files file = .ok source)

include hsource

/-- A file that can be read is not unreadable. -/
theorem not_unreadable : ¬Unreadable s settings files file := by
  simp [Unreadable, hsource]

/-- The run over a file that can be read is that over its source. -/
theorem tagFile_of_source (options : TagOptions) (sink : Log.Sink) :
    tagFile s.parser files settings (File.display file) options.offsets s.decoder sink =
      tagSource s.parser settings source (some (File.display file)) options.offsets sink := by
  unfold tagFile
  rw [show readSource files settings (File.display file) s.decoder = _ from hsource]

/-- A source that cannot be parsed is told of. -/
theorem answers_of_syntaxFailure {f : SyntaxFailure}
    (h : reportOf s settings options sink file source = .error (.syntaxFailure f)) :
    Answers s settings options sink files file (tagOne s settings options sink files file) := by
  have hresult : (tagSource s.parser settings source (some (File.display file))
      options.offsets sink).result = .error (.syntaxFailure f) := h
  have hone : ∃ stderr calls events, tagOne s settings options sink files file =
      { stderr, calls, events, failure := some .parse } := by
    simp only [tagOne, tagFile_of_source hsource, hresult]
    exact ⟨_, _, _, rfl⟩
  obtain ⟨stderr, calls, events, hone⟩ := hone
  rw [hone]
  constructor
  case stdout => simp only [outputOf, hsource, h]
  case read => simp [not_unreadable hsource]
  case parse => exact ⟨fun _ => ⟨source, f, hsource, h⟩, fun _ => rfl⟩
  case escape => rfl

/-- A source without text is passed over. -/
theorem answers_of_nothing {e : TagError}
    (h : reportOf s settings options sink file source = .error e)
    (he : e = .emptySource ∨ e = .emptyPath) :
    Answers s settings options sink files file (tagOne s settings options sink files file) := by
  have hresult : (tagSource s.parser settings source (some (File.display file))
      options.offsets sink).result = .error e := h
  have hone : ∃ calls events,
      tagOne s settings options sink files file = { calls, events } := by
    simp only [tagOne, tagFile_of_source hsource, hresult]
    rcases he with rfl | rfl <;> exact ⟨_, _, rfl⟩
  obtain ⟨calls, events, hone⟩ := hone
  rw [hone]
  constructor
  case stdout => simp only [outputOf, hsource, h]
  case read => simp [not_unreadable hsource]
  case parse =>
    rcases he with rfl | rfl <;> simp [HasBadSyntax, hsource, h]
  case escape => rfl

/-- A tag that is refused ends the round, and with it the command. -/
theorem tagOne_of_refusal {r : Report}
    (h : reportOf s settings options sink file source = .ok r) {e : Escape}
    (hrefusal : r.tags.findSome? (options.format.refusal? s.stdout) = some e) :
    (tagOne s settings options sink files file).escape? = some e ∧
      (tagOne s settings options sink files file).stdout = options.format.lines s.stdout r ∧
      (tagOne s settings options sink files file).calls =
        (tagSource s.parser settings source (some (File.display file)) options.offsets
          sink).calls := by
  have hresult : (tagSource s.parser settings source (some (File.display file))
      options.offsets sink).result = .ok r := h
  simp only [tagOne, tagFile_of_source hsource, hresult, hrefusal]
  exact ⟨rfl, trivial, trivial⟩

/-- The tags of a report are printed if nothing refuses one of them. -/
theorem answers_of_report {r : Report}
    (h : reportOf s settings options sink file source = .ok r)
    (hprinted : ∀ t ∈ r.tags, options.format.refusal? s.stdout t = none) :
    Answers s settings options sink files file (tagOne s settings options sink files file) := by
  have hresult : (tagSource s.parser settings source (some (File.display file))
      options.offsets sink).result = .ok r := h
  have hrefusal : r.tags.findSome? (options.format.refusal? s.stdout) = none :=
    List.findSome?_eq_none_iff.mpr hprinted
  -- printing stops at the first tag that is refused: there is none
  have hall : r.tags.takeWhile (fun t => (options.format.refusal? s.stdout t).isNone) = r.tags :=
    List.takeWhile_eq_self_iff.mpr fun t ht => Option.isNone_iff_eq_none.mpr (hprinted t ht)
  have hone : ∃ stderr calls events, tagOne s settings options sink files file =
      { stdout := String.join (r.tags.map fun t => s.stdout.shown (options.format.line t))
        stderr, calls, events } := by
    simp only [tagOne, tagFile_of_source hsource, hresult, hrefusal, Format.lines, hall]
    exact ⟨_, _, _, rfl⟩
  obtain ⟨stderr, calls, events, hone⟩ := hone
  rw [hone]
  constructor
  case stdout => simp only [outputOf, hsource, h]
  case read => simp [not_unreadable hsource]
  case parse => simp [HasBadSyntax, hsource, h]
  case escape => rfl

end

/-- **One file.**  The round for a file prints its output and tells its failure. -/
theorem answers_tagOne (hparser : ∀ source, ParserWellTyped s.parser settings source)
    (hdecoder : ∀ bytes message, s.decoder settings.encoding bytes ≠ .error (.failed message))
    (hfile : File.hasNull file = false) (hfits : Fits s settings options sink files file) :
    Answers s settings options sink files file (tagOne s settings options sink files file) := by
  cases hsource : sourceOf s settings files file with
  | error e =>
    obtain ⟨reason, rfl⟩ :=
      exists_unreadable_of_readSource (File.hasNull_display hfile) hdecoder hsource
    exact answers_of_unreadable hsource
  | ok source =>
    cases hreport : reportOf s settings options sink file source with
    | error e =>
      rcases (tagSource_ends (hparser source) _ _ _).error_cases hreport
        (hfits.events source hsource) with he | he | ⟨f, rfl⟩
      · exact answers_of_nothing hsource hreport (.inl he)
      · exact answers_of_nothing hsource hreport (.inr he)
      · exact answers_of_syntaxFailure hsource hreport
    | ok r =>
      refine answers_of_report hsource hreport fun t ht => ?_
      exact options.format.refusal?_eq_none (exists_name_of_tagSource (hparser source) hreport ht)
        (hfits.numbers source r hsource hreport t ht) (hfits.lines source r hsource hreport t ht)

/-! ### All files -/

/-- A round that ends the command is the last one. -/
theorem tagFiles_of_escape {log : Log.State} (hlog : log.ConsoleOnly) {name : String}
    (hescape : (tagOne s settings options log.sink log.currentFiles name).escape?.isSome = true)
    (rest : List String) :
    tagFiles s settings options log (name :: rest) =
      ([tagOne s settings options log.sink log.currentFiles name], log) := by
  simp only [tagFiles, logEvents_of_consoleOnly hlog, hescape, if_true]

/-- **The rounds are a map.**  With a log without a file, and with nothing that ends the command,
    every file is tagged as it would be alone. -/
theorem tagFiles_eq {log : Log.State} (hlog : log.ConsoleOnly) {names : List String}
    (hanswers : ∀ name ∈ names,
      (tagOne s settings options log.sink log.currentFiles name).escape? = none) :
    tagFiles s settings options log names =
      (names.map (tagOne s settings options log.sink log.currentFiles), log) := by
  -- the log is what one round hands to the next, and each of them leaves it as it was
  induction names with
  | nil => rfl
  | cons name rest ih =>
    obtain ⟨hfirst, hrest⟩ := List.forall_mem_cons.mp hanswers
    simp only [tagFiles, logEvents_of_consoleOnly hlog, hfirst, Option.isSome_none,
      Bool.false_eq_true, if_false, ih hrest, List.map_cons]

end

end CommandLine

end SymbolTags
