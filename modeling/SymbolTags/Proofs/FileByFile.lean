import Mathlib.Data.List.Perm.Basic
import Mathlib.Tactic.SplitIfs
import SymbolTags.Proofs.Rounds
import SymbolTags.Proofs.StoredLevel

namespace SymbolTags.CommandLine

open Syntax

/-!
# File by file — a broken file does not affect the others

The command `tag` prints what its files print, and its exit code tells the worst failure among
them:

* `WellSet` and `Presentable` — what the command relies on in its surroundings and in a file;
* `WellSet.runTag_eq` — its output and its exit code in terms of the rounds;
* `runTag_file_by_file` — hence the output is that of the files in their order, two lists of files
  print what each of them prints, and the exit code does not depend on the order.

Some things do get in the way: a number with too many digits, a line that the output cannot encode
and a path with a null character each end the command.  `runTag_cut_short` shows it, and shows
that control sequences are left out of what is printed elsewhere than on a terminal.
-/

/-! ### The command -/

/-- The sink of a configuration once logging is set up: an event comes through if it has a level,
    which passes the configured one. -/
def sinkOf (config : Config) : Log.Sink :=
  match Log.readLevel config.logLevel with
  | .ok level => { admits := fun l => l != .notset && level.passes l }
  | .error _ => .silent

/-- What the command relies on: an effective configuration without a log file, a parser that keeps
    to the types of its output, and a codec that fails only on its name or on the bytes. -/
structure WellSet (s : Surroundings) (options : TagOptions) (config : Config) : Prop where
  effective : s.config options.config (flagLayer options.flags) = .ok config
  logFile : options.logFile = none
  decoder : ∀ bytes message,
    s.decoder config.settings.encoding bytes ≠ .error (.failed message)
  parser : ∀ source, ParserWellTyped s.parser config.settings source

/-- What it relies on in a file: a path without a null character, and that what is written of the
    file can be. -/
structure Presentable (s : Surroundings) (options : TagOptions) (config : Config)
    (file : String) : Prop where
  path : File.hasNull file = false
  fits : Fits s config.settings options (sinkOf config) s.files file

section

variable {s : Surroundings} {options : TagOptions} {config : Config}

/-- The log of a command without a log file. -/
def Surroundings.consoleLog (s : Surroundings) (level : Log.Level) : Log.State :=
  { s.unsetLog with structured := true, level, handlers := [.console level] }

/-- Without a log file the log goes to the console alone. -/
theorem consoleOnly_consoleLog (s : Surroundings) (level : Log.Level) :
    (s.consoleLog level).ConsoleOnly :=
  fun _ hhandler => ⟨level, List.mem_singleton.mp hhandler⟩

/-- It is the sink of the configuration. -/
theorem sink_consoleLog (s : Surroundings) {level : Log.Level}
    (h : Log.readLevel config.logLevel = .ok level) :
    (s.consoleLog level).sink = sinkOf config := by
  unfold sinkOf
  rw [h]
  rfl

/-- Logging is set up at every level that can be read. -/
theorem configure_consoleLog (s : Surroundings) {name : String} {level : Log.Level}
    (h : Log.readLevel name = .ok level) :
    s.unsetLog.configure name none s.home = (.ok (), s.consoleLog level) := by
  unfold Log.State.configure
  rw [h]
  rfl

/-- The round for a file. -/
def Surroundings.round (s : Surroundings) (options : TagOptions) (config : Config)
    (file : String) : FileOutcome :=
  tagOne s config.settings options (sinkOf config) s.files file

/-- The output of a file. -/
def Surroundings.output (s : Surroundings) (options : TagOptions) (config : Config)
    (file : String) : String :=
  outputOf s config.settings options (sinkOf config) s.files file

/-- A file can be read, and not be parsed. -/
def Surroundings.FailsToParse (s : Surroundings) (options : TagOptions) (config : Config)
    (file : String) : Prop :=
  HasBadSyntax s config.settings options (sinkOf config) s.files file

/-- Where everything is set up well, a file that can be presented gets an answer. -/
theorem WellSet.answers (h : WellSet s options config) {file : String}
    (hfile : Presentable s options config file) :
    Answers s config.settings options (sinkOf config) s.files file
      (s.round options config file) :=
  answers_tagOne h.parser h.decoder hfile.path hfile.fits

/-- The rounds take place with the sink of the configuration, and with the files as they are. -/
theorem tagOne_consoleLog (s : Surroundings) (options : TagOptions) {level : Log.Level}
    (h : Log.readLevel config.logLevel = .ok level) (file : String) :
    tagOne s config.settings options (s.consoleLog level).sink (s.consoleLog level).currentFiles
      file = s.round options config file := by
  rw [sink_consoleLog s h]
  rfl

/-- The command prints what the rounds print, and ends with the exit code that they ask for. -/
theorem WellSet.runTag_eq (h : WellSet s options config) {files : List String}
    (hfiles : ∀ file ∈ files, Presentable s options config file) :
    (runTag s options files).stdout = String.join (files.map (s.output options config)) ∧
      (runTag s options files).ending =
        .exit (tagExit (files.map (s.round options config))) := by
  obtain ⟨level, hlevel⟩ := exists_level_of_resolveConfig h.effective
  have hescape : ∀ file ∈ files, (s.round options config file).escape? = none :=
    fun file hfile => (h.answers (hfiles file hfile)).escape
  -- no round ends the command, so all of them take place, and with the same log
  have hrounds : tagFiles s config.settings options (s.consoleLog level) files =
      (files.map (s.round options config), s.consoleLog level) := by
    rw [tagFiles_eq (consoleOnly_consoleLog s level) fun file hfile => by
      rw [tagOne_consoleLog s options hlevel]
      exact hescape file hfile]
    exact congrArg (·, _) (List.map_congr_left fun file _ =>
      tagOne_consoleLog s options hlevel file)
  have hnone : (files.map (s.round options config)).findSome? FileOutcome.escape? = none := by
    rw [List.findSome?_eq_none_iff]
    intro f hf
    obtain ⟨file, hfile, rfl⟩ := List.mem_map.mp hf
    exact hescape file hfile
  have hstdout : (files.map (s.round options config)).map (·.stdout) =
      files.map (s.output options config) := by
    rw [List.map_map]
    exact List.map_congr_left fun file hfile => (h.answers (hfiles file hfile)).stdout
  unfold runTag
  simp only [h.effective, h.logFile, configure_consoleLog s hlevel, hrounds, hnone, hstdout,
    Option.elim_none]
  exact ⟨trivial, trivial⟩

/-- A round that ends the command is the only one, if it is the first. -/
theorem runTag_of_escape (hconfig : s.config options.config (flagLayer options.flags) = .ok config)
    (hlog : options.logFile = none) {file : String} {e : Escape}
    (h : (s.round options config file).escape? = some e) (rest : List String) :
    (runTag s options (file :: rest)).ending = .escape e ∧
      (runTag s options (file :: rest)).stdout = (s.round options config file).stdout ∧
      (runTag s options (file :: rest)).calls = (s.round options config file).calls := by
  obtain ⟨level, hlevel⟩ := exists_level_of_resolveConfig hconfig
  -- The loop stops behind the file that raises, and the rest is never tried.
  have hrounds : tagFiles s config.settings options (s.consoleLog level) (file :: rest) =
      ([s.round options config file], s.consoleLog level) := by
    rw [tagFiles_of_escape (consoleOnly_consoleLog s level), tagOne_consoleLog s options hlevel]
    rw [tagOne_consoleLog s options hlevel, h]
    rfl
  unfold runTag
  simp only [hconfig, hlog, configure_consoleLog s hlevel, hrounds, List.findSome?_cons, h,
    Option.elim_some, List.map_cons, List.map_nil, List.flatMap_cons, List.flatMap_nil,
    List.append_nil, String.join_cons, String.join_nil, String.append_empty]
  exact ⟨trivial, trivial, trivial⟩

end

/-- A way of failing is counted if some file fails that way. -/
theorem failures_ne_zero_iff {kind : FileFailure} {files : List String}
    {round : String → FileOutcome} {P : String → Prop}
    (h : ∀ file ∈ files, (round file).failure = some kind ↔ P file) :
    failures kind (files.map round) ≠ 0 ↔ ∃ file ∈ files, P file := by
  unfold failures
  rw [← Nat.pos_iff_ne_zero, List.countP_pos_iff]
  simp only [List.mem_map, beq_iff_eq, exists_exists_and_eq_and]
  exact exists_congr fun file => and_congr_right fun hfile => h file hfile

/-- The order of the files does not matter for the exit code. -/
theorem tagExit_perm {fs fs' : List FileOutcome} (h : fs.Perm fs') : tagExit fs = tagExit fs' := by
  unfold tagExit failures
  rw [h.countP_eq, h.countP_eq]

/-! ### Samples -/

/-- A script that uses one name. -/
def useScript : Node :=
  { type := some "Program"
    attributes := [("body", .list 0 [.node
      { type := some "ExpressionStatement"
        identity := 1
        attributes := [("expression", .node (Tree.sampleName 2 "a" 0))] }])] }

/-- What is wrong with any other script. -/
def useFault : Fault where
  message := "Line 1: Unexpected token"
  line := some 1

/-- Takes every source that starts with an `a` for this script. -/
def useParser : Parser := fun _ _ source =>
  if source.toList.head? = some 'a' then .ok useScript else .error useFault

/-- Its one name is a text. -/
theorem textual_useScript : useScript.Textual := by
  have hscript : useScript.entries = [⟨"body", some 0,
      { type := some "ExpressionStatement"
        identity := 1
        attributes := [("expression", .node (Tree.sampleName 2 "a" 0))] }⟩] := rfl
  have huse : ({ type := some "ExpressionStatement"
                 identity := 1
                 attributes := [("expression", .node (Tree.sampleName 2 "a" 0))] } : Node).entries =
      [⟨"expression", none, Tree.sampleName 2 "a" 0⟩] := rfl
  rw [Node.Textual, Node.forall_mem_unfold, hscript, List.forall_mem_singleton,
    Node.forall_mem_unfold, huse, List.forall_mem_singleton]
  refine ⟨⟨trivial, fun hkind => ?_, fun _ => trivial⟩,
    ⟨trivial, fun hkind => ?_, fun _ => trivial⟩, Emission.textual_sampleName _ _ _ _⟩
  · exact absurd hkind (show ¬"Program" = "Literal" by decide)
  · exact absurd hkind (show ¬"ExpressionStatement" = "Literal" by decide)

/-- So nothing stops a report on it. -/
theorem fault?_useScript (source path : String) (offsets : Offsets) :
    (emissionOf {} (Tree.ofRoot useScript) source path offsets).fault? = none :=
  Emission.fault?_eq_none textual_useScript rfl

theorem wellTyped_useParser (settings : Settings) (source : String) :
    ParserWellTyped useParser settings source := by
  intro grammar program h
  -- The sample parser has one tree to give.
  have hprogram : program = useScript := by
    unfold useParser at h
    split_ifs at h
    exact (Except.ok.inj h).symm
  rw [hprogram]
  exact ⟨textual_useScript, .inl rfl⟩

/-- The event at the end of a run over such a source. -/
def usedEvent : Log.Event :=
  ⟨.debug, "tagged", [("source_type", .str "script"), ("tags", .int 1), ("unknown", .int 0),
    ("shared_nodes", .int 0)]⟩

/-- The sink of warnings, and of everything more serious. -/
def warningSink : Log.Sink where
  admits l := l != .notset && Log.Level.warning.passes l

/-- It is that of the standard configuration. -/
theorem sinkOf_standard : sinkOf {} = warningSink := by
  unfold sinkOf
  rw [Log.readLevel_standard]
  rfl

/-- The report on a source of one line, at a line offset. -/
def useReport (path line : String) (n : Int) : Report where
  path := path
  tags := [⟨.reference, .str "a", path, 1 + n, 0, line⟩]

/-- A run over a source that is taken for the script raises one event, which is not written. -/
theorem result_useParser {source path : String} (hsource : source ≠ "") (hpath : path ≠ "")
    {n : Int} (hparse : (parse useParser {} source path warningSink).result =
      .ok ⟨useScript, .script, []⟩)
    (hreport : (emissionOf {} (Tree.ofRoot useScript) source path ⟨n, 0⟩).report =
      useReport path source n) :
    (tagSource useParser {} source (some path) ⟨n, 0⟩ warningSink).result =
      .ok (useReport path source n) := by
  have hevents : reportOn {} ⟨useScript, .script, []⟩ source path ⟨n, 0⟩ =
      (.ok (useReport path source n), [usedEvent]) := by
    have hunshared : sharingEvents (Tree.ofRoot useScript) = [] := by cbv
    simp only [reportOn, fault?_useScript, hreport, hunshared]
    cbv
  have htakes : warningSink.takes usedEvent = true := Log.Sink.takes_of_not_admits rfl
  rw [result_tagSource, if_neg hsource, Option.getD_some, if_neg hpath]
  simp only [hparse, hevents, List.all_cons, htakes, List.all_nil, Bool.and_self]
  rfl

/-- A source of one line. -/
theorem result_use {path : String} (hpath : path ≠ "") (n : Int) :
    (tagSource useParser {} "a;" (some path) ⟨n, 0⟩ warningSink).result =
      .ok (useReport path "a;" n) := by
  have hreport : (emissionOf {} (Tree.ofRoot useScript) "a;" path ⟨n, 0⟩).report =
      useReport path "a;" n := by
    rw [Emission.report, Emission.reported_eq (fault?_useScript _ _ _)]
    cbv
  exact result_useParser (by decide) hpath rfl hreport

/-- A source with a control sequence. -/
theorem result_painted :
    (tagSource useParser {} "a;\x1b[1m" (some "painted.js") {} warningSink).result =
      .ok (useReport "painted.js" "a;\x1b[1m" 0) := by
  have hreport : (emissionOf {} (Tree.ofRoot useScript) "a;\x1b[1m" "painted.js" {}).report =
      useReport "painted.js" "a;\x1b[1m" 0 := by
    rw [Emission.report, Emission.reported_eq (fault?_useScript _ _ _)]
    cbv
  exact result_useParser (by decide) (by decide) rfl hreport

/-- A source that both grammars refuse. -/
theorem result_refused :
    (tagSource useParser {} "?" (some "bad.js") {} warningSink).result =
      .error (.syntaxFailure ⟨"bad.js", some 1, "Unexpected token"⟩) := by
  have htakes : warningSink.takes (retryEvent useFault) = true := Log.Sink.takes_of_not_admits rfl
  have hparse : (parse useParser {} "?" "bad.js" warningSink).result =
      .error (.ofFault "bad.js" useFault) := by
    have hfault : ∀ grammar, useParser grammar {} "?" = .error useFault := fun _ => rfl
    simp only [parse, hfault, htakes, if_true]
  -- The line of the fault is short enough to be written in the message.
  have hshort : useFault.line.all Text.isWritable = true := by decide +kernel
  rw [result_tagSource, if_neg (by decide), Option.getD_some, if_neg (by decide), hparse,
    ParseError.ofFault, if_pos hshort]
  rfl

/-- Three files with a use each, one with a control sequence behind it, and one that is no
    script. -/
def sampleFiles : File.Files :=
  ⟨[(["a.js"], .file [0x61, 0x3b]), (["b.js"], .file [0x61, 0x3b]),
    (["ä.js"], .file [0x61, 0x3b]),
    (["painted.js"], .file [0x61, 0x3b, 0x1b, 0x5b, 0x31, 0x6d]), (["bad.js"], .file [0x3f])]⟩

/-- The samples and their parser. -/
def sampleSurroundings : Surroundings where
  parser := useParser
  files := sampleFiles

theorem config_sampleSurroundings :
    sampleSurroundings.config none (flagLayer {}) = .ok {} :=
  rfl

theorem wellSet_sampleSurroundings : WellSet sampleSurroundings {} {} where
  effective := config_sampleSurroundings
  logFile := rfl
  decoder :=
    have hname : File.hasNull ({} : Settings).encoding = false := by decide
    Encoding.decode_ne_failed hname
  parser := wellTyped_useParser _

/-- What the four sample files hold: two programs, a syntax error, and nothing at all. -/
theorem sourceOf_samples :
    sourceOf sampleSurroundings {} sampleFiles "a.js" = .ok "a;" ∧
    sourceOf sampleSurroundings {} sampleFiles "painted.js" = .ok "a;\x1b[1m" ∧
    sourceOf sampleSurroundings {} sampleFiles "bad.js" = .ok "?" ∧
    sourceOf sampleSurroundings {} sampleFiles "missing.js"
      = .error (.unreadable "missing.js" "No such file or directory") :=
  ⟨rfl, rfl, rfl, rfl⟩

/-- A run that does not end for a number is presentable if its tags have small ones. -/
theorem presentable_of_tame {file : String} (hpath : File.hasNull file = false)
    (hshown : File.display file ≠ "")
    (htame : ∀ source, sourceOf sampleSurroundings {} sampleFiles file = .ok source →
      reportOf sampleSurroundings {} {} warningSink file source ≠ .error .tooManyDigits ∧
      ∀ r, reportOf sampleSurroundings {} {} warningSink file source = .ok r →
        ∀ t ∈ r.tags, t.line = 1 ∧ t.column = 0) :
    Presentable sampleSurroundings {} {} file := by
  refine ⟨hpath, ?_, ?_, fun _ _ _ _ _ _ => rfl⟩
  · intro source hsource hne
    have hinput : ¬LacksInput source (some (File.display file)) := by
      simp [LacksInput, hne, hshown]
    rw [sinkOf_standard]
    exact (tagSource_ends (wellTyped_useParser {} source) (some (File.display file)) {}
      warningSink).not_overlong hinput (htame source hsource).1
  · intro source r hsource hreport t ht
    rw [sinkOf_standard] at hreport
    obtain ⟨hline, hcolumn⟩ := (htame source hsource).2 r hreport t ht
    show ∀ n ∈ [t.line, t.column + 1], Text.isWritable n = true
    rw [hline, hcolumn]
    decide +kernel

/-- All four can be presented, the broken ones too. -/
theorem presentable_samples :
    ∀ file ∈ ["bad.js", "missing.js", "a.js", "painted.js"],
      Presentable sampleSurroundings {} {} file := by
  obtain ⟨huse, hpainted, hbad, hmissing⟩ := sourceOf_samples
  -- the reports have one tag, in the first line and column
  have huseReport : ∀ path line, ∀ t ∈ (useReport path line 0).tags, t.line = 1 ∧ t.column = 0 := by
    intro path line t ht
    rw [List.mem_singleton.mp ht]
    exact ⟨rfl, rfl⟩
  intro file hfile
  simp only [List.mem_cons, List.not_mem_nil, or_false] at hfile
  rcases hfile with rfl | rfl | rfl | rfl
  · refine presentable_of_tame (by decide) (by decide) fun source hsource => ?_
    rw [hbad, Except.ok.injEq] at hsource
    have hrun : reportOf sampleSurroundings {} {} warningSink "bad.js" "?" = _ := result_refused
    rw [← hsource, hrun]
    simp
  · refine presentable_of_tame (by decide) (by decide) fun source hsource => ?_
    rw [hmissing] at hsource
    cases hsource
  · refine presentable_of_tame (by decide) (by decide) fun source hsource => ?_
    rw [huse, Except.ok.injEq] at hsource
    have hrun : reportOf sampleSurroundings {} {} warningSink "a.js" "a;" = _ :=
      result_use (by decide) 0
    rw [← hsource, hrun]
    exact ⟨by simp, fun r hr => Except.ok.inj hr ▸ huseReport _ _⟩
  · refine presentable_of_tame (by decide) (by decide) fun source hsource => ?_
    rw [hpainted, Except.ok.injEq] at hsource
    have hrun : reportOf sampleSurroundings {} {} warningSink "painted.js" "a;\x1b[1m" = _ :=
      result_painted
    rw [← hsource, hrun]
    exact ⟨by simp, fun r hr => Except.ok.inj hr ▸ huseReport _ _⟩

/-! ### Each file by itself -/

/-- A command that treats each file by itself. -/
structure FileByFile (s : Surroundings) (options : TagOptions) (config : Config)
    (files : List String) : Prop where
  /-- It prints what the files print, in their order. -/
  stdout : (runTag s options files).stdout =
    String.join (files.map (s.output options config))
  /-- So two lists of files print what each of them prints. -/
  append : ∀ first second, files = first ++ second →
    (runTag s options files).stdout =
      (runTag s options first).stdout ++ (runTag s options second).stdout
  /-- The exit code tells of a file that cannot be read, or else of one that cannot be parsed. -/
  ending : ∃ code, (runTag s options files).ending = .exit code ∧
    (code = 1 ↔ ∃ file ∈ files, Unreadable s config.settings s.files file) ∧
    (code = 10 ↔ (¬∃ file ∈ files, Unreadable s config.settings s.files file) ∧
      ∃ file ∈ files, s.FailsToParse options config file) ∧
    (code = 0 ↔ (¬∃ file ∈ files, Unreadable s config.settings s.files file) ∧
      ¬∃ file ∈ files, s.FailsToParse options config file)
  /-- It does not depend on the order of the files. -/
  order : ∀ files', files.Perm files' →
    (runTag s options files').ending = (runTag s options files).ending

/-- **A broken file does not affect the others.** -/
theorem runTag_file_by_file (s : Surroundings) (options : TagOptions) (config : Config)
    (files : List String) (h : WellSet s options config)
    (hfiles : ∀ file ∈ files, Presentable s options config file) :
    FileByFile s options config files := by
  obtain ⟨hstdout, hending⟩ := h.runTag_eq hfiles
  constructor
  case stdout => exact hstdout
  case append =>
    rintro first second rfl
    have hfirst := h.runTag_eq fun file hfile => hfiles file (List.mem_append_left second hfile)
    have hsecond := h.runTag_eq fun file hfile => hfiles file (List.mem_append_right first hfile)
    rw [hstdout, hfirst.1, hsecond.1, List.map_append, String.join_append]
  case ending =>
    refine ⟨_, hending, ?_⟩
    -- the exit code looks at the counts, and a count is zero if no file fails that way
    have hread := failures_ne_zero_iff fun file hfile => (h.answers (hfiles file hfile)).read
    have hparse : _ ↔ ∃ file ∈ files, s.FailsToParse options config file :=
      failures_ne_zero_iff fun file hfile => (h.answers (hfiles file hfile)).parse
    rw [← hread, ← hparse]
    unfold tagExit readExit parseExit
    split_ifs with hr hp <;> simp_all
  case order =>
    intro files' hperm
    have hfiles' := h.runTag_eq fun file hfile => hfiles file (hperm.mem_iff.mpr hfile)
    rw [hending, hfiles'.2, tagExit_perm (hperm.map _)]

theorem runTag_file_by_file_samples :
    WellSet sampleSurroundings {} {} ∧
    (∀ file ∈ ["bad.js", "missing.js", "a.js", "painted.js"],
      Presentable sampleSurroundings {} {} file) ∧
    FileByFile sampleSurroundings {} {} ["bad.js", "missing.js", "a.js", "painted.js"] :=
  ⟨wellSet_sampleSurroundings, presentable_samples,
    runTag_file_by_file _ _ _ _ wellSet_sampleSurroundings presentable_samples⟩

/-! ### Commands that are cut short -/

/-- The greatest offset that can be read; a line behind it has a digit too many. -/
def greatestOffset : Int := (Text.writableBound : Int) - 1

/-- One more than the greatest offset that can be written is too long. -/
theorem isWritable_behind_greatestOffset : Text.isWritable (1 + greatestOffset) = false := by
  have hsum : 1 + greatestOffset = (Text.writableBound : Int) := by
    unfold greatestOffset
    omega
  rw [hsum, Text.isWritable, Int.natAbs_natCast, decide_eq_false_iff_not]
  exact Nat.lt_irrefl _

/-- Why a text with other characters than those of ASCII is not encoded. -/
def asciiReason : String := "ordinal not in range(128)"

/-- A stream that encodes ASCII alone. -/
def asciiStream : Stream where
  fault? text := if text.toList.all fun c => c.toNat < 128 then none else some asciiReason

/-- The samples, with such an output. -/
def asciiSurroundings : Surroundings :=
  { sampleSurroundings with stdout := asciiStream }

/-- A refusal of the only tag of a source of one line ends the command. -/
theorem runTag_of_use {s : Surroundings} {options : TagOptions} {file : String} {n : Int}
    {e : Escape} (hconfig : s.config options.config (flagLayer options.flags) = .ok {})
    (hlog : options.logFile = none) (hparser : s.parser = useParser)
    (hoffsets : options.offsets = ⟨n, 0⟩) (hshown : File.display file ≠ "")
    (hsource : sourceOf s {} s.files file = .ok "a;")
    (hrefusal : options.format.refusal? s.stdout
      ⟨.reference, .str "a", File.display file, 1 + n, 0, "a;"⟩ = some e) (rest : List String) :
    (runTag s options (file :: rest)).ending = .escape e ∧
      (runTag s options (file :: rest)).stdout = "" ∧
      (runTag s options (file :: rest)).calls = [⟨.script, {}⟩] := by
  have hreport : reportOf s {} options (sinkOf {}) file "a;" =
      .ok (useReport (File.display file) "a;" n) := by
    rw [reportOf, hparser, hoffsets, sinkOf_standard]
    exact result_use hshown n
  -- The only tag is the one that cannot be printed.
  have hfirst : (useReport (File.display file) "a;" n).tags.findSome?
      (options.format.refusal? s.stdout) = some e := by
    simp only [useReport, List.findSome?_cons, hrefusal]
  obtain ⟨hescape, hstdout, hcalls⟩ := tagOne_of_refusal hsource hreport hfirst
  obtain ⟨hending, hprinted, hcalled⟩ := runTag_of_escape hconfig hlog hescape rest
  refine ⟨hending, hprinted.trans (hstdout.trans ?_), hcalled.trans (hcalls.trans ?_)⟩
  · simp only [Format.lines, useReport, List.takeWhile_cons, hrefusal]
    rfl
  · rw [calls_tagSource _ _ (by decide) hshown, hparser]
    rfl

/-- A tag on a line behind the greatest offset cannot be written. -/
theorem refusal_greatestOffset (path : String) (out : Stream) :
    Format.text.refusal? out ⟨.reference, .str "a", path, 1 + greatestOffset, 0, "a;"⟩ =
      some (.unwritable .tooManyDigits) := by
  have hall : [Data.str "a", .int (1 + greatestOffset), .int (0 + 1)].all Data.isWritable
      = false := by
    simp only [List.all_cons, Data.isWritable, isWritable_behind_greatestOffset, Bool.false_and,
      Bool.and_false]
  have hfault : Format.text.fault? ⟨.reference, .str "a", path, 1 + greatestOffset, 0, "a;"⟩ =
      some .tooManyDigits := by
    show digitsFault? [.str "a", .int (1 + greatestOffset), .int (0 + 1)] = _
    rw [digitsFault?, hall]
    rfl
  rw [Format.refusal?, hfault]
  rfl

/-- A tag with a path beyond ASCII is not encoded. -/
theorem refusal_asciiStream :
    Format.text.refusal? asciiStream ⟨.reference, .str "a", "ä.js", 1 + 0, 0, "a;"⟩ =
      some (.unencodable asciiReason) := by
  have hfault : Format.text.fault? ⟨.reference, .str "a", "ä.js", 1 + 0, 0, "a;"⟩ = none :=
    Format.text.fault?_eq_none ⟨_, rfl⟩ (by decide +kernel)
  rw [Format.refusal?, hfault]
  decide +kernel

/-- Where the rounds do meet.  A line number with too many digits ends the command: its exit code
    is that of a file that cannot be read although all files can be, and the second file is not
    looked at.  So do a line that the output cannot encode and a path with a null character.  And
    what is printed elsewhere than on a terminal is plain text: a control sequence of the source is
    not in the output, although the tag has it. -/
theorem runTag_cut_short :
    let long := runTag sampleSurroundings { offsets := ⟨greatestOffset, 0⟩ } ["a.js", "b.js"]
    let foreign := runTag asciiSurroundings {} ["ä.js", "b.js"]
    let null := runTag sampleSurroundings {} ["\x00", "b.js"]
    (∀ file ∈ ["a.js", "b.js", "ä.js"], ¬Unreadable sampleSurroundings {} sampleFiles file) ∧
    (long.ending = .escape (.unwritable .tooManyDigits) ∧ long.ending.code = 1 ∧
      long.stdout = "" ∧ long.calls = [⟨.script, {}⟩]) ∧
    (foreign.ending = .escape (.unencodable asciiReason) ∧ foreign.ending.code = 1 ∧
      foreign.stdout = "" ∧ foreign.calls = [⟨.script, {}⟩]) ∧
    (null.ending = .escape .nullInPath ∧ null.stdout = "" ∧ null.calls = []) ∧
    (runTag sampleSurroundings {} ["painted.js"]).stdout = "R,a,painted.js,1:1,a;\n" ∧
    ∃ r, reportOf sampleSurroundings {} {} warningSink "painted.js" "a;\x1b[1m" = .ok r ∧
      r.render = ["R,a,painted.js,1:1,a;\x1b[1m"] := by
  intro long foreign null
  obtain ⟨huse, hpainted, -, -⟩ := sourceOf_samples
  have hother : sourceOf asciiSurroundings {} sampleFiles "ä.js" = .ok "a;" := rfl
  have hreadable : ∀ file ∈ ["a.js", "b.js", "ä.js"],
      ¬Unreadable sampleSurroundings {} sampleFiles file := by
    have hsecond : sourceOf sampleSurroundings {} sampleFiles "b.js" = .ok "a;" := rfl
    have hthird : sourceOf sampleSurroundings {} sampleFiles "ä.js" = .ok "a;" := rfl
    rw [List.forall_mem_cons, List.forall_mem_cons, List.forall_mem_singleton]
    exact ⟨not_unreadable huse, not_unreadable hsecond, not_unreadable hthird⟩
  -- a refused tag, an output that cannot encode one, and a path that cannot be opened
  have hlong : long.ending = .escape (.unwritable .tooManyDigits) ∧ long.stdout = "" ∧
      long.calls = [⟨.script, {}⟩] :=
    runTag_of_use config_sampleSurroundings rfl rfl rfl (by decide) huse
      (refusal_greatestOffset _ _) ["b.js"]
  have hforeign : foreign.ending = .escape (.unencodable asciiReason) ∧ foreign.stdout = "" ∧
      foreign.calls = [⟨.script, {}⟩] :=
    runTag_of_use config_sampleSurroundings rfl rfl rfl (by decide) hother refusal_asciiStream
      ["b.js"]
  have hnull : null.ending = .escape .nullInPath ∧ null.stdout = "" ∧ null.calls = [] :=
    runTag_of_escape config_sampleSurroundings rfl rfl ["b.js"]
  -- the control sequence is in the report, and not in the output
  have hreport : reportOf sampleSurroundings {} {} warningSink "painted.js" "a;\x1b[1m" =
      .ok (useReport "painted.js" "a;\x1b[1m" 0) := result_painted
  have hstdout : (runTag sampleSurroundings {} ["painted.js"]).stdout =
      outputOf sampleSurroundings {} {} warningSink sampleFiles "painted.js" := by
    have hrun := wellSet_sampleSurroundings.runTag_eq
      (List.forall_mem_singleton.mpr (presentable_samples "painted.js" (by decide)))
    rw [hrun.1, List.map_singleton, String.join_cons, String.join_nil, String.append_empty,
      Surroundings.output, sinkOf_standard]
    rfl
  refine ⟨hreadable, ⟨hlong.1, by rw [hlong.1]; rfl, hlong.2⟩,
    ⟨hforeign.1, by rw [hforeign.1]; rfl, hforeign.2⟩, hnull, ?_, _, hreport, ?_⟩
  · rw [hstdout]
    simp only [outputOf, hpainted, hreport]
    decide +kernel
  · decide +kernel

end SymbolTags.CommandLine
