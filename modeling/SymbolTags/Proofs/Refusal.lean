import Mathlib.Logic.Basic
import SymbolTags.CommandLine.Run

namespace SymbolTags

/-!
# Refusals — what a bad configuration comes to

A configuration that cannot be used should be refused, which ends a command with an exit code of
its own.  Not every failure is a refusal, though:

* `Handled` — outcomes that are a result or a refusal;
* `Lookout.Escapes` — the ways in which looking for the user's file, or reading it, fails without
  a refusal.  The one that a user meets is a file that is not UTF-8;
* `handled_findUserConfig_iff` — there are no others;
* `resolveConfig_refuses_iff` — so everything else that can be wrong with a configuration is
  refused, and a command then stops before it looks at any source.
-/

/-! ### Handled outcomes -/

/-- Something is found, or the configuration is refused. -/
def Handled {α : Type} (x : Except ConfigFailure α) : Prop :=
  (∃ a, x = .ok a) ∨ ∃ e, x = .error (.refused e)

namespace Handled

variable {α β : Type}

@[simp] theorem ok (a : α) : Handled (.ok a) :=
  .inl ⟨a, rfl⟩

@[simp] theorem error_iff {failure : ConfigFailure} :
    Handled (.error failure : Except ConfigFailure α) ↔ ∃ e, failure = .refused e := by
  simp [Handled]

/-- Refusals are handled. -/
theorem mapError (x : Except ConfigError α) : Handled (x.mapError .refused) := by
  cases x with
  | ok a => exact ok a
  | error e => exact .inr ⟨e, rfl⟩

/-- Steps whose outcomes are all handled do not change whether the whole is. -/
theorem bind_iff {x : Except ConfigFailure α} {f : α → Except ConfigFailure β}
    (hf : ∀ a, Handled (f a)) : Handled (x >>= f) ↔ Handled x := by
  cases x with
  | ok a => exact ⟨fun _ => ok a, fun _ => hf a⟩
  | error failure => exact error_iff.trans error_iff.symm

/-- What is done with a value does not bear on how a failure is handled. -/
theorem map_iff {x : Except ConfigFailure α} {f : α → β} : Handled (f <$> x) ↔ Handled x := by
  cases x with
  | ok a => exact ⟨fun _ => ok a, fun _ => ok (f a)⟩
  | error failure => exact error_iff.trans error_iff.symm

end Handled

/-! ### Reading the user's file -/

/-- The text of a configuration file, with its line breaks unified. -/
def configText (cs : List Char) : String :=
  String.ofList (unifyBreaks cs)

/-- How the content of a configuration file stops its reading without a refusal. -/
inductive ContentEscapes (bytes : List UInt8) : Prop
  | undecodable {f : Encoding.Fault} (h : Encoding.decodeUtf8 bytes = .error f)
  | tooManyDigits {cs : List Char} {count : Nat} (h : Encoding.decodeUtf8 bytes = .ok cs)
      (hread : Toml.read (configText cs) = .error (.tooManyDigits count))

/-- **Content.**  A file that is UTF-8 and has no overlong number gives a table or is refused as
    malformed. -/
theorem handled_readConfigBytes_iff (shown : String) (bytes : List UInt8) :
    Handled (readConfigBytes shown bytes) ↔ ¬ContentEscapes bytes := by
  have hstep : readConfigBytes shown bytes =
      match Encoding.decodeUtf8 bytes with
      | .error f => .error (.undecodable f)
      | .ok cs => (Toml.read (configText cs)).mapError (.ofProblem shown) := by
    unfold readConfigBytes
    cases Encoding.decodeUtf8 bytes <;> rfl
  rw [hstep]
  cases hdecode : Encoding.decodeUtf8 bytes with
  | error f =>
    have hescapes : ContentEscapes bytes := .undecodable hdecode
    simp [hescapes]
  | ok cs =>
    -- decoded, so only an overlong number can still stop the reading
    have hiff : ContentEscapes bytes ↔
        ∃ count, Toml.read (configText cs) = .error (.tooManyDigits count) := by
      constructor
      · rintro (h | ⟨h, hread⟩)
        · rw [hdecode] at h
          cases h
        · rw [hdecode, Except.ok.injEq] at h
          subst h
          exact ⟨_, hread⟩
      · rintro ⟨count, hread⟩
        exact .tooManyDigits hdecode hread
    rw [hiff]
    show Handled ((Toml.read (configText cs)).mapError (.ofProblem shown)) ↔ _
    cases hread : Toml.read (configText cs) with
    | ok table =>
      show Handled (.ok table) ↔ _
      simp
    | error problem =>
      show Handled (.error (.ofProblem shown problem)) ↔ _
      cases problem <;> simp [ConfigFailure.ofProblem]

/-! ### Looking for the user's file -/

/-- The file that is looked for when none is named. -/
def Lookout.candidate (l : Lookout) : String :=
  File.join (l.directory.getD ".") userConfigName

/-- How the way to a configuration ends without a refusal.  A file that is named has a null
    character in its path, or a content that stops the reading.  A file that is looked for cannot
    even be looked at, or has such a content. -/
def Lookout.Escapes (fs : File.Files) (l : Lookout) : Prop :=
  match l.explicit with
  | some path =>
    File.hasNull path = true ∨
      File.hasNull path = false ∧ ∃ bytes, fs.read path = .ok bytes ∧ ContentEscapes bytes
  | none =>
    File.hasNull l.candidate = false ∧
      ((∃ e, fs.find l.candidate = .error e) ∨
        ∃ bytes, fs.find l.candidate = .ok (some (.file bytes)) ∧ ContentEscapes bytes)

section

variable (fs : File.Files)

/-- A file that is named has to be there. -/
theorem handled_readUserConfig_iff (path : String) :
    Handled (readUserConfig fs path) ↔
      ¬(File.hasNull path = true ∨
        File.hasNull path = false ∧ ∃ bytes, fs.read path = .ok bytes ∧ ContentEscapes bytes) := by
  cases hnull : File.hasNull path with
  | true =>
    have hread : readUserConfig fs path = .error .nullInPath := by
      unfold readUserConfig
      simp only [hnull]
      rfl
    simp [hread]
  | false =>
    have hread : readUserConfig fs path =
        match fs.read path with
        | .error e => .error (.refused (.unreadable (File.display path) e))
        | .ok bytes => readConfigBytes (File.display path) bytes := by
      unfold readUserConfig
      simp only [hnull]
      cases fs.read path <;> rfl
    rw [hread]
    cases fs.read path with
    | error e => simp
    | ok bytes => simp [handled_readConfigBytes_iff]

/-- **The user's file.**  Where nothing of this happens, the file is read, refused or not
    there. -/
theorem handled_findUserConfig_iff (l : Lookout) :
    Handled (findUserConfig fs l) ↔ ¬l.Escapes fs := by
  unfold findUserConfig Lookout.Escapes
  cases l.explicit with
  | some path => exact Handled.map_iff.trans (handled_readUserConfig_iff fs path)
  | none =>
    have hcandidate : File.join (l.directory.getD ".") userConfigName = l.candidate := rfl
    simp only [hcandidate]
    cases File.hasNull l.candidate with
    | true => simp
    | false =>
      cases fs.find l.candidate with
      | error e => simp
      | ok found =>
        -- nothing, or a directory, is as good as no file
        rcases found with _ | ⟨bytes⟩ | _
        · simp
        · simp [Handled.map_iff, handled_readConfigBytes_iff]
        · simp

end

/-! ### The environment -/

/-- The variables of an environment, whose values are texts. -/
def environmentData (environment : Fields String) : Fields Data :=
  environment.map fun p => (p.1, .str p.2)

theorem get?_environmentData (environment : Fields String) (name : String) :
    Fields.get? (environmentData environment) name
      = (Fields.get? environment name).map .str := by
  induction environment with
  | nil => rfl
  | cons p rest ih =>
    show Fields.get? ((p.1, Data.str p.2) :: environmentData rest) name = _
    rw [Fields.get?, Fields.get?, ih]
    by_cases h : p.1 = name
    · rw [if_pos h, if_pos h, Option.map_some]
    · rw [if_neg h, if_neg h]

/-- Texts in the environment make a layer, or are refused. -/
theorem handled_environmentLayer (environment : Fields String) :
    Handled (environmentLayer (environmentData environment)) := by
  unfold environmentLayer
  simp only [get?_environmentData]
  cases Fields.get? environment verboseVariable with
  | none => exact Handled.ok _
  | some word =>
    have htext : (Data.textFor "strip" (.str word)).mapError ConfigFailure.notText = .ok word := rfl
    simp only [Option.map_some, Option.getD_some, htext]
    refine (Handled.bind_iff fun _ => ?_).mpr (Handled.ok word)
    refine (Handled.bind_iff fun b => ?_).mpr (Handled.mapError _)
    exact Handled.ok _

/-! ### The whole configuration -/

/-- Once the user's file has been read, nothing can fail but by a refusal. -/
theorem handled_resolveConfig_iff (fs : File.Files) (l : Lookout) (environment : Fields String)
    (flags : Option (Fields Data)) :
    Handled (resolveConfig fs l (environmentData environment) flags) ↔ ¬l.Escapes fs := by
  -- the stages behind the user's file, whatever it held
  have hrest : ∀ user, Handled (environmentLayer (environmentData environment) >>= fun layer =>
      (loadConfig { user, environment := some layer, flags }).mapError .refused) := by
    intro user
    exact (Handled.bind_iff fun _ => Handled.mapError _).mpr (handled_environmentLayer environment)
  exact (Handled.bind_iff hrest).trans (handled_findUserConfig_iff fs l)

namespace CommandLine

/-- Where a command looks for its configuration. -/
def Surroundings.lookout (s : Surroundings) (explicit : Option String) : Lookout :=
  { explicit, workingDirectory := s.workingDirectory }

/-- The outcome of a command without a configuration depends neither on the parser nor on the
    files that it was to tag. -/
theorem runTag_of_error {s : Surroundings} {options : TagOptions} {failure : ConfigFailure}
    (h : s.config options.config (flagLayer options.flags) = .error failure) (parser : Parser)
    (files : List String) :
    runTag { s with parser } options files = s.withoutConfig failure := by
  have hparser : ({ s with parser } : Surroundings).config options.config
      (flagLayer options.flags) = .error failure := h
  unfold runTag
  rw [hparser]
  cases failure <;> rfl

/-- A failure that is no refusal escapes the command. -/
theorem withoutConfig_of_not_refused (s : Surroundings) {failure : ConfigFailure}
    (h : ∀ e, failure ≠ .refused e) :
    ∃ escape, s.withoutConfig failure = s.outcome (.escape escape) := by
  cases failure with
  | refused e => exact absurd rfl (h e)
  | undecodable f => exact ⟨_, rfl⟩
  | nullInPath => exact ⟨_, rfl⟩
  | inaccessible path e => exact ⟨_, rfl⟩
  | tooManyDigits count => exact ⟨_, rfl⟩
  | notText e => exact ⟨_, rfl⟩

end CommandLine

open CommandLine in
/-- **Bad configurations are refused, unless their file is no text.**  For every file system,
    lookout, environment and flags, there is a configuration, or it is refused, exactly if the way
    to the user's file ends in none of the ways that escape.  A refusal ends the command with the
    exit code for configurations, whatever the files to be tagged and the parser; an escape ends
    it with an error that it does not handle.

    Two things are taken for granted: there is a working directory, and tables are not nested more
    deeply than the runtime can follow. -/
theorem resolveConfig_refuses_iff (fs : File.Files) (l : Lookout) (environment : Fields String)
    (flags : Option (Fields Data)) :
    (((∃ config, resolveConfig fs l (environmentData environment) flags = .ok config) ∨
        ∃ e, resolveConfig fs l (environmentData environment) flags = .error (.refused e)) ↔
      ¬l.Escapes fs) ∧
    ∀ (s : Surroundings) (options : TagOptions),
      (¬(s.lookout options.config).Escapes s.files →
        (∃ config, s.config options.config (flagLayer options.flags) = .ok config) ∨
        ∃ e : ConfigError, ∀ parser files, runTag { s with parser } options files =
          s.outcome (.exit configExit) ""
            (s.told [red] ("Configuration error: " ++ e.message s.issueText))) ∧
      ((s.lookout options.config).Escapes s.files →
        ∃ escape, ∀ parser files,
          runTag { s with parser } options files = s.outcome (.escape escape)) := by
  refine ⟨handled_resolveConfig_iff fs l environment flags, fun s options => ?_⟩
  have hiff : Handled (s.config options.config (flagLayer options.flags)) ↔
      ¬(s.lookout options.config).Escapes s.files :=
    handled_resolveConfig_iff s.files _ s.environment _
  constructor
  · intro hescapes
    rcases hiff.mpr hescapes with hok | ⟨e, he⟩
    · exact .inl hok
    · exact .inr ⟨e, runTag_of_error he⟩
  · intro hescapes
    cases hconfig : s.config options.config (flagLayer options.flags) with
    | ok config =>
      rw [hconfig] at hiff
      exact absurd hescapes (hiff.mp (.ok config))
    | error failure =>
      -- a refusal would be handled, and this is not
      have hnot : ∀ e, failure ≠ .refused e := by
        intro e he
        rw [hconfig, he] at hiff
        exact hiff.mp (.inr ⟨e, rfl⟩) hescapes
      obtain ⟨escape, houtcome⟩ := withoutConfig_of_not_refused s hnot
      exact ⟨escape, fun parser files => (runTag_of_error hconfig parser files).trans houtcome⟩

/-- A directory with a configuration file of one byte, which is no UTF-8. -/
def strayByte : File.Files :=
  ⟨[(["jstags.toml"], .file [0xff]), (["app.js"], .file [0x78])]⟩

/-- A file that is not UTF-8 is no refusal: the fault leaves the reading of the configuration,
    and the command ends with it. -/
theorem resolveConfig_strayByte :
    resolveConfig strayByte {} [] none
      = .error (.undecodable ⟨"utf-8", 0, 1, 0xff, "invalid start byte"⟩) ∧
    ∀ parser, (CommandLine.runTag { parser, files := strayByte } {} ["app.js"]).ending
      = .escape (.undecodable ⟨"utf-8", 0, 1, 0xff, "invalid start byte"⟩) := by
  have hfind : findUserConfig strayByte {} =
      .error (.undecodable ⟨"utf-8", 0, 1, 0xff, "invalid start byte"⟩) := rfl
  have hresolve : ∀ environment flags, resolveConfig strayByte {} environment flags =
      .error (.undecodable ⟨"utf-8", 0, 1, 0xff, "invalid start byte"⟩) := by
    intro environment flags
    unfold resolveConfig
    rw [hfind]
    rfl
  refine ⟨hresolve [] none, fun parser => ?_⟩
  have hconfig : ({ parser, files := strayByte } : CommandLine.Surroundings).config
      ({} : CommandLine.TagOptions).config (flagLayer ({} : CommandLine.TagOptions).flags) =
        .error (.undecodable ⟨"utf-8", 0, 1, 0xff, "invalid start byte"⟩) := hresolve [] (some _)
  exact congrArg CommandLine.Outcome.ending (CommandLine.runTag_of_error hconfig parser ["app.js"])

end SymbolTags
