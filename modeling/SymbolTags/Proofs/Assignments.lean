import SymbolTags.Proofs.Setup
import SymbolTags.Proofs.StoredTexts

namespace SymbolTags

/-!
# Assignments — a configuration stays valid while it is changed

Assignments to a configuration are checked as its making is, and settings do not change at all.
Two things get past the checks: a table that replaces all fields, and settings that have been made
without a check.  `Assignment.IsOrdinary` leaves them out:

* `Draft.assigned_ofConfig` — an assignment that replaces no table does to a draft what it does
  to the configuration, and one that is refused does nothing to either;
* `Config.assign_changesOnly` — it changes no field but the assigned one;
* `Config.Valid.assign` — and leaves a valid configuration;
* `Config.Valid.assign_iff_ofTable` — the one that its fields would make with the new value;
* `assignments_keep_valid` — so does every row of them.
-/

namespace Assignment

/-- The names of the records that a value keeps about its own checks begin like this. -/
def recordStart : List Char := "__pydantic_".toList

/-- An assignment that does not get past the checks. -/
structure IsOrdinary (a : Assignment) : Prop where
  /-- No table of fields is replaced. -/
  keepsTable : a.newTable? = none
  /-- The records of the checks are left alone. -/
  keepsRecords : ¬recordStart <+: a.name.toList
  /-- Assigned settings have been checked when they were made. -/
  checked : ∀ s, a.value = .settings s → s.IsChecked

/-- What is assigned is the field of a name. -/
def assignsTo : Assignment → String → Bool
  | field name _, other => name == other
  | setting _ _, _ => false

/-- An assignment to a field is one to that field. -/
theorem assignsTo_self (name : String) (d : Data) : (field name d).assignsTo name = true :=
  beq_self_eq_true name

/-! ### Single assignments -/

/-- What an assignment may change is its own field, to a value that has been checked. -/
theorem change_cases {a : Assignment} {change : Change} (h : a.change = .ok change) :
    change = .nothing ∨
    (∃ d level, a = .field levelName d ∧ change = .logLevel level ∧
      checkLogLevel d = .ok level) ∨
    ∃ d s, a = .field settingsName d ∧ change = .settings s ∧ checkSettings d = .ok s := by
  unfold Assignment.change at h
  by_cases hprivate : isPrivate a.name = true
  · rw [if_pos hprivate] at h
    unfold privateChange at h
    split_ifs at h
    exact .inl (Except.ok.inj h).symm
  · rw [if_neg hprivate] at h
    cases a with
    | setting name d => cases h
    | field name d =>
      simp only [fieldChange] at h
      split_ifs at h with hlevel hsettings
      · subst hlevel
        split at h
        · rename_i level hcheck
          exact .inr (.inl ⟨d, level, rfl, (Except.ok.inj h).symm, hcheck⟩)
        · cases h
      · subst hsettings
        have hmap := eq_ok_of_mapError h
        cases hcheck : checkSettings d with
        | error issues =>
          rw [hcheck] at hmap
          cases hmap
        | ok s =>
          rw [hcheck] at hmap
          exact .inr (.inr ⟨d, s, rfl, (Except.ok.inj hmap).symm, hcheck⟩)

end Assignment

/-- Two configurations differ at most in the field that is assigned to. -/
structure Assignment.ChangesOnly (a : Assignment) (c c' : Config) : Prop where
  logLevel : a.assignsTo levelName = false → c'.logLevel = c.logLevel
  settings : a.assignsTo settingsName = false → c'.settings = c.settings

namespace Config

variable {c c' : Config} {a : Assignment}

/-- What is assigned has been checked first, and makes one change. -/
theorem exists_change_of_assign (h : c.assign a = .ok c') :
    ∃ change, a.change = .ok change ∧ c' = c.apply change := by
  unfold assign at h
  cases hchange : a.change with
  | error e =>
    rw [hchange] at h
    cases h
  | ok change =>
    rw [hchange] at h
    exact ⟨change, rfl, (Except.ok.inj h).symm⟩

/-- **One assignment** changes the field that it names and no other. -/
theorem assign_changesOnly (h : c.assign a = .ok c') : a.ChangesOnly c c' := by
  obtain ⟨change, hchange, rfl⟩ := exists_change_of_assign h
  rcases Assignment.change_cases hchange with rfl | ⟨d, level, rfl, rfl, -⟩ | ⟨d, s, rfl, rfl, -⟩
  · exact ⟨fun _ => rfl, fun _ => rfl⟩
  · refine ⟨fun hother => ?_, fun _ => rfl⟩
    cases hother.symm.trans (Assignment.assignsTo_self levelName d)
  · refine ⟨fun _ => rfl, fun hother => ?_⟩
    cases hother.symm.trans (Assignment.assignsTo_self settingsName d)

/-- **One assignment.**  A valid configuration stays valid: what is stored has just been checked,
    or was checked when it was made. -/
theorem Valid.assign (hc : c.Valid) (ha : ∀ s, a.value = .settings s → s.IsChecked)
    (h : c.assign a = .ok c') : c'.Valid := by
  obtain ⟨change, hchange, rfl⟩ := exists_change_of_assign h
  rcases Assignment.change_cases hchange with rfl | ⟨d, level, -, rfl, hcheck⟩ |
    ⟨d, s, rfl, rfl, hcheck⟩
  · exact hc
  · exact ⟨storedLevel_of_checkLogLevel hcheck, hc.encoding⟩
  · refine ⟨hc.logLevel, ?_⟩
    unfold checkSettings at hcheck
    split at hcheck
    · exact Settings.storedEncoding_of_ofTable hcheck
    · cases Except.ok.inj hcheck
      exact (ha s rfl).storedEncoding
    · cases hcheck

/-- A refused assignment keeps it valid, too. -/
theorem Valid.after (hc : c.Valid) (ha : ∀ s, a.value = .settings s → s.IsChecked) :
    (c.after a).Valid := by
  unfold Config.after
  split
  · rename_i c' h
    exact hc.assign ha h
  · exact hc

/-- A level is assigned when it passes the check of levels. -/
theorem assign_levelName_iff {d : Data} : c.assign (.field levelName d) = .ok c' ↔
    checkLogLevel d = .ok c'.logLevel ∧ c'.settings = c.settings := by
  have hpublic : ¬isPrivate levelName = true := by decide +kernel
  obtain ⟨logLevel, settings⟩ := c'
  rw [assign, Assignment.change, Assignment.name, if_neg hpublic]
  dsimp only
  rw [Assignment.fieldChange, if_pos rfl]
  cases checkLogLevel d with
  | error kind => simp [Except.map]
  | ok level =>
    simp only [Except.map, apply, Except.ok.injEq, Config.mk.injEq]
    exact and_congr_right fun _ => eq_comm

/-- Settings are assigned when they pass the check of settings. -/
theorem assign_settingsName_iff {d : Data} : c.assign (.field settingsName d) = .ok c' ↔
    checkSettings d = .ok c'.settings ∧ c'.logLevel = c.logLevel := by
  have hpublic : ¬isPrivate settingsName = true := by decide +kernel
  -- The two fields are checked apart.
  have hother : settingsName ≠ levelName := by decide
  obtain ⟨logLevel, settings⟩ := c'
  rw [assign, Assignment.change, Assignment.name, if_neg hpublic]
  dsimp only
  rw [Assignment.fieldChange, if_neg hother, if_pos rfl]
  cases checkSettings d with
  | error issues => simp [Except.map, Except.mapError]
  | ok s =>
    simp only [Except.map, Except.mapError, apply, Except.ok.injEq, Config.mk.injEq]
    rw [and_comm]
    exact and_congr_right fun _ => eq_comm

/-- Settings that are given and not null have to pass their check. -/
theorem settingsFrom_iff {table : Fields Data} {d : Data} {s : Settings}
    (hget : Fields.get? table settingsName = some d) (hnull : d.isNull = false) :
    SettingsFrom table s ↔ checkSettings d = .ok s := by
  constructor
  · intro hfrom
    cases hfrom with
    | standard h _ =>
      rcases h with h | h
      · cases hget.symm.trans h
      · cases hget.symm.trans h
        cases hnull
    | entries h hs =>
      cases hget.symm.trans h
      exact hs
    | made h =>
      cases hget.symm.trans h
      rfl
  · intro hcheck
    unfold checkSettings at hcheck
    split at hcheck
    · exact .entries hget hcheck
    · cases Except.ok.inj hcheck
      exact .made hget
    · cases hcheck

/-- **Checks.**  A level, or settings that are not null, are assigned exactly when a configuration
    can be made of the fields with the new value in its place, and this is then the outcome. -/
theorem Valid.assign_iff_ofTable (hc : c.Valid) {name : String} {d : Data}
    (h : name = levelName ∨ name = settingsName ∧ d.isNull = false) :
    c.assign (.field name d) = .ok c' ↔
      Config.ofTable (Fields.set (Draft.ofConfig c).table name d) = .ok c' := by
  rw [ofTable_eq_ok_iff]
  rcases h with rfl | ⟨rfl, hnull⟩
  · -- the new level is checked, and the old settings once more
    have hlevel : Fields.get? (Fields.set (Draft.ofConfig c).table levelName d) levelName
        = some d := Fields.get?_set_self _ _ _
    have hsettings : Fields.get? (Fields.set (Draft.ofConfig c).table levelName d) settingsName
        = some (.table c.settings.table) := rfl
    have hold : checkSettings (.table c.settings.table) = .ok c.settings :=
      Settings.ofTable_table hc.encoding [settingsName]
    rw [assign_levelName_iff, settingsFrom_iff hsettings rfl, hold, checkField_eq_ok_iff, hlevel,
      Except.ok.injEq, eq_comm (a := c.settings)]
    simp
  · -- the new settings are checked, and the old level once more
    have hsettings : Fields.get? (Fields.set (Draft.ofConfig c).table settingsName d) settingsName
        = some d := Fields.get?_set_self _ _ _
    have hlevel : Fields.get? (Fields.set (Draft.ofConfig c).table settingsName d) levelName
        = some (.str c.logLevel) := rfl
    have hold : checkField [] (Fields.set (Draft.ofConfig c).table settingsName d) levelName
        ({} : Config).logLevel checkLogLevel = .ok c.logLevel :=
      checkField_of_get? hlevel hc.logLevel.checkLogLevel_eq
    rw [assign_settingsName_iff, settingsFrom_iff hsettings hnull, hold, Except.ok.injEq,
      eq_comm (a := c.logLevel), and_comm]

/-- **Rows of assignments.**  A valid configuration stays valid, by induction on the row. -/
theorem Valid.foldl_after (hc : c.Valid) {steps : List Assignment}
    (hsteps : ∀ a ∈ steps, a.IsOrdinary) : (steps.foldl Config.after c).Valid := by
  induction steps generalizing c with
  | nil => exact hc
  | cons a rest ih =>
    obtain ⟨ha, hrest⟩ := List.forall_mem_cons.mp hsteps
    exact ih (hc.after ha.checked) hrest

end Config

/-! ### Drafts -/

namespace Draft

/-- The draft after an assignment. -/
def after (d : Draft) (a : Assignment) : Draft :=
  (d.assigned a).2

/-- The check comes first, so there is nothing that a refusal would have to take back. -/
theorem run_carryOut (d : Draft) (a : Assignment) :
    Id.run ((carryOut a).run.run d) =
      match a.change with
      | .ok change => (.ok (), d.apply change)
      | .error e => (.error e, d) := by
  unfold carryOut
  cases a.change <;> rfl

variable {c : Config} {a : Assignment}

/-- Without a table to replace, an assignment is a checked change. -/
theorem assigned_eq_run_carryOut (h : a.newTable? = none) :
    (ofConfig c).assigned a = Id.run ((carryOut a).run.run (ofConfig c)) := by
  unfold assigned assign
  rw [h]
  -- a configuration has settings, so they can be reached
  cases a <;> rfl

/-- An assignment to the draft of a configuration is one to the configuration, refused ones
    included. -/
theorem assigned_ofConfig (h : a.newTable? = none) :
    (ofConfig c).assigned a =
      match c.assign a with
      | .ok c' => (.ok (), ofConfig c')
      | .error e => (.error e, ofConfig c) := by
  rw [assigned_eq_run_carryOut h, run_carryOut, Config.assign]
  cases a.change with
  | error e => rfl
  | ok change => exact congrArg (Prod.mk _) (ofConfig_apply c change).symm

/-- So the draft stays one of a configuration. -/
theorem after_ofConfig (h : a.newTable? = none) :
    (ofConfig c).after a = ofConfig (c.after a) := by
  unfold after Config.after
  rw [assigned_ofConfig h]
  cases c.assign a <;> rfl

/-- It does so through all steps of a session. -/
theorem foldl_after_ofConfig {steps : List Assignment} (h : ∀ a ∈ steps, a.IsOrdinary)
    (c : Config) : steps.foldl after (ofConfig c) = ofConfig (steps.foldl Config.after c) := by
  induction steps generalizing c with
  | nil => rfl
  | cons a rest ih =>
    obtain ⟨ha, hrest⟩ := List.forall_mem_cons.mp h
    rw [List.foldl_cons, List.foldl_cons, after_ofConfig ha.keepsTable]
    exact ih hrest (c.after a)

end Draft

/-- A level that can be read is no reason for not setting logging up. -/
theorem Log.State.configure_of_readLevel {level : String} {l : Level}
    (h : readLevel level = .ok l) (s : State) (logFile : Option String) (home : String)
    (e : UnsupportedLevel) : (s.configure level logFile home).1 ≠ .error (.unsupportedLevel e) := by
  have hends := s.setUp_configure level logFile home
  generalize s.configure level logFile home = outcome at hends ⊢
  cases hends with
  | unreadable hlevel =>
    rw [h] at hlevel
    cases hlevel
  | homeless _ _ _ => simp
  | blocked _ _ _ _ => simp
  | console _ _ => simp
  | file _ _ _ _ => simp

/-! ### Sessions -/

/-- **Sessions.**  After any ordinary assignments there is still a configuration.  Its level can be
    read, so that logging can be set up with it, and both of its texts are as they are stored.  A
    further assignment either changes the assigned field only, or is refused, and then the
    configuration is what it was. -/
theorem assignments_keep_valid {table : Fields Data} {start : Config}
    (hstart : Config.ofTable table = .ok start) (hchecked : Config.TakesChecked table)
    (steps : List Assignment) (hsteps : ∀ a ∈ steps, a.IsOrdinary) :
    ∃ c : Config, steps.foldl Draft.after (.ofConfig start) = .ofConfig c ∧
      (∃ l, Log.readLevel c.logLevel = .ok l) ∧
      (∀ (s : Log.State) logFile home e,
        (s.configure c.logLevel logFile home).1 ≠ .error (.unsupportedLevel e)) ∧
      Text.upper c.logLevel = c.logLevel ∧
      c.settings.encoding ≠ "" ∧ Text.lower c.settings.encoding = c.settings.encoding ∧
      ∀ a : Assignment, a.IsOrdinary →
        (∃ c', (Draft.ofConfig c).assigned a = (.ok (), .ofConfig c') ∧ a.ChangesOnly c c') ∨
        ∃ e, (Draft.ofConfig c).assigned a = (.error e, .ofConfig c) := by
  have hvalid := (Config.valid_of_ofTable hstart hchecked).foldl_after hsteps
  obtain ⟨l, hread⟩ := hvalid.logLevel.readable
  refine ⟨_, Draft.foldl_after_ofConfig hsteps start, ⟨l, hread⟩,
    Log.State.configure_of_readLevel hread, hvalid.logLevel.upper, hvalid.encoding.filled,
    hvalid.encoding.lower, ?_⟩
  intro a ha
  rw [Draft.assigned_ofConfig ha.keepsTable]
  cases hassign : (steps.foldl Config.after start).assign a with
  | ok c' => exact .inl ⟨c', rfl, Config.assign_changesOnly hassign⟩
  | error e => exact .inr ⟨e, rfl⟩

/-- Settings that come out of a check. -/
def givenSettings : Settings := { requirePolicy := false, encoding := "cp1252" }

/-- Assignments of which some are carried out and some refused. -/
def mixedSession : List Assignment :=
  [.field levelName (.str "loud"), .field levelName (.str " debug "), .field "_note" (.int 1),
   .field settingsName (.settings givenSettings),
   .field settingsName (.table [("jsx", .bool true), ("encoding", .str "LATIN-1")]),
   .setting "jsx" (.bool false), .field tableField .null, .field "other" .null]

/-- The configuration that they lead to. -/
def mixedConfig : Config :=
  { logLevel := "DEBUG", settings := { jsx := true, encoding := "latin-1" } }

/-- Settings with a stored encoding are what the check makes of their own values. -/
theorem Settings.isChecked_of_storedEncoding {s : Settings} (h : StoredEncoding s.encoding) :
    s.IsChecked :=
  ⟨[], s.table, ofTable_table h []⟩

/-- What is refused in between leaves nothing behind. -/
theorem assignments_keep_valid_mixedSession :
    Config.ofTable [] = .ok {} ∧ Config.TakesChecked [] ∧ (∀ a ∈ mixedSession, a.IsOrdinary) ∧
      mixedSession.foldl Draft.after (.ofConfig {}) = .ofConfig mixedConfig ∧
      ∃ c, mixedSession.foldl Draft.after (.ofConfig {}) = .ofConfig c ∧
        Text.upper c.logLevel = c.logLevel ∧ c.settings.encoding ≠ "" := by
  have hgiven : givenSettings.IsChecked :=
    Settings.isChecked_of_storedEncoding
      ⟨by decide +kernel, by decide +kernel, by decide⟩
  have hkeeps : ∀ a ∈ mixedSession, a.newTable? = none ∧
      ¬Assignment.recordStart <+: a.name.toList := by decide
  -- One step assigns an instance, and it is the checked one.
  have hvalues : ∀ a ∈ mixedSession, ∀ s, a.value = .settings s → s = givenSettings := by
    simp [mixedSession, Assignment.value, eq_comm]
  have hsteps : ∀ a ∈ mixedSession, a.IsOrdinary := fun a ha =>
    ⟨(hkeeps a ha).1, (hkeeps a ha).2, fun s hs => hvalues a ha s hs ▸ hgiven⟩
  have hstart : Config.ofTable [] = .ok {} := rfl
  have hchecked : Config.TakesChecked [] := Config.takesChecked_of_ne fun s hs => by cases hs
  have hend : mixedSession.foldl Config.after {} = mixedConfig := by decide +kernel
  obtain ⟨c, hc, -, -, hupper, hfilled, -, -⟩ :=
    assignments_keep_valid hstart hchecked mixedSession hsteps
  refine ⟨hstart, hchecked, hsteps, ?_, c, hc, hupper, hfilled⟩
  rw [Draft.foldl_after_ofConfig hsteps, hend]

/-- A table that replaces the fields is not checked: it takes the settings away and leaves a
    level that cannot be read.  Neither are settings that have been made without a check: they
    bring an encoding without a name along. -/
theorem assign_unchecked :
    (∃ entries d, (Draft.ofConfig {}).assigned (.field tableField (.table entries)) = (.ok (), d) ∧
      d.settings.isNone = true ∧ d.logLevel = some (.str "loud") ∧
      ∃ e, Log.readLevel "loud" = .error e) ∧
    ∃ c : Config, (Draft.ofConfig {}).assigned (.field settingsName (.settings { encoding := "" }))
        = (.ok (), .ofConfig c) ∧ c.settings.encoding = "" := by
  refine ⟨⟨[(levelName, .str "loud")], _, rfl, rfl, rfl, ⟨"loud"⟩, by decide +kernel⟩,
    { settings := { encoding := "" } }, ?_, rfl⟩
  rw [Draft.assigned_ofConfig rfl]
  rfl

end SymbolTags
