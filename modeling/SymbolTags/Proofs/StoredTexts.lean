import SymbolTags.Config.Session
import SymbolTags.Proofs.LowerCase
import SymbolTags.Proofs.StoredLevel

namespace SymbolTags

/-!
# Stored texts — what the texts of a checked configuration look like

A configuration stores the name of its level in upper case and the name of its encoding in lower
case, without white space around them:

* `Config.valid_of_ofTable` — so stored, both pass the check once more;
* `Config.Valid.ofTable_table` — which gives back the same configuration.

The name of a level is looked up without the information separators around it, and stored with
them.  `ofTable_stores_trimmed` tells when this makes a difference.
-/

/-! ### Names of levels -/

namespace Log

open Text

variable {s : String} {l : Level}

/-- Titles are not empty. -/
theorem levelTitles_ne_empty : ∀ title ∈ levelTitles, title.toList ≠ [] := by decide

/-- A name that can be read is more than blanks. -/
theorem trimBlank_ne_empty_of_readLevel (h : readLevel s = .ok l) : (trimBlank s).toList ≠ [] := by
  obtain ⟨-, -, title, -, -, htitle, hupper, -, -⟩ := exists_title_of_readLevel h
  intro hnil
  have hempty : title.toList = [] := by
    rw [hupper, upper, hnil]
    rfl
  exact levelTitles_ne_empty title (mem_levelTitles htitle) hempty

/-- Upper case of a name that can be read leaves the blanks around it. -/
theorem trimmed_upper_iff (h : readLevel s = .ok l) {p : Char → Bool}
    (hp : ∀ c, isBlank c = false → p c = false) :
    Trimmed p (upper s).toList ↔ Trimmed p s.toList := by
  have hne := trimBlank_ne_empty_of_readLevel h
  obtain ⟨before, after, title, -, -, htitle, -, hs, hupper⟩ := exists_title_of_readLevel h
  have hmem := mem_levelTitles htitle
  have htitlePlain : Trimmed p title.toList :=
    .of_forall fun c hc => hp c (levelTitles_plain title hmem c hc).2
  -- Blanks are what the level is trimmed of, so its inner word has none at its ends.
  have hword : Trimmed p (trimBlank s).toList := by
    rw [trimBlank, String.toList_ofList]
    exact (trimmed_trimBoth isBlank s.toList).mono hp
  rw [hupper, hs, trimmed_append_iff (levelTitles_ne_empty title hmem) htitlePlain,
    trimmed_append_iff hne hword]

/-- Between the blanks stands the title of a level. -/
theorem trimBlank_upper_mem_levelTitles (h : readLevel s = .ok l) :
    trimBlank (upper s) ∈ levelTitles := by
  obtain ⟨before, after, title, hbefore, hafter, htitle, -, -, hupper⟩ :=
    exists_title_of_readLevel h
  have hmem := mem_levelTitles htitle
  have htrim : trimBlank (upper s) = title := by
    rw [trimBlank, hupper,
      trimBoth_append hbefore (fun c hc => (levelTitles_plain title hmem c hc).2) hafter,
      String.ofList_toList]
  rwa [htrim]

/-- A name that can be read has one form in upper case. -/
theorem upper_upper_of_readLevel (h : readLevel s = .ok l) : upper (upper s) = upper s := by
  obtain ⟨before, after, title, hbefore, hafter, htitle, -, -, hupper⟩ :=
    exists_title_of_readLevel h
  have hfixed : ∀ c ∈ (upper s).toList, inRanges fixedRanges c.toNat = true := by
    intro c hc
    rw [hupper, List.mem_append, List.mem_append] at hc
    rcases hc with hc | hc | hc
    · exact fixed_of_isBlank (hbefore c hc)
    · exact (levelTitles_plain title (mem_levelTitles htitle) c hc).1
    · exact fixed_of_isBlank (hafter c hc)
  rw [upper, flatMap_upperChar_of_fixed hfixed, String.ofList_toList]

end Log

/-! ### Texts that pass a check -/

section

variable {d : Data} {t : String}

/-- A text is checked without the white space around it. -/
theorem checkText_eq_ok_iff {check : String → Except String String} :
    checkText check d = .ok t ↔ ∃ s, d = .str s ∧ check (Text.trimSpace s) = .ok t := by
  constructor
  · intro h
    unfold checkText at h
    split at h
    · rename_i s
      exact ⟨s, rfl, eq_ok_of_mapError h⟩
    · cases h
  · rintro ⟨s, rfl, h⟩
    -- A check that passes has no error to map.
    show (check (Text.trimSpace s)).mapError IssueKind.valueError = .ok t
    rw [h]
    rfl

/-- The check of levels stores the upper case of a name that can be read. -/
theorem checkLogLevel_eq_ok_iff : checkLogLevel d = .ok t ↔
    ∃ s, d = .str s ∧ (∃ l, Log.readLevel (Text.trimSpace s) = .ok l) ∧
      Text.upper (Text.trimSpace s) = t := by
  rw [checkLogLevel, checkText_eq_ok_iff]
  refine exists_congr fun s => and_congr_right fun _ => ?_
  cases Log.readLevel (Text.trimSpace s) with
  | ok l => simp
  | error e => simp

/-- The check of encodings stores the lower case of a text that is not empty. -/
theorem checkEncoding_eq_ok_iff : checkEncoding d = .ok t ↔
    ∃ s, d = .str s ∧ Text.trimSpace s ≠ "" ∧ Text.lower (Text.trimSpace s) = t := by
  rw [checkEncoding, checkText_eq_ok_iff]
  refine exists_congr fun s => and_congr_right fun _ => ?_
  by_cases hs : Text.trimSpace s = ""
  · simp [hs]
  · simp [hs]

end

/-- The name of a level as a configuration stores it. -/
structure StoredLevel (s : String) : Prop where
  trimmed : Text.trimSpace s = s
  upper : Text.upper s = s
  readable : ∃ l, Log.readLevel s = .ok l

/-- The name of an encoding as a configuration stores it. -/
structure StoredEncoding (s : String) : Prop where
  trimmed : Text.trimSpace s = s
  lower : Text.lower s = s
  filled : s ≠ ""

/-- **Levels.**  What the check of levels lets through is as levels are stored. -/
theorem storedLevel_of_checkLogLevel {d : Data} {t : String} (h : checkLogLevel d = .ok t) :
    StoredLevel t := by
  obtain ⟨s, -, ⟨l, hread⟩, rfl⟩ := checkLogLevel_eq_ok_iff.mp h
  refine ⟨?_, Log.upper_upper_of_readLevel hread, l, Log.readLevel_upper hread⟩
  -- upper case keeps what stands around the name, which has no white space any more
  have hspace : ∀ c, Text.isBlank c = false → Text.isSpace c = false :=
    fun c hc => (Bool.or_eq_false_iff.mp hc).1
  rw [Text.trimSpace_eq_self_iff, Log.trimmed_upper_iff hread hspace,
    ← Text.trimSpace_eq_self_iff]
  exact Text.trimSpace_trimSpace s

/-- What is stored as a level passes the check of levels and is stored as it is. -/
theorem StoredLevel.checkLogLevel_eq {s : String} (h : StoredLevel s) :
    checkLogLevel (.str s) = .ok s := by
  rw [checkLogLevel_eq_ok_iff]
  refine ⟨s, rfl, ?_, ?_⟩
  · rw [h.trimmed]
    exact h.readable
  · rw [h.trimmed, h.upper]

/-- **Encodings.**  What the check of encodings lets through is as encodings are stored. -/
theorem storedEncoding_of_checkEncoding {d : Data} {t : String} (h : checkEncoding d = .ok t) :
    StoredEncoding t := by
  obtain ⟨s, -, hfilled, rfl⟩ := checkEncoding_eq_ok_iff.mp h
  refine ⟨?_, Text.lower_lower _, fun hempty => hfilled ((Text.lower_eq_empty_iff _).mp hempty)⟩
  have hspaces : Text.spaceRanges ⊆ Text.blankRanges := List.subset_append_left _ _
  rw [Text.trimSpace_eq_self_iff]
  exact (Text.trimmed_lower_iff hspaces _).mpr
    (Text.trimSpace_eq_self_iff.mp (Text.trimSpace_trimSpace s))

/-- What is stored as an encoding passes the check of encodings and is stored as it is. -/
theorem StoredEncoding.checkEncoding_eq {s : String} (h : StoredEncoding s) :
    checkEncoding (.str s) = .ok s := by
  rw [checkEncoding_eq_ok_iff]
  refine ⟨s, rfl, ?_, ?_⟩
  · rw [h.trimmed]
    exact h.filled
  · rw [h.trimmed, h.lower]

/-! ### Configurations -/

section

variable {α : Type} {loc : List String} {table : Fields Data} {name : String} {default a : α}
  {check : Data → Except IssueKind α}

/-- A field that is not given has its default, another one passes its check. -/
theorem checkField_eq_ok_iff : checkField loc table name default check = .ok a ↔
    (Fields.get? table name = none ∧ default = a) ∨
      ∃ d, Fields.get? table name = some d ∧ check d = .ok a := by
  unfold checkField
  cases Fields.get? table name with
  | none => simp
  | some d => cases hcheck : check d <;> simp [hcheck, Except.mapError]

/-- A check that succeeds for a value gives that value. -/
theorem checkField_of_get? {d : Data} (hget : Fields.get? table name = some d)
    (hcheck : check d = .ok a) : checkField loc table name default check = .ok a :=
  checkField_eq_ok_iff.mpr (.inr ⟨d, hget, hcheck⟩)

end

/-- The check of the encoding is one of the checks of settings. -/
theorem Settings.checkField_encoding_of_ofTable {loc : List String} {table : Fields Data}
    {s : Settings} (h : ofTable loc table = .ok s) :
    checkField loc table "encoding" ({} : Settings).encoding checkEncoding = .ok s.encoding := by
  simp only [ofTable] at h
  split at h
  · rename_i hencoding
    rw [hencoding, ← Except.ok.inj h]
  · cases h

/-- The settings of a configuration are those of a table, or have been made already, or are the
    standard ones where nothing is given. -/
inductive Config.SettingsFrom (table : Fields Data) (s : Settings) : Prop where
  | standard (h : Fields.get? table settingsName = none ∨
      Fields.get? table settingsName = some .null) (hs : s = {})
  | entries {entries : Fields Data}
      (h : Fields.get? table settingsName = some (.table entries))
      (hs : Settings.ofTable [settingsName] entries = .ok s)
  | made (h : Fields.get? table settingsName = some (.settings s))

/-- A configuration is made of a level that passes its check and of such settings. -/
theorem Config.ofTable_eq_ok_iff {table : Fields Data} {c : Config} :
    ofTable table = .ok c ↔
      checkField [] table levelName ({} : Config).logLevel checkLogLevel = .ok c.logLevel ∧
        SettingsFrom table c.settings := by
  constructor
  · intro h
    simp only [ofTable] at h
    split at h
    · rename_i logLevel settings hlevel hsettings
      cases Except.ok.inj h
      refine ⟨hlevel, ?_⟩
      split at hsettings
      · rename_i hget
        exact .standard (.inl hget) (Except.ok.inj hsettings).symm
      · rename_i hget
        exact .standard (.inr hget) (Except.ok.inj hsettings).symm
      · -- settings are given, as a table to be checked or as they were made
        rename_i d _ hget
        unfold checkSettings at hsettings
        split at hsettings
        · exact .entries hget hsettings
        · cases Except.ok.inj hsettings
          exact .made hget
        · cases hsettings
    · cases h
  · rintro ⟨hlevel, hsettings⟩
    obtain ⟨logLevel, settings⟩ := c
    simp only [ofTable, hlevel]
    cases hsettings with
    | standard h hs =>
      obtain rfl : settings = {} := hs
      rcases h with h | h <;> rw [h]
    | entries h hs =>
      rw [h]
      simp only [checkSettings, hs]
    | made h =>
      rw [h]
      rfl

/-- Both texts of the configuration are as they are stored. -/
structure Config.Valid (c : Config) : Prop where
  logLevel : StoredLevel c.logLevel
  encoding : StoredEncoding c.settings.encoding

/-- The standard encoding is as encodings are stored. -/
theorem Settings.storedEncoding_standard : StoredEncoding ({} : Settings).encoding where
  trimmed := by decide +kernel
  lower := by decide +kernel
  filled := by decide

/-- The standard level is as levels are stored. -/
theorem Config.storedLevel_standard : StoredLevel ({} : Config).logLevel where
  trimmed := by decide +kernel
  upper := by decide +kernel
  readable := ⟨.warning, Log.readLevel_standard⟩

/-- The encoding of settings is the standard one or has passed its check. -/
theorem Settings.storedEncoding_of_ofTable {loc : List String} {table : Fields Data} {s : Settings}
    (h : ofTable loc table = .ok s) : StoredEncoding s.encoding := by
  rcases checkField_eq_ok_iff.mp (checkField_encoding_of_ofTable h) with ⟨-, heq⟩ | ⟨d, -, hcheck⟩
  · rw [← heq]
    exact storedEncoding_standard
  · exact storedEncoding_of_checkEncoding hcheck

/-- Settings that come out of the check of a table. -/
def Settings.IsChecked (s : Settings) : Prop :=
  ∃ loc table, ofTable loc table = .ok s

/-- So is that of settings that were checked when they were made. -/
theorem Settings.IsChecked.storedEncoding {s : Settings} (h : s.IsChecked) :
    StoredEncoding s.encoding := by
  obtain ⟨loc, table, hs⟩ := h
  exact storedEncoding_of_ofTable hs

/-- Where settings stand among the values of a table, they have been checked when they were made.
    Settings can also be made without any check, and nothing looks at them again. -/
def Config.TakesChecked (table : Fields Data) : Prop :=
  ∀ s, Fields.get? table settingsName = some (.settings s) → s.IsChecked

/-- Without settings among its values, a table takes none unchecked. -/
theorem Config.takesChecked_of_ne {table : Fields Data}
    (h : ∀ s, Fields.get? table settingsName ≠ some (.settings s)) : TakesChecked table :=
  fun s hs => absurd hs (h s)

/-- **Validity.**  The texts of a checked configuration are as they are stored. -/
theorem Config.valid_of_ofTable {table : Fields Data} {c : Config} (h : ofTable table = .ok c)
    (hchecked : TakesChecked table) : c.Valid := by
  obtain ⟨hlevel, hsettings⟩ := ofTable_eq_ok_iff.mp h
  constructor
  · rcases checkField_eq_ok_iff.mp hlevel with ⟨-, heq⟩ | ⟨d, -, hcheck⟩
    · rw [← heq]
      exact storedLevel_standard
    · exact storedLevel_of_checkLogLevel hcheck
  · cases hsettings with
    -- The table says nothing of the tagger, so the defaults stand.
    | standard h hs => exact hs ▸ Settings.storedEncoding_standard
    | entries h hs => exact Settings.storedEncoding_of_ofTable hs
    | made h => exact (hchecked _ h).storedEncoding

/-- Such settings are what their fields make. -/
theorem Settings.ofTable_table {s : Settings} (h : StoredEncoding s.encoding)
    (loc : List String) : ofTable loc s.table = .ok s := by
  simp [ofTable, table, checkField, Fields.get?, checkBool, h.checkEncoding_eq, Except.mapError]

/-- **Validity.**  A valid configuration is what its fields make. -/
theorem Config.Valid.ofTable_table {c : Config} (h : c.Valid) :
    ofTable (Draft.ofConfig c).table = .ok c := by
  have hlevel : Fields.get? (Draft.ofConfig c).table levelName = some (.str c.logLevel) := rfl
  have hsettings : Fields.get? (Draft.ofConfig c).table settingsName
      = some (.table c.settings.table) := rfl
  rw [ofTable_eq_ok_iff]
  exact ⟨checkField_of_get? hlevel h.logLevel.checkLogLevel_eq,
    .entries hsettings (Settings.ofTable_table h.encoding [settingsName])⟩

/-! ### Separators around a text -/

namespace Text

/-- An information separator. -/
def isSeparator (c : Char) : Bool :=
  inRanges [(0x1c, 0x1f)] c.toNat

/-- Blanks are white space and separators. -/
theorem trimmed_isBlank_iff {cs : List Char} :
    Trimmed isBlank cs ↔ Trimmed isSpace cs ∧ Trimmed isSeparator cs := by
  constructor
  · intro h
    exact ⟨h.mono fun c hc => (Bool.or_eq_false_iff.mp hc).1,
      h.mono fun c hc => (Bool.or_eq_false_iff.mp hc).2⟩
  · rintro ⟨hspace, hseparator⟩
    exact ⟨fun c hc => Bool.or_eq_false_iff.mpr ⟨hspace.head c hc, hseparator.head c hc⟩,
      fun c hc => Bool.or_eq_false_iff.mpr ⟨hspace.last c hc, hseparator.last c hc⟩⟩

/-- Without white space at the ends, only separators are left to be trimmed. -/
theorem trimBlank_eq_self_iff_of_trimSpace {s : String} (h : trimSpace s = s) :
    trimBlank s = s ↔ Trimmed isSeparator s.toList := by
  rw [trimBlank_eq_self_iff, trimmed_isBlank_iff]
  exact and_iff_right (trimSpace_eq_self_iff.mp h)

end Text

/-- Titles have no blanks to be trimmed. -/
theorem Log.trimBlank_of_mem_levelTitles {s : String} (h : s ∈ levelTitles) :
    Text.trimBlank s = s := by
  rw [Text.trimBlank_eq_self_iff]
  exact .of_forall fun c hc => (levelTitles_plain s h c hc).2

/-- A stored level is a title with blanks around it. -/
theorem StoredLevel.trimBlank_mem {s : String} (h : StoredLevel s) :
    Text.trimBlank s ∈ Log.levelTitles := by
  obtain ⟨l, hread⟩ := h.readable
  have hmem := Log.trimBlank_upper_mem_levelTitles hread
  rwa [h.upper] at hmem

/-- It is a title itself just if there are none. -/
theorem StoredLevel.mem_levelTitles_iff {s : String} (h : StoredLevel s) :
    s ∈ Log.levelTitles ↔ Text.trimBlank s = s := by
  constructor
  · exact Log.trimBlank_of_mem_levelTitles
  · intro htrim
    exact htrim ▸ h.trimBlank_mem

/-- The given text of a level is stored with the separators around it. -/
theorem separators_of_checkLogLevel {s t : String} (h : checkLogLevel (.str s) = .ok t) :
    Text.Trimmed Text.isSeparator t.toList ↔
      Text.Trimmed Text.isSeparator (Text.trimSpace s).toList := by
  obtain ⟨s', hs, ⟨l, hread⟩, rfl⟩ := checkLogLevel_eq_ok_iff.mp h
  cases hs
  exact Log.trimmed_upper_iff hread fun c hc => (Bool.or_eq_false_iff.mp hc).2

/-- The given text of an encoding is stored with the separators around it. -/
theorem separators_of_checkEncoding {s t : String} (h : checkEncoding (.str s) = .ok t) :
    Text.Trimmed Text.isSeparator t.toList ↔
      Text.Trimmed Text.isSeparator (Text.trimSpace s).toList := by
  obtain ⟨s', hs, -, rfl⟩ := checkEncoding_eq_ok_iff.mp h
  cases hs
  have hseparators : [(0x1c, 0x1f)] ⊆ Text.blankRanges := List.subset_append_right _ _
  exact Text.trimmed_lower_iff hseparators _

/-- **Trimmed texts.**  What a configuration stores has no white space at its ends, unless it is
    given settings that nothing has checked, and its level is the name of a level between
    information separators.  There are separators around a stored
    text exactly when the given one has them within its white space, and only then is the stored
    level no name of a level, or a stored text not yet trimmed of all blanks. -/
theorem ofTable_stores_trimmed {table : Fields Data} {c : Config}
    (h : Config.ofTable table = .ok c) (hchecked : Config.TakesChecked table) :
    (Text.trimSpace c.logLevel = c.logLevel ∧
      Text.trimSpace c.settings.encoding = c.settings.encoding) ∧
    Text.trimBlank c.logLevel ∈ Log.levelTitles ∧
    (c.logLevel ∈ Log.levelTitles ↔ Text.Trimmed Text.isSeparator c.logLevel.toList) ∧
    (Text.trimBlank c.logLevel = c.logLevel ↔ Text.Trimmed Text.isSeparator c.logLevel.toList) ∧
    (Text.trimBlank c.settings.encoding = c.settings.encoding ↔
      Text.Trimmed Text.isSeparator c.settings.encoding.toList) ∧
    (∀ s, Fields.get? table levelName = some (.str s) →
      (Text.Trimmed Text.isSeparator c.logLevel.toList ↔
        Text.Trimmed Text.isSeparator (Text.trimSpace s).toList)) ∧
    ∀ entries s, Fields.get? table settingsName = some (.table entries) →
      Fields.get? entries "encoding" = some (.str s) →
      (Text.Trimmed Text.isSeparator c.settings.encoding.toList ↔
        Text.Trimmed Text.isSeparator (Text.trimSpace s).toList) := by
  obtain ⟨hlevel, hencoding⟩ := Config.valid_of_ofTable h hchecked
  -- what is stored is settled by validity, what was given by the checks
  obtain ⟨hcheckLevel, hsettings⟩ := Config.ofTable_eq_ok_iff.mp h
  have hlevelIff := Text.trimBlank_eq_self_iff_of_trimSpace hlevel.trimmed
  refine ⟨⟨hlevel.trimmed, hencoding.trimmed⟩, hlevel.trimBlank_mem,
    hlevel.mem_levelTitles_iff.trans hlevelIff, hlevelIff,
    Text.trimBlank_eq_self_iff_of_trimSpace hencoding.trimmed, ?_, ?_⟩
  · intro s hs
    rcases checkField_eq_ok_iff.mp hcheckLevel with ⟨hnone, -⟩ | ⟨d, hd, hcheck⟩
    · cases hs.symm.trans hnone
    · cases hs.symm.trans hd
      exact separators_of_checkLogLevel hcheck
  · intro entries s hentries hs
    cases hsettings with
    | standard hstandard _ =>
      rcases hstandard with hnone | hnull
      · cases hentries.symm.trans hnone
      · cases hentries.symm.trans hnull
    | entries hgiven hof =>
      cases hentries.symm.trans hgiven
      rcases checkField_eq_ok_iff.mp (Settings.checkField_encoding_of_ofTable hof) with
        ⟨hnone, -⟩ | ⟨d, hd, hcheck⟩
      · cases hs.symm.trans hnone
      · cases hs.symm.trans hd
        exact separators_of_checkEncoding hcheck
    | made hgiven => cases hentries.symm.trans hgiven

/-- A separator within white space before the name of a level, and one before that of an
    encoding. -/
def separatedTable : Fields Data :=
  [(levelName, .str " \x1cinfo"), (settingsName, .table [("encoding", .str "\x1cUTF-8")])]

/-- What is stored of them. -/
def separatedConfig : Config :=
  { logLevel := "\x1cINFO", settings := { encoding := "\x1cutf-8" } }

/-- The checks take off white space only. -/
theorem ofTable_separatedTable : Config.ofTable separatedTable = .ok separatedConfig := by
  have hlevel : checkLogLevel (.str " \x1cinfo") = .ok "\x1cINFO" := by decide +kernel
  have hencoding : checkEncoding (.str "\x1cUTF-8") = .ok "\x1cutf-8" := by decide +kernel
  rw [Config.ofTable_eq_ok_iff]
  refine ⟨checkField_of_get? rfl hlevel, .entries rfl ?_⟩
  simp [Settings.ofTable, checkField, Fields.get?, hencoding, Except.mapError, separatedConfig]

/-- The separator stays in front of the level, and the title behind it is found. -/
theorem ofTable_stores_trimmed_separatedTable :
    Config.ofTable separatedTable = .ok separatedConfig ∧
      Config.TakesChecked separatedTable ∧
      ¬Text.Trimmed Text.isSeparator separatedConfig.logLevel.toList ∧
      Text.trimBlank separatedConfig.logLevel ∈ Log.levelTitles := by
  have hchecked : Config.TakesChecked separatedTable :=
    Config.takesChecked_of_ne fun s hs => by cases hs
  have hstored := ofTable_stores_trimmed ofTable_separatedTable hchecked
  refine ⟨ofTable_separatedTable, hchecked, ?_, hstored.2.1⟩
  rw [← hstored.2.2.1]
  decide

/-- The level of such a configuration is no name of a level, and both texts can still be
    trimmed. -/
theorem separatedTable_not_trimmed :
    ∃ c, Config.ofTable separatedTable = .ok c ∧ c.logLevel ∉ Log.levelTitles ∧
      Text.trimBlank c.logLevel ≠ c.logLevel ∧
      Text.trimBlank c.settings.encoding ≠ c.settings.encoding :=
  ⟨separatedConfig, ofTable_separatedTable, by decide, by decide +kernel, by decide +kernel⟩

end SymbolTags
