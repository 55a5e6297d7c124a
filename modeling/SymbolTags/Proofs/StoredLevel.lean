import SymbolTags.Config.Load
import SymbolTags.Proofs.LinePosition

namespace SymbolTags

/-!
# Stored levels — the level of a configuration can be read again

A configuration stores the name of its level in upper case, and logging reads that name once
more when it is set up.  The name may still have blanks around it, of a kind that the check of
the configuration leaves in place:

* `Text.upperChar_of_fixed` — blanks have no case;
* `Log.readLevel_upper` — so a name that can be read can be read in upper case;
* `exists_level_of_resolveConfig` — every effective configuration has a level.
-/

/-! ### Outcomes -/

/-- Steps in a row give a result only if each of them does. -/
theorem exists_of_bind_eq_ok {ε α β : Type} {x : Except ε α} {f : α → Except ε β} {b : β}
    (h : x >>= f = .ok b) : ∃ a, x = .ok a ∧ f a = .ok b := by
  cases x with
  | error e => cases h
  | ok a => exact ⟨a, rfl, h⟩

/-- Errors in other words are errors. -/
theorem eq_ok_of_mapError {ε ε' α : Type} {x : Except ε α} {f : ε → ε'} {a : α}
    (h : x.mapError f = .ok a) : x = .ok a := by
  cases x with
  | error e => cases h
  | ok a' => exact congrArg Except.ok (Except.ok.inj h)

/-! ### Trimming -/

namespace Text

variable {p : Char → Bool}

/-- Trimming takes characters away at the two ends. -/
theorem trimBoth_eq (p : Char → Bool) (cs : List Char) :
    ∃ before after, (∀ c ∈ before, p c = true) ∧ (∀ c ∈ after, p c = true) ∧
      cs = before ++ (trimBoth p cs ++ after) := by
  let body := cs.dropWhile p
  refine ⟨cs.takeWhile p, (body.reverse.takeWhile p).reverse, fun c hc => ?_, fun c hc => ?_, ?_⟩
  · exact List.mem_takeWhile_imp hc
  · exact List.mem_takeWhile_imp (List.mem_reverse.mp hc)
  · -- the end of a list is the start of its reverse
    have hbody : trimBoth p cs ++ (body.reverse.takeWhile p).reverse = body := by
      show (body.reverse.dropWhile p).reverse ++ (body.reverse.takeWhile p).reverse = body
      rw [← List.reverse_append, List.takeWhile_append_dropWhile, List.reverse_reverse]
    rw [hbody, List.takeWhile_append_dropWhile]

/-- A word without such characters is what trimming leaves. -/
theorem trimBoth_append {before word after : List Char} (hbefore : ∀ c ∈ before, p c = true)
    (hword : ∀ c ∈ word, p c = false) (hafter : ∀ c ∈ after, p c = true) :
    trimBoth p (before ++ (word ++ after)) = word := by
  have hend : dropEndWhile p after = [] := by
    rw [dropEndWhile, List.dropWhile_eq_nil_iff.mpr fun c hc => hafter c (List.mem_reverse.mp hc)]
    rfl
  -- The front goes at once; the end is trimmed off what is left.
  rw [trimBoth, List.dropWhile_append_of_pos hbefore]
  cases word with
  | nil =>
    rw [List.nil_append, List.dropWhile_eq_nil_iff.mpr hafter]
    rfl
  | cons c rest =>
    rw [List.cons_append, List.dropWhile_cons_of_neg (by simp [hword c]), ← List.cons_append,
      dropEndWhile_append fun c' hc' => hword c' (List.mem_of_getLast? hc'), hend,
      List.append_nil]

/-! ### Letter case -/

/-- Blanks and capital letters. -/
def fixedRanges : List (Nat × Nat) :=
  spaceRanges ++ [(0x1c, 0x1f), (0x41, 0x5a)]

/-- Blanks have no case, and capital letters are in upper case. -/
theorem upperChar_of_fixed {c : Char} (h : inRanges fixedRanges c.toNat = true) :
    upperChar c = [c] := by
  -- these are few characters, and the tables have an answer for each
  have hfixed : ∀ r ∈ fixedRanges, ∀ k < r.2 + 1 - r.1,
      mapCase upperSpecials upperRuns (r.1 + k) = [r.1 + k] := by decide +kernel
  obtain ⟨r, hr, hrange⟩ := List.any_eq_true.mp h
  have hrange : r.1 ≤ c.toNat ∧ c.toNat ≤ r.2 := by simpa using hrange
  have hc := hfixed r hr (c.toNat - r.1) (by omega)
  rw [Nat.add_sub_cancel' hrange.1] at hc
  rw [upperChar, hc, List.map_singleton, Char.ofNat_toNat]

theorem flatMap_upperChar_of_fixed {cs : List Char}
    (h : ∀ c ∈ cs, inRanges fixedRanges c.toNat = true) : cs.flatMap upperChar = cs := by
  induction cs with
  | nil => rfl
  | cons c rest ih =>
    rw [List.flatMap_cons, upperChar_of_fixed (h c List.mem_cons_self),
      ih fun c' hc' => h c' (List.mem_cons_of_mem c hc')]
    rfl

theorem fixed_of_isBlank {c : Char} (h : isBlank c = true) :
    inRanges fixedRanges c.toNat = true := by
  rw [isBlank, isSpace, Bool.or_eq_true] at h
  rw [inRanges, fixedRanges, List.any_append, Bool.or_eq_true]
  refine h.imp id fun h => ?_
  simp only [inRanges, List.any_cons, List.any_nil, Bool.or_false] at h
  simp [h]

end Text

/-! ### Names of levels -/

namespace Log

/-- All names of levels in upper case. -/
def levelTitles : List String :=
  ["FATAL", "WARN", "NOTSET", "DEBUG", "INFO", "WARNING", "ERROR", "CRITICAL"]

/-- Only these names stand for a level. -/
theorem mem_levelTitles {s : String} {l : Level} (h : Level.ofTitle? s = some l) :
    s ∈ levelTitles := by
  unfold Level.ofTitle? at h
  split_ifs at h with hfatal hwarn
  · simp [levelTitles, hfatal]
  · simp [levelTitles, hwarn]
  · have htitle : l.title = s := by simpa using List.find?_some h
    rw [← htitle]
    cases l <;> decide

/-- They hold capital letters and no blanks. -/
theorem levelTitles_plain : ∀ s ∈ levelTitles, ∀ c ∈ s.toList,
    Text.inRanges Text.fixedRanges c.toNat = true ∧ Text.isBlank c = false := by
  have hall : levelTitles.all (fun s => s.toList.all fun c =>
      Text.inRanges Text.fixedRanges c.toNat && !Text.isBlank c) = true := by rfl
  intro s hs c hc
  simpa using List.all_eq_true.mp (List.all_eq_true.mp hall s hs) c hc

/-- So a name among blanks is read as its level. -/
theorem readLevel_of_blanks {s title : String} {l : Level} {before after : List Char}
    (hbefore : ∀ c ∈ before, Text.isBlank c = true) (hafter : ∀ c ∈ after, Text.isBlank c = true)
    (hs : s.toList = before ++ (title.toList ++ after)) (h : Level.ofTitle? title = some l) :
    readLevel s = .ok l := by
  have hplain := levelTitles_plain title (mem_levelTitles h)
  have hupper : Text.upper title = title := by
    rw [Text.upper, Text.flatMap_upperChar_of_fixed fun c hc => (hplain c hc).1,
      String.ofList_toList]
  have htrim : Text.trimBlank s = title := by
    rw [Text.trimBlank, hs, Text.trimBoth_append hbefore (fun c hc => (hplain c hc).2) hafter,
      String.ofList_toList]
  unfold readLevel
  rw [htrim, hupper, h]

/-- Upper case leaves the blanks of a name where they are, and makes a title of the word between
    them. -/
theorem exists_title_of_readLevel {s : String} {l : Level} (h : readLevel s = .ok l) :
    ∃ before after title, (∀ c ∈ before, Text.isBlank c = true) ∧
      (∀ c ∈ after, Text.isBlank c = true) ∧ Level.ofTitle? title = some l ∧
      title = Text.upper (Text.trimBlank s) ∧
      s.toList = before ++ ((Text.trimBlank s).toList ++ after) ∧
      (Text.upper s).toList = before ++ (title.toList ++ after) := by
  have htitle : Level.ofTitle? (Text.upper (Text.trimBlank s)) = some l := by
    unfold readLevel at h
    split at h
    · rename_i l' hl'
      rw [hl', Except.ok.inj h]
    · cases h
  obtain ⟨before, after, hbefore, hafter, hs⟩ := Text.trimBoth_eq Text.isBlank s.toList
  refine ⟨before, after, _, hbefore, hafter, htitle, rfl, ?_, ?_⟩
  · rwa [Text.trimBlank, String.toList_ofList]
  · calc (Text.upper s).toList
        = s.toList.flatMap Text.upperChar := String.toList_ofList
      _ = (before ++ (Text.trimBoth Text.isBlank s.toList ++ after)).flatMap Text.upperChar :=
          congrArg (List.flatMap Text.upperChar) hs
      _ = before ++ ((Text.trimBoth Text.isBlank s.toList).flatMap Text.upperChar ++ after) := by
          rw [List.flatMap_append, List.flatMap_append,
            Text.flatMap_upperChar_of_fixed fun c hc => Text.fixed_of_isBlank (hbefore c hc),
            Text.flatMap_upperChar_of_fixed fun c hc => Text.fixed_of_isBlank (hafter c hc)]
      _ = before ++ ((Text.upper (Text.trimBlank s)).toList ++ after) := by
          simp [Text.upper, Text.trimBlank]

/-- **Names in upper case.**  A name that can be read stands for the same level in upper case. -/
theorem readLevel_upper {s : String} {l : Level} (h : readLevel s = .ok l) :
    readLevel (Text.upper s) = .ok l := by
  obtain ⟨before, after, title, hbefore, hafter, htitle, -, -, hupper⟩ :=
    exists_title_of_readLevel h
  exact readLevel_of_blanks hbefore hafter hupper htitle

/-- The level that a configuration has unless it says otherwise. -/
theorem readLevel_standard : readLevel ({} : Config).logLevel = .ok .warning :=
  readLevel_of_blanks (fun _ hc => absurd hc List.not_mem_nil)
    (fun _ hc => absurd hc List.not_mem_nil) (List.append_nil _).symm
    (Level.ofTitle?_title .warning)

end Log

/-! ### Configurations -/

/-- A level that passes the check is stored so that it can be read. -/
theorem exists_level_of_checkLogLevel {d : Data} {stored : String}
    (h : checkLogLevel d = .ok stored) : ∃ l, Log.readLevel stored = .ok l := by
  unfold checkLogLevel checkText at h
  split at h
  · have hcheck := eq_ok_of_mapError h
    dsimp only at hcheck
    split at hcheck
    · rename_i l hread
      rw [← Except.ok.inj hcheck]
      exact ⟨l, Log.readLevel_upper hread⟩
    · cases hcheck
  · cases h

theorem exists_level_of_ofTable {table : Fields Data} {config : Config}
    (h : Config.ofTable table = .ok config) : ∃ l, Log.readLevel config.logLevel = .ok l := by
  have hfield : checkField [] table levelName ({} : Config).logLevel checkLogLevel
      = .ok config.logLevel := by
    simp only [Config.ofTable] at h
    split at h
    · rename_i hlevel _
      rw [hlevel, ← Except.ok.inj h]
    · cases h
  unfold checkField at hfield
  split at hfield
  · rw [← Except.ok.inj hfield]
    exact ⟨.warning, Log.readLevel_standard⟩
  · exact exists_level_of_checkLogLevel (eq_ok_of_mapError hfield)

/-- **Levels.**  The level of every effective configuration can be read. -/
theorem exists_level_of_resolveConfig {fs : File.Files} {lookout : Lookout}
    {environment : Fields Data} {flags : Option (Fields Data)} {config : Config}
    (h : resolveConfig fs lookout environment flags = .ok config) :
    ∃ l, Log.readLevel config.logLevel = .ok l := by
  obtain ⟨user, -, h⟩ := exists_of_bind_eq_ok h
  obtain ⟨layer, -, h⟩ := exists_of_bind_eq_ok h
  exact exists_level_of_ofTable (eq_ok_of_mapError (eq_ok_of_mapError h))

end SymbolTags
