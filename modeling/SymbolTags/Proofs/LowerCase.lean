import SymbolTags.Proofs.TrimmedText
import SymbolTags.Text.Case

namespace SymbolTags.Text

/-!
# Lower case — writing a text in lower case once is enough

* `lower_lower` — a text in lower case is its own lower case form;
* `trimmed_lower_iff` — lower case neither makes blanks nor takes them away.

Both come down to the tables of letters.  A run maps the code points of one stretch to those of
another, so `CaseRun.misses` compares stretches, and not the single code points in them.
-/

/-! ### Runs of letters -/

namespace CaseRun

variable {r other : CaseRun} {n m : Nat}

/-- A run maps the code points that it steps on. -/
theorem map?_eq_some_iff : r.map? n = some m ↔
    (r.first ≤ n ∧ n ≤ r.last ∧ (n - r.first) % r.step = 0) ∧ r.target + (n - r.first) = m := by
  rw [map?, Option.ite_none_right_eq_some, Option.some.injEq]
  simp [and_assoc]

/-- A run that takes every second code point, or a single one. -/
def isSparse (r : CaseRun) : Bool :=
  r.step == 2 || r.first == r.last

/-- No code point that a run maps to is mapped by another run: the stretches lie apart, or each
    takes those code points that the other leaves out. -/
def misses (r other : CaseRun) : Bool :=
  Nat.blt (r.target + (r.last - r.first)) other.first || Nat.blt other.last r.target ||
    (r.isSparse && other.isSparse && (r.target + other.first) % 2 == 1)

/-- Those of a sparse run lie an even way from its start. -/
theorem even_of_isSparse (h : r.isSparse = true) (hmap : r.map? n = some m) :
    (n - r.first) % 2 = 0 := by
  obtain ⟨⟨hfirst, hlast, hstep⟩, -⟩ := map?_eq_some_iff.mp hmap
  rw [isSparse, Bool.or_eq_true, beq_iff_eq, beq_iff_eq] at h
  rcases h with htwo | hone
  · rwa [htwo] at hstep
  · omega

/-- What a run maps to is not mapped by a run that it misses. -/
theorem map?_eq_none_of_misses (hmap : r.map? n = some m) (h : r.misses other = true) :
    other.map? m = none := by
  rw [Option.eq_none_iff_forall_ne_some]
  intro k hk
  obtain ⟨⟨hfirst, hlast, -⟩, hm⟩ := map?_eq_some_iff.mp hmap
  obtain ⟨⟨hfirst', hlast', -⟩, -⟩ := map?_eq_some_iff.mp hk
  simp only [misses, Bool.or_eq_true, Bool.and_eq_true, Nat.blt_eq, beq_iff_eq] at h
  -- below it, above it, or on the code points that it leaves out
  rcases h with (hbelow | habove) | ⟨⟨hr, hother⟩, hodd⟩
  · omega
  · omega
  · have heven := even_of_isSparse hr hmap
    have heven' := even_of_isSparse hother hk
    omega

end CaseRun

/-! ### Lower case letters -/

/-- The code points of the lower case form of a code point. -/
abbrev lowerCodes (n : Nat) : List Nat := mapCase lowerSpecials lowerRuns n

variable {n m : Nat}

/-- A code point stays as it is, or a run maps it, or it is the one that becomes two. -/
theorem mem_lowerCodes (h : m ∈ lowerCodes n) :
    (lowerCodes n = [m] ∧ m = n) ∨ (∃ r ∈ lowerRuns, r.map? n = some m) ∨
      (n = 0x130 ∧ m ∈ [0x69, 0x307]) := by
  unfold lowerCodes mapCase at h ⊢
  split at h
  · rename_i k ns hfind
    have hmem := List.mem_of_find?_eq_some hfind
    have hk : k = n := by simpa using List.find?_some hfind
    simp only [lowerSpecials, List.mem_singleton, Prod.mk.injEq] at hmem
    exact .inr (.inr ⟨hk ▸ hmem.1, hmem.2 ▸ h⟩)
  · rw [List.mem_singleton] at h
    cases hrun : lowerRuns.findSome? fun r => r.map? n with
    | none =>
      rw [hrun, Option.getD_none] at h
      rw [h]
      exact .inl ⟨rfl, rfl⟩
    | some k =>
      rw [hrun, Option.getD_some] at h
      obtain ⟨r, hr, hmap⟩ := List.exists_of_findSome?_eq_some hrun
      exact .inr (.inl ⟨r, hr, h ▸ hmap⟩)

/-- No run maps to where another one, or the letter that becomes two, lies. -/
theorem lowerRuns_misses : ∀ r ∈ lowerRuns,
    (∀ other ∈ lowerRuns, r.misses other = true) ∧ r.misses ⟨0x130, 0x130, 1, 0⟩ = true := by
  -- two runs at a time, over the whole table
  have hall : lowerRuns.all (fun r => lowerRuns.all (fun other => r.misses other) &&
      r.misses ⟨0x130, 0x130, 1, 0⟩) = true := by decide +kernel
  intro r hr
  simpa using List.all_eq_true.mp hall r hr

/-- Lower case code points have no other lower case form. -/
theorem lowerCodes_of_mem (h : m ∈ lowerCodes n) : lowerCodes m = [m] := by
  rcases mem_lowerCodes h with ⟨hcodes, hm⟩ | ⟨r, hr, hmap⟩ | ⟨-, hm⟩
  · rw [← hcodes, hm]
  · obtain ⟨hruns, hspecial⟩ := lowerRuns_misses r hr
    have hne : m ≠ 0x130 := by
      rintro rfl
      have hnone := CaseRun.map?_eq_none_of_misses hmap hspecial
      exact absurd hnone (by decide)
    have hnone : (lowerRuns.findSome? fun r => r.map? m) = none :=
      List.findSome?_eq_none_iff.mpr fun other hother =>
        CaseRun.map?_eq_none_of_misses hmap (hruns other hother)
    unfold lowerCodes mapCase
    rw [List.find?_eq_none.mpr (by simp [lowerSpecials, hne.symm])]
    simp [hnone]
  · have htwo : ∀ m ∈ [0x69, 0x307], lowerCodes m = [m] := by decide +kernel
    exact htwo m hm

/-- They are code points of characters. -/
theorem isValidChar_of_mem_lowerCodes (h : m ∈ lowerCodes n) (hn : n.isValidChar) :
    m.isValidChar := by
  have hruns : ∀ r ∈ lowerRuns, r.target + (r.last - r.first) < 0xd800 ∨
      (0xdfff < r.target ∧ r.target + (r.last - r.first) < 0x110000) := by decide +kernel
  rcases mem_lowerCodes h with ⟨-, hm⟩ | ⟨r, hr, hmap⟩ | ⟨-, hm⟩
  · rwa [hm]
  · obtain ⟨⟨hfirst, hlast, -⟩, hm⟩ := CaseRun.map?_eq_some_iff.mp hmap
    have hstretch := hruns r hr
    unfold Nat.isValidChar
    omega
  · have htwo : ∀ m ∈ [0x69, 0x307], m.isValidChar := by decide
    exact htwo m hm

/-- The code points of blanks. -/
def blankRanges : List (Nat × Nat) :=
  spaceRanges ++ [(0x1c, 0x1f)]

/-- A stretch of blanks has no letters that a run maps from or to. -/
theorem mem_blankRange_iff {s : Nat × Nat} (hs : s ∈ blankRanges) (h : m ∈ lowerCodes n) :
    (s.1 ≤ m ∧ m ≤ s.2) ↔ (s.1 ≤ n ∧ n ≤ s.2) := by
  rcases mem_lowerCodes h with ⟨-, hm⟩ | ⟨r, hr, hmap⟩ | ⟨hn, hm⟩
  · rw [hm]
  · have hall : ∀ r ∈ lowerRuns, ∀ s ∈ blankRanges, r.misses ⟨s.1, s.2, 1, 0⟩ = true ∧
        (r.last < s.1 ∨ s.2 < r.first) := by decide +kernel
    obtain ⟨hmisses, hapart⟩ := hall r hr s hs
    obtain ⟨⟨hfirst, hlast, -⟩, -⟩ := CaseRun.map?_eq_some_iff.mp hmap
    have hnone := CaseRun.map?_eq_none_of_misses hmap hmisses
    have hm : ¬(s.1 ≤ m ∧ m ≤ s.2) := by
      intro hrange
      simp [CaseRun.map?, hrange.1, hrange.2, Nat.mod_one] at hnone
    exact iff_of_false hm (by omega)
  · have hall : ∀ s ∈ blankRanges, ∀ m ∈ [0x69, 0x307], ¬(s.1 ≤ m ∧ m ≤ s.2) ∧
        ¬(s.1 ≤ 0x130 ∧ 0x130 ≤ s.2) := by decide
    obtain ⟨hm', hn'⟩ := hall s hs m hm
    exact iff_of_false hm' (hn ▸ hn')

/-! ### Characters -/

section

variable {c d : Char}

/-- The lower case form of a character is that of its code point. -/
theorem toNat_mem_lowerCodes (h : d ∈ lowerChar c) : d.toNat ∈ lowerCodes c.toNat := by
  obtain ⟨m, hm, rfl⟩ := List.mem_map.mp h
  have hvalid : m.isValidChar := isValidChar_of_mem_lowerCodes hm c.valid
  rw [Char.ofNat, dif_pos hvalid]
  exact hm

/-- Lower case letters have no other lower case form. -/
theorem lowerChar_of_mem (h : d ∈ lowerChar c) : lowerChar d = [d] := by
  show (lowerCodes d.toNat).map Char.ofNat = [d]
  rw [lowerCodes_of_mem (toNat_mem_lowerCodes h), List.map_singleton, Char.ofNat_toNat]

/-- No letter is dropped. -/
theorem lowerChar_ne_nil (c : Char) : lowerChar c ≠ [] := by
  show (mapCase lowerSpecials lowerRuns c.toNat).map Char.ofNat ≠ []
  unfold mapCase
  split
  · rename_i k ns hfind
    have hmem := List.mem_of_find?_eq_some hfind
    simp only [lowerSpecials, List.mem_singleton, Prod.mk.injEq] at hmem
    simp [hmem.2]
  · simp

/-- A table of blanks holds a letter and its lower case form, or neither. -/
theorem inRanges_of_mem_lowerChar {table : List (Nat × Nat)} (htable : table ⊆ blankRanges)
    (h : d ∈ lowerChar c) : inRanges table d.toNat = inRanges table c.toNat := by
  have hcodes := toNat_mem_lowerCodes h
  rw [Bool.eq_iff_iff]
  simp only [inRanges, List.any_eq_true, Bool.and_eq_true, decide_eq_true_eq]
  constructor
  · rintro ⟨s, hs, hrange⟩
    exact ⟨s, hs, (mem_blankRange_iff (htable hs) hcodes).mp hrange⟩
  · rintro ⟨s, hs, hrange⟩
    exact ⟨s, hs, (mem_blankRange_iff (htable hs) hcodes).mpr hrange⟩

end

/-! ### Texts -/

/-- What a character becomes inside a text: its lower case form, or the final sigma. -/
theorem lowerAfter_cons (before : List Char) (c : Char) (rest : List Char) :
    ∃ piece, lowerAfter before (c :: rest) = piece ++ lowerAfter (c :: before) rest ∧
      (piece = lowerChar c ∨ c = capitalSigma ∧ piece = [finalSigma]) := by
  rw [lowerAfter]
  split
  · rename_i hsigma
    rw [Bool.and_eq_true, Bool.and_eq_true, beq_iff_eq] at hsigma
    exact ⟨_, rfl, .inr ⟨hsigma.1.1, rfl⟩⟩
  · exact ⟨_, rfl, .inl rfl⟩

/-- The final sigma is a lower case letter. -/
theorem lowerChar_finalSigma : lowerChar finalSigma = [finalSigma] := by decide +kernel

/-- What a text becomes is made of lower case letters. -/
theorem lowerChar_of_mem_lowerAfter {d : Char} {before cs : List Char}
    (h : d ∈ lowerAfter before cs) : lowerChar d = [d] := by
  induction cs generalizing before with
  | nil => exact absurd h List.not_mem_nil
  | cons c rest ih =>
    obtain ⟨piece, hpiece, hcases⟩ := lowerAfter_cons before c rest
    rw [hpiece, List.mem_append] at h
    rcases h with h | h
    · rcases hcases with rfl | ⟨-, rfl⟩
      · exact lowerChar_of_mem h
      · rw [List.mem_singleton.mp h]
        exact lowerChar_finalSigma
    · exact ih h

/-- Lower case letters stay, whatever stands around them. -/
theorem lowerAfter_eq_self {cs : List Char} (h : ∀ d ∈ cs, lowerChar d = [d])
    (before : List Char) : lowerAfter before cs = cs := by
  induction cs generalizing before with
  | nil => rfl
  | cons c rest ih =>
    have hc := h c List.mem_cons_self
    have hsigma : c ≠ capitalSigma := by
      rintro rfl
      exact absurd hc (by decide +kernel)
    rw [lowerAfter, beq_false_of_ne hsigma, Bool.false_and, Bool.false_and,
      if_neg Bool.false_ne_true, hc, ih fun d hd => h d (List.mem_cons_of_mem c hd)]
    rfl

/-- **Lower case.**  A text in lower case has no other lower case form. -/
theorem lower_lower (s : String) : lower (lower s) = lower s := by
  have hlow : lowerAfter [] (lower s).toList = (lower s).toList := by
    apply lowerAfter_eq_self
    intro d hd
    rw [lower, String.toList_ofList] at hd
    exact lowerChar_of_mem_lowerAfter hd
  rw [← String.toList_inj]
  show (String.ofList (lowerAfter [] (lower s).toList)).toList = (lower s).toList
  rw [hlow, String.ofList_toList]

/-- **Step by step** each letter becomes letters that are blank just if it is. -/
theorem respelled_lowerAfter {table : List (Nat × Nat)} (htable : table ⊆ blankRanges)
    (before cs : List Char) :
    Respelled (fun c => inRanges table c.toNat) cs (lowerAfter before cs) := by
  induction cs generalizing before with
  | nil => exact .nil
  | cons c rest ih =>
    obtain ⟨piece, hpiece, hcases⟩ := lowerAfter_cons before c rest
    rw [hpiece]
    rcases hcases with rfl | ⟨rfl, rfl⟩
    · exact .cons (lowerChar_ne_nil c) (fun d hd => inRanges_of_mem_lowerChar htable hd) (ih _)
    · refine .cons (List.cons_ne_nil _ _) (fun d hd => ?_) (ih _)
      -- the two sigmas lie in no table of blanks
      have hsigmas : ∀ s ∈ blankRanges, ∀ n ∈ [0x3a3, 0x3c2], ¬(s.1 ≤ n ∧ n ≤ s.2) := by decide
      have hnone : ∀ n ∈ [0x3a3, 0x3c2], inRanges table n = false := by
        intro n hn
        rw [inRanges, List.any_eq_false]
        intro s hs
        simpa using hsigmas s (htable hs) n hn
      rw [List.mem_singleton.mp hd]
      exact (hnone 0x3c2 (by decide)).trans (hnone 0x3a3 (by decide)).symm

/-- **Lower case and blanks.**  The blanks at the ends of a text stay where they are. -/
theorem trimmed_lower_iff {table : List (Nat × Nat)} (htable : table ⊆ blankRanges) (s : String) :
    Trimmed (fun c => inRanges table c.toNat) (lower s).toList ↔
      Trimmed (fun c => inRanges table c.toNat) s.toList := by
  rw [lower, String.toList_ofList]
  exact (respelled_lowerAfter htable [] s.toList).trimmed_iff

/-- A text is not emptied. -/
theorem lower_eq_empty_iff (s : String) : lower s = "" ↔ s = "" := by
  constructor
  · intro h
    cases hs : s.toList with
    | nil => exact String.toList_eq_nil_iff.mp hs
    | cons c rest =>
      obtain ⟨piece, hpiece, hcases⟩ := lowerAfter_cons [] c rest
      have hnil : lowerAfter [] (c :: rest) = [] := by
        rw [lower, hs] at h
        rw [← String.toList_ofList (l := lowerAfter [] (c :: rest)), h]
        rfl
      rw [hpiece, List.append_eq_nil_iff] at hnil
      rcases hcases with hcase | ⟨-, hcase⟩
      · exact absurd (hcase ▸ hnil.1) (lowerChar_ne_nil c)
      · exact absurd (hcase ▸ hnil.1) (List.cons_ne_nil _ _)
  · rintro rfl
    rfl

end SymbolTags.Text
