import Mathlib.Data.List.Infix
import SymbolTags.Policy.ModuleStem
import SymbolTags.Proofs.LinePosition

namespace SymbolTags

/-!
# Specifiers — the name of a module is read back

The specifier of a module is put together from a directory, a name, an extension, and slashes
that may stand at the end.  Its stem is the name again:

* `lastComponent_append` — what stands behind a directory is the last component;
* `extension_unique` — a text ends in one extension at most, although all of them end in letters
  of one another; so it does not matter which is tried first;
* `dropExtension_append` and `dropExtension_eq_self` — an extension is taken off where something
  stands in front of it, and nothing is taken off otherwise;
* `moduleStem_reads_name`, which puts these together.
-/

/-! ### The last component -/

/-- A directory in front of a name: nothing at all, or a text that ends in a slash. -/
def IsDirectory (cs : List Char) : Prop :=
  ∀ c ∈ cs.getLast?, c = '/'

/-- What stands behind a directory and has no slash is the last component. -/
theorem lastComponent_append {directory base : List Char} (hdirectory : IsDirectory directory)
    (hbase : '/' ∉ base) : lastComponent (directory ++ base) = base := by
  have hname : ∀ c ∈ base.reverse, (c != '/') = true := by
    intro c hc
    rw [bne_iff_ne]
    rintro rfl
    exact hbase (List.mem_reverse.mp hc)
  have hstop : directory.reverse.takeWhile (· != '/') = [] := by
    rw [IsDirectory, ← List.head?_reverse] at hdirectory
    cases hd : directory.reverse with
    | nil => rfl
    | cons c cs =>
      rw [hd] at hdirectory
      rw [hdirectory c rfl]
      rfl
  rw [lastComponent, List.reverse_append, List.takeWhile_append_of_pos hname, hstop,
    List.append_nil, List.reverse_reverse]

theorem slash_notMem_lastComponent (cs : List Char) : '/' ∉ lastComponent cs := by
  rw [lastComponent, List.mem_reverse]
  intro h
  have := List.mem_takeWhile_imp h
  simp at this

/-! ### Extensions -/

/-- A text ends in one extension at most. -/
theorem extension_unique {e e' base : List Char} (he : e ∈ moduleExtensions)
    (he' : e' ∈ moduleExtensions) (h : e <:+ base) (h' : e' <:+ base) : e = e' := by
  have hpairs : ∀ e ∈ moduleExtensions, ∀ e' ∈ moduleExtensions, e <:+ e' → e = e' := by decide
  -- of two endings of one text the shorter one is an ending of the longer one
  rcases List.suffix_or_suffix_of_suffix h h' with hsuffix | hsuffix
  · exact hpairs e he e' he' hsuffix
  · exact (hpairs e' he' e he hsuffix).symm

/-- Something stands in front of an extension. -/
def HasExtension (base : List Char) : Prop :=
  ∃ stem e, stem ≠ [] ∧ e ∈ moduleExtensions ∧ base = stem ++ e

section

variable {tried : List (List Char)} (htried : ∀ e, e ∈ tried ↔ e ∈ moduleExtensions)

include htried

/-- An extension is taken off, whichever is tried first. -/
theorem dropExtension_append {stem e : List Char} (hstem : stem ≠ []) (he : e ∈ moduleExtensions) :
    dropExtension tried (stem ++ e) = stem := by
  unfold dropExtension
  split
  · rename_i e' hfound
    have hends := List.find?_some hfound
    rw [Bool.and_eq_true, List.isSuffixOf_iff_suffix] at hends
    have he' := (htried e').mp (List.mem_of_find?_eq_some hfound)
    rw [extension_unique he' he hends.1 (List.suffix_append stem e), List.length_append,
      Nat.add_sub_cancel, List.take_left]
  · rename_i hnone
    have hfails := List.find?_eq_none.mp hnone e ((htried e).mpr he)
    simp only [List.isSuffixOf_iff_suffix, List.suffix_append, List.length_append,
      Bool.and_eq_true, decide_eq_true_eq, true_and, Nat.lt_add_left_iff_pos,
      List.length_pos_iff, not_not] at hfails
    exact absurd hfails hstem

/-- Where nothing stands in front of an extension, nothing is taken off. -/
theorem dropExtension_eq_self {base : List Char} (h : ¬HasExtension base) :
    dropExtension tried base = base := by
  unfold dropExtension
  split
  · rename_i e hfound
    have hends := List.find?_some hfound
    rw [Bool.and_eq_true, List.isSuffixOf_iff_suffix, decide_eq_true_eq] at hends
    obtain ⟨⟨stem, rfl⟩, hlength⟩ := hends
    refine absurd ⟨stem, e, ?_, (htried e).mp (List.mem_of_find?_eq_some hfound), rfl⟩ h
    rintro rfl
    exact absurd hlength (Nat.lt_irrefl _)
  · rfl

end

/-- The order in which extensions are tried does not matter. -/
theorem dropExtension_perm {tried : List (List Char)} (h : tried.Perm moduleExtensions)
    (base : List Char) : dropExtension tried base = dropExtension moduleExtensions base := by
  by_cases hbase : HasExtension base
  · obtain ⟨stem, e, hstem, he, rfl⟩ := hbase
    rw [dropExtension_append (fun _ => h.mem_iff) hstem he,
      dropExtension_append (fun _ => Iff.rfl) hstem he]
  · rw [dropExtension_eq_self (fun _ => h.mem_iff) hbase,
      dropExtension_eq_self (fun _ => Iff.rfl) hbase]

theorem dropExtension_subset (tried : List (List Char)) (base : List Char) :
    dropExtension tried base ⊆ base := by
  unfold dropExtension
  split
  · exact List.take_subset _ _
  · exact List.Subset.refl _

/-! ### Stems -/

/-- The stem is taken from the name behind the directory, without the slashes at the end. -/
theorem stemChars_append {directory base : List Char} (hdirectory : IsDirectory directory)
    (hne : base ≠ []) (hbase : '/' ∉ base) (slashes : Nat) :
    stemChars (directory ++ base ++ List.replicate slashes '/')
      = dropExtension moduleExtensions base := by
  have hlast : ∀ c ∈ (directory ++ base).getLast?, (c == '/') = false := by
    intro c hc
    rw [List.getLast?_append, Option.or_of_isSome (by simpa using hne)] at hc
    rw [beq_eq_false_iff_ne]
    rintro rfl
    exact hbase (List.mem_of_getLast? hc)
  have hslashes : Text.dropEndWhile (· == '/') (List.replicate slashes '/') = [] := by
    rw [Text.dropEndWhile, List.reverse_replicate, List.reverse_eq_nil_iff,
      List.dropWhile_eq_nil_iff]
    intro c hc
    rw [List.eq_of_mem_replicate hc]
    rfl
  rw [stemChars, Text.dropEndWhile_append hlast, hslashes, List.append_nil,
    lastComponent_append hdirectory hbase]

/-- A text that is empty or ends in a slash is a directory. -/
theorem isDirectory_toList {directory : String}
    (h : directory = "" ∨ ∃ front, directory = front ++ "/") : IsDirectory directory.toList := by
  rcases h with rfl | ⟨front, rfl⟩
  · intro c hc
    cases hc
  · have hslash : "/".toList = ['/'] := rfl
    intro c hc
    rw [String.toList_append, hslash, List.getLast?_concat] at hc
    exact (Option.some.inj hc).symm

/-- **Stems read names back.**  Behind a directory, which is empty or ends in a slash, with one of
    the extensions and any number of slashes at the end, the stem of a specifier is its name; and
    so it is without an extension, unless the name itself is something with an extension.  No stem
    has a slash, and none depends on the order in which the extensions are tried. -/
theorem moduleStem_reads_name :
    (∀ directory name : String, (directory = "" ∨ ∃ front, directory = front ++ "/") →
      name ≠ "" → '/' ∉ name.toList → ∀ slashes : Nat,
        (∀ e ∈ [".js", ".mjs", ".cjs", ".json"],
          moduleStem (directory ++ name ++ e ++ String.ofList (List.replicate slashes '/'))
            = name) ∧
        ((∀ stem, stem ≠ "" → ∀ e ∈ [".js", ".mjs", ".cjs", ".json"], name ≠ stem ++ e) →
          moduleStem (directory ++ name ++ String.ofList (List.replicate slashes '/')) = name)) ∧
    ∀ specifier : String, '/' ∉ (moduleStem specifier).toList ∧
      ∀ tried : List (List Char), tried.Perm moduleExtensions →
        String.ofList (dropExtension tried
          (lastComponent (Text.dropEndWhile (· == '/') specifier.toList)))
          = moduleStem specifier := by
  have hextensions : moduleExtensions = [".js", ".mjs", ".cjs", ".json"].map String.toList := rfl
  refine ⟨fun directory name hdirectory hne hname slashes => ⟨fun e he => ?_, fun hbare => ?_⟩,
    fun specifier => ⟨?_, fun tried htried => ?_⟩⟩
  · have hnoSlash : ∀ e ∈ moduleExtensions, '/' ∉ e := by decide
    have hmem : e.toList ∈ moduleExtensions := hextensions ▸ List.mem_map_of_mem he
    have hchars : name.toList ≠ [] := by simpa using hne
    have hbase : '/' ∉ name.toList ++ e.toList := by
      rw [List.mem_append, not_or]
      exact ⟨hname, hnoSlash _ hmem⟩
    rw [moduleStem, String.toList_append, String.toList_append, String.toList_append,
      String.toList_ofList, List.append_assoc directory.toList,
      stemChars_append (isDirectory_toList hdirectory) (by simp [hchars]) hbase,
      dropExtension_append (fun _ => Iff.rfl) hchars hmem, String.ofList_toList]
  · have hbase : ¬HasExtension name.toList := by
      rintro ⟨stem, e, hstem, he, hsplit⟩
      rw [hextensions] at he
      obtain ⟨extension, hmem, rfl⟩ := List.mem_map.mp he
      refine hbare (String.ofList stem) (by simpa using hstem) extension hmem ?_
      rw [← String.toList_inj, hsplit, String.toList_append, String.toList_ofList]
    rw [moduleStem, String.toList_append, String.toList_append, String.toList_ofList,
      stemChars_append (isDirectory_toList hdirectory) (by simpa using hne) hname,
      dropExtension_eq_self (fun _ => Iff.rfl) hbase, String.ofList_toList]
  · rw [moduleStem, String.toList_ofList]
    exact fun h => slash_notMem_lastComponent _ (dropExtension_subset _ _ h)
  · rw [dropExtension_perm htried]
    rfl

/-- Only the last extension is taken off, and none from a name that is nothing else. -/
theorem moduleStem_reads_name_dottedNames :
    "./lib/" = "./lib" ++ "/" ∧ '/' ∉ "foo.js".toList ∧
    moduleStem "./lib/foo.js.mjs//" = "foo.js" ∧ moduleStem ".json" = ".json" ∧
    '/' ∉ (moduleStem "a/b.cjs/c").toList := by
  obtain ⟨hnames, hstems⟩ := moduleStem_reads_name
  have hslash : '/' ∉ "foo.js".toList := by decide
  have hdotted := hnames "./lib/" "foo.js" (.inr ⟨"./lib", rfl⟩) (by decide) hslash 2
  have hextension := hnames "" ".json" (.inl rfl) (by decide) (by decide) 0
  refine ⟨rfl, hslash, hdotted.1 ".mjs" (by decide), hextension.2 fun stem hstem e he heq => ?_,
    (hstems _).1⟩
  -- the one extension that `.json` ends in leaves nothing in front of it
  have honly : ∀ e ∈ [".js", ".mjs", ".cjs", ".json"],
      e.toList <:+ ".json".toList → e.length = 5 := by decide
  have hlength := honly e he ⟨stem.toList, by rw [heq, String.toList_append]⟩
  have hsplit := congrArg String.length heq
  rw [String.length_append, hlength] at hsplit
  have hnone : stem.length = 0 := by
    have : ".json".length = 5 := rfl
    omega
  exact hstem (String.length_eq_zero_iff.mp hnone)

end SymbolTags
