import Mathlib.Data.Option.Basic
import SymbolTags.Proofs.LinePosition
import SymbolTags.Text.Blank

namespace SymbolTags.Text

/-!
# Trimmed texts — texts without blanks at their ends

A text is trimmed when no character of a kind stands at one of its ends:

* `trimBoth_eq_self_iff` — trimming leaves exactly the trimmed texts as they are;
* `trimmed_append_iff` — between two other texts a trimmed word decides nothing;
* `Respelled.trimmed_iff` — it is enough that every character is replaced by characters of which
  all are of the kind or none is.
-/

/-! ### Ends of a text -/

/-- No character of a kind stands at an end of a text. -/
structure Trimmed (p : Char → Bool) (cs : List Char) : Prop where
  head : ∀ c ∈ cs.head?, p c = false
  last : ∀ c ∈ cs.getLast?, p c = false

section

variable {p : Char → Bool} {cs : List Char}

/-- A text without blanks at its ends has none of a narrower kind there. -/
theorem Trimmed.mono {q : Char → Bool} (h : Trimmed p cs) (hq : ∀ c, p c = false → q c = false) :
    Trimmed q cs where
  head := fun c hc => hq c (h.head c hc)
  last := fun c hc => hq c (h.last c hc)

/-- A text without anything to take off is trimmed. -/
theorem Trimmed.of_forall (h : ∀ c ∈ cs, p c = false) : Trimmed p cs where
  head := fun c hc => h c (List.mem_of_mem_head? hc)
  last := fun c hc => h c (List.mem_of_getLast? hc)

/-- What trimming leaves is trimmed. -/
theorem trimmed_trimBoth (p : Char → Bool) (cs : List Char) : Trimmed p (trimBoth p cs) := by
  let body := cs.dropWhile p
  have hbody : ∀ c ∈ body.head?, p c = false := by
    intro c hc
    have hnot := List.head?_dropWhile_not p cs
    rw [Option.mem_def.mp hc] at hnot
    exact hnot
  refine ⟨fun c hc => ?_, fun c hc => ?_⟩
  · -- what is left starts as the body does, of which it is the beginning
    have hstart : (body.reverse.dropWhile p).reverse <+: body := by
      rw [← List.reverse_suffix, List.reverse_reverse]
      exact List.dropWhile_suffix p
    obtain ⟨rest, hrest⟩ := hstart
    refine hbody c ?_
    rw [← hrest, List.head?_append, Option.mem_def]
    exact Option.or_eq_some_iff.mpr (.inl hc)
  · have hnot := List.head?_dropWhile_not p body.reverse
    have hlast : (body.reverse.dropWhile p).head? = some c := by
      rw [← List.getLast?_reverse]
      exact hc
    rw [hlast] at hnot
    exact hnot

/-- Nothing is taken off a trimmed text. -/
theorem Trimmed.trimBoth_eq (h : Trimmed p cs) : trimBoth p cs = cs := by
  cases cs with
  | nil => rfl
  | cons c rest =>
    have hhead : p c = false := h.head c rfl
    have hlast := dropEndWhile_append (b := []) h.last
    rw [List.append_nil] at hlast
    rw [trimBoth, List.dropWhile_cons_of_neg (by simp [hhead]), hlast]
    exact List.append_nil _

/-- **Trimming.**  The texts that it leaves as they are are those without such characters at
    their ends. -/
theorem trimBoth_eq_self_iff : trimBoth p cs = cs ↔ Trimmed p cs :=
  ⟨fun h => h ▸ trimmed_trimBoth p cs, Trimmed.trimBoth_eq⟩

/-- A word that is trimmed itself leaves it to what stands around it. -/
theorem trimmed_append_iff {before word after : List Char} (hne : word ≠ [])
    (hword : Trimmed p word) :
    Trimmed p (before ++ (word ++ after)) ↔
      (∀ c ∈ before.head?, p c = false) ∧ ∀ c ∈ after.getLast?, p c = false := by
  have hhead : (before ++ (word ++ after)).head? = before.head?.or word.head? := by
    rw [List.head?_append, List.head?_append, List.head?_eq_some_head hne, Option.some_or]
  have hlast : (before ++ (word ++ after)).getLast? = after.getLast?.or word.getLast? := by
    rw [List.getLast?_append, List.getLast?_append, List.getLast?_eq_some_getLast hne,
      Option.or_assoc, Option.some_or]
  -- Where there is nothing outside the word, its own end decides, and it is clean.
  have hends : ∀ {o o' : Option Char}, (∀ c ∈ o', p c = false) →
      ((∀ c ∈ o.or o', p c = false) ↔ ∀ c ∈ o, p c = false) := by
    intro o o' ho'
    cases o with
    | none => exact ⟨fun _ _ hc => (nomatch hc), fun _ => ho'⟩
    | some c => exact Iff.rfl
  constructor
  · intro h
    exact ⟨(hends hword.head).mp (hhead ▸ h.head), (hends hword.last).mp (hlast ▸ h.last)⟩
  · intro h
    exact ⟨hhead ▸ (hends hword.head).mpr h.1, hlast ▸ (hends hword.last).mpr h.2⟩

end

/-- Texts that keep their white space are those that have none at their ends. -/
theorem trimSpace_eq_self_iff {s : String} : trimSpace s = s ↔ Trimmed isSpace s.toList := by
  rw [← trimBoth_eq_self_iff, trimSpace, ← String.toList_inj, String.toList_ofList]

/-- Texts that keep their blanks are those that have none at their ends. -/
theorem trimBlank_eq_self_iff {s : String} : trimBlank s = s ↔ Trimmed isBlank s.toList := by
  rw [← trimBoth_eq_self_iff, trimBlank, ← String.toList_inj, String.toList_ofList]

/-- White space is taken off once. -/
theorem trimSpace_trimSpace (s : String) : trimSpace (trimSpace s) = trimSpace s := by
  rw [trimSpace_eq_self_iff, trimSpace, String.toList_ofList]
  exact trimmed_trimBoth isSpace s.toList

/-! ### Texts written anew -/

/-- Every character becomes one or several characters that are of the kind if it is. -/
inductive Respelled (p : Char → Bool) : List Char → List Char → Prop where
  | nil : Respelled p [] []
  | cons {c : Char} {piece cs ds : List Char} (hne : piece ≠ []) (hp : ∀ d ∈ piece, p d = p c)
      (rest : Respelled p cs ds) : Respelled p (c :: cs) (piece ++ ds)

namespace Respelled

variable {p : Char → Bool} {cs ds : List Char}

/-- The first characters are of the same kind. -/
theorem head (h : Respelled p cs ds) : ds.head?.map p = cs.head?.map p := by
  cases h with
  | nil => rfl
  | @cons c piece cs ds hne hp rest =>
    cases piece with
    | nil => exact absurd rfl hne
    | cons d piece => exact congrArg some (hp d List.mem_cons_self)

/-- So are the last ones. -/
theorem last (h : Respelled p cs ds) : ds.getLast?.map p = cs.getLast?.map p := by
  induction h with
  | nil => rfl
  | @cons c piece cs ds hne hp rest ih =>
    rw [List.getLast?_append, List.getLast?_cons]
    cases hcs : cs.getLast? with
    | some c' =>
      obtain ⟨d, hd, hpd⟩ : ∃ d, ds.getLast? = some d ∧ p d = p c' := by
        rw [hcs] at ih
        exact Option.map_eq_some_iff.mp ih
      simp [hd, hpd]
    | none =>
      have hds : ds.getLast? = none := by
        rw [hcs] at ih
        exact Option.map_eq_none_iff.mp ih
      simp [hds, List.getLast?_eq_some_getLast hne, hp _ (List.getLast_mem hne)]

/-- The characters at the ends are of the kind in both texts or in none. -/
theorem trimmed_iff (h : Respelled p cs ds) : Trimmed p ds ↔ Trimmed p cs := by
  have hends : ∀ {o o' : Option Char}, o.map p = o'.map p →
      ((∀ c ∈ o, p c = false) ↔ ∀ c ∈ o', p c = false) := by
    intro o o' ho
    cases o <;> cases o' <;> simp_all
  exact ⟨fun ht => ⟨(hends h.head).mp ht.head, (hends h.last).mp ht.last⟩,
    fun ht => ⟨(hends h.head).mpr ht.head, (hends h.last).mpr ht.last⟩⟩

end Respelled

end SymbolTags.Text
