import Mathlib.Tactic.SplitIfs
import SymbolTags.Toml.Text

namespace SymbolTags

/-!
# Written texts — basic texts in TOML are read back

`Toml.writeText` writes every character as it is, with a letter or with four hexadecimal digits:

* `Text.hexNumber?_hexDigits` — hexadecimal digits stand for the number that they are written for;
* `Toml.basicBody_writeChar` — what a character is written as, is read as the character;
* `Toml.basicBody_writeText` — so a text is read up to its closing quote.

Nothing that is written is a control character, so a written text stays on its line.
-/

/-! ### Hexadecimal digits -/

namespace Toml

/-- Digits are read as their values. -/
theorem hexDigit?_digitChar : ∀ n < 16, hexDigit? (Nat.digitChar n) = some n := by decide

/-- Digits are filled up to their width. -/
theorem length_hexDigits (width n : Nat) : (Text.hexDigits width n).length = width := by
  induction width generalizing n with
  | zero => rfl
  | succ width ih => rw [Text.hexDigits, List.length_append, ih, List.length_singleton]

/-- Digits that follow others shift them, by induction on the number of digits. -/
theorem foldlM_hexDigits {width n : Nat} (acc : Nat) (h : n < Nat.pow 16 width) :
    (Text.hexDigits width n).foldlM (fun n c => (hexDigit? c).map (n * 16 + ·)) acc
      = some (acc * Nat.pow 16 width + n) := by
  induction width generalizing n with
  | zero =>
    have hn : n = 0 := Nat.lt_one_iff.mp h
    rw [hn]
    show some acc = some (acc * 1 + 0)
    rw [Nat.mul_one, Nat.add_zero]
  | succ width ih =>
    have hpow : Nat.pow 16 (width + 1) = Nat.pow 16 width * 16 := rfl
    -- All digits but the last are those of the quotient.
    have hdiv : n / 16 < Nat.pow 16 width := by
      rw [hpow] at h
      exact Nat.div_lt_of_lt_mul (by omega)
    have hlast : hexDigit? (Nat.digitChar (n % 16)) = some (n % 16) :=
      hexDigit?_digitChar _ (Nat.mod_lt _ (by decide))
    rw [Text.hexDigits, List.foldlM_append, ih hdiv]
    simp only [List.foldlM_cons, List.foldlM_nil, hlast, Option.map_some, Option.bind_eq_bind,
      Option.bind_some, Option.pure_def, Option.some.injEq]
    rw [hpow, Nat.add_mul, Nat.mul_assoc]
    omega

/-- A number that fits into a width is read from its digits. -/
theorem hexNumber?_hexDigits {width n : Nat} (h : n < Nat.pow 16 width) :
    hexNumber? (Text.hexDigits width n) = some n := by
  rw [hexNumber?, foldlM_hexDigits 0 h, Nat.zero_mul, Nat.zero_add]

/-- An escape with the digits of a code point is read as the character. -/
theorem hexEscape?_hexDigits {width : Nat} {c : Char} (h : c.toNat < Nat.pow 16 width)
    (rest : List Char) :
    hexEscape? width (Text.hexDigits width c.toNat ++ rest) = some (c, rest) := by
  have hlength := length_hexDigits width c.toNat
  have hscalar : scalar? c.toNat = some c := by
    have hvalid : c.toNat.isValidChar := c.valid
    rw [scalar?, if_pos hvalid, Char.ofNat_toNat]
  have henough : width ≤ (Text.hexDigits width c.toNat ++ rest).length := by
    rw [List.length_append, hlength]
    omega
  have hguard : guard (width ≤ (Text.hexDigits width c.toNat ++ rest).length) = some () :=
    if_pos henough
  rw [hexEscape?, hguard, List.take_left' hlength, List.drop_left' hlength,
    hexNumber?_hexDigits h]
  show (scalar? c.toNat).bind (fun c => some (c, rest)) = some (c, rest)
  rw [hscalar]
  rfl

/-! ### Characters -/

/-- What is written with a letter is read off this letter. -/
theorem escape?_simple : ∀ p ∈ simpleEscapes, ∀ rest, escape? (p.1 :: rest) = some (p.2, rest) := by
  intro p hp rest
  simp only [simpleEscapes, List.mem_cons, List.not_mem_nil, or_false] at hp
  rcases hp with rfl | rfl | rfl | rfl | rfl | rfl | rfl <;> rfl

/-- The three ways to write a character. -/
inductive WrittenAs (c : Char) : List Char → Prop where
  | letter {letter : Char} (h : (letter, c) ∈ simpleEscapes) : WrittenAs c ['\\', letter]
  | digits (h : isControl c = true) : WrittenAs c ('\\' :: 'u' :: Text.hexDigits 4 c.toNat)
  | plain (h : isControl c = false) (hquote : c ≠ '"') (hslash : c ≠ '\\') : WrittenAs c [c]

/-- Every character is written in one of these ways. -/
theorem writtenAs_writeChar (c : Char) : WrittenAs c (writeChar c) := by
  unfold writeChar
  split
  · rename_i letter x hfind
    have hx : x = c := by simpa using List.find?_some hfind
    exact .letter (hx ▸ List.mem_of_find?_eq_some hfind)
  · rename_i hfind
    have hother : ∀ p ∈ simpleEscapes, p.2 ≠ c := by simpa using hfind
    split_ifs with hcontrol
    · exact .digits hcontrol
    · exact .plain (Bool.eq_false_iff.mpr hcontrol) (hother ('"', '"') (by decide)).symm
        (hother ('\\', '\\') (by decide)).symm

/-- What a character is written as, is read as the character. -/
theorem basicBody_writeChar (c : Char) (tail : List Char) :
    basicBody (writeChar c ++ tail) = (basicBody tail).map fun p => (c :: p.1, p.2) := by
  have hcases := writtenAs_writeChar c
  generalize writeChar c = written at hcases
  -- a backslash is no quote
  have hslash : ('\\' : Char) ≠ '"' := by decide
  cases hcases with
  | @letter letter h =>
    have hescape := escape?_simple _ h tail
    rw [List.cons_append, List.cons_append, List.nil_append, basicBody, if_neg hslash, if_pos rfl]
    split
    · rename_i hnone
      cases hnone.symm.trans hescape
    · rename_i x rest hsome
      cases hsome.symm.trans hescape
      rfl
  | digits h =>
    have hsmall : c.toNat < Nat.pow 16 4 := by
      rw [isControl, Bool.or_eq_true, decide_eq_true_eq, beq_iff_eq] at h
      show c.toNat < 65536
      omega
    have hescape : escape? ('u' :: (Text.hexDigits 4 c.toNat ++ tail)) = some (c, tail) := by
      rw [escape?, if_pos rfl]
      exact hexEscape?_hexDigits hsmall tail
    rw [List.cons_append, List.cons_append, basicBody, if_neg hslash, if_pos rfl]
    split
    · rename_i hnone
      cases hnone.symm.trans hescape
    · rename_i x rest hsome
      cases hsome.symm.trans hescape
      rfl
  | plain h hquote hslash =>
    have hlegal : isIllegal c = false := by rw [isIllegal, h, Bool.false_and]
    rw [List.singleton_append, basicBody, if_neg hquote, if_neg hslash, hlegal,
      if_neg Bool.false_ne_true]

/-! ### Texts -/

/-- **Basic texts.**  What a text is written as, is read as the text. -/
theorem basicBody_writeText (cs rest : List Char) :
    basicBody (cs.flatMap writeChar ++ '"' :: rest) = some (cs, rest) := by
  induction cs with
  | nil =>
    rw [List.flatMap_nil, List.nil_append, basicBody, if_pos rfl]
  | cons c cs ih =>
    rw [List.flatMap_cons, List.append_assoc, basicBody_writeChar, ih]
    rfl

/-- Digits are no control characters. -/
theorem not_isControl_of_mem_hexDigits {width n : Nat} {c : Char}
    (h : c ∈ Text.hexDigits width n) : isControl c = false := by
  induction width generalizing n with
  | zero => exact absurd h List.not_mem_nil
  | succ width ih =>
    rw [Text.hexDigits, List.mem_append, List.mem_singleton] at h
    rcases h with h | rfl
    · exact ih h
    · have hdigits : ∀ k < 16, isControl (Nat.digitChar k) = false := by decide
      exact hdigits _ (Nat.mod_lt _ (by decide))

/-- Control characters are not written as they are. -/
theorem not_isControl_of_mem_writeChar {c d : Char} (h : d ∈ writeChar c) :
    isControl d = false := by
  have hcases := writtenAs_writeChar c
  generalize writeChar c = written at h hcases
  cases hcases with
  | @letter letter hletter =>
    -- The letters behind a backslash are printable.
    have hletters : ∀ p ∈ simpleEscapes, isControl p.1 = false := by decide
    rw [List.mem_cons, List.mem_singleton] at h
    rcases h with rfl | rfl
    · rfl
    · exact hletters _ hletter
  | digits hcontrol =>
    rw [List.mem_cons, List.mem_cons] at h
    rcases h with rfl | rfl | h
    · rfl
    · rfl
    · exact not_isControl_of_mem_hexDigits h
  | plain hplain _ _ =>
    rw [List.mem_singleton] at h
    rwa [h]

/-- What is written starts like no closing quote. -/
theorem head?_writeChar_ne (c : Char) (tail : List Char) :
    (writeChar c ++ tail).head? ≠ some '"' := by
  have hcases := writtenAs_writeChar c
  generalize writeChar c = written at hcases
  cases hcases with
  | letter _ => simp
  | digits _ => simp
  | plain _ hquote _ => simpa using hquote

/-- A text is written as its characters between quotes. -/
theorem toList_writeText (s : String) :
    (writeText s).toList = '"' :: (s.toList.flatMap writeChar ++ ['"']) :=
  String.toList_ofList

/-- What is written holds no control characters, so that it stays on its line. -/
theorem not_isControl_of_mem_writeText {s : String} {c : Char} (h : c ∈ (writeText s).toList) :
    isControl c = false := by
  rw [toList_writeText, List.mem_cons, List.mem_append, List.mem_singleton,
    List.mem_flatMap] at h
  rcases h with rfl | ⟨d, -, h⟩ | rfl
  · rfl
  · exact not_isControl_of_mem_writeChar h
  · rfl

end Toml

end SymbolTags
