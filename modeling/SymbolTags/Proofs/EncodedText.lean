import Mathlib.Tactic.SplitIfs
import SymbolTags.Encoding.Utf8

namespace SymbolTags.Encoding

/-!
# Encoded texts — UTF-8 read back

The bytes of a text are those of its characters in a row:

* `decodeUtf8From_append` — the bytes of a character are read as this character, by the number of
  bytes that it takes;
* `decodeUtf8_toUTF8` — so the bytes of a text are read as the text.
-/

/-! ### Bytes of a text -/

/-- The loop that lists bytes hands on what it has and then those from its index on. -/
theorem toList_loop_eq (bytes : ByteArray) (i : Nat) (acc : List UInt8) :
    ByteArray.toList.loop bytes i acc = acc.reverse ++ bytes.data.toList.drop i := by
  fun_induction ByteArray.toList.loop bytes i acc with
  | case1 i acc h ih =>
    have hi : i < bytes.data.toList.length := by simpa using h
    rw [ih, List.drop_eq_getElem_cons hi]
    simp [ByteArray.get!, h]
  | case2 i acc h =>
    rw [List.drop_eq_nil_of_le (by simpa using Nat.le_of_not_lt h), List.append_nil]

/-- The bytes of a text are those of its characters in a row. -/
theorem toList_toUTF8 (s : String) :
    s.toUTF8.toList = s.toList.flatMap String.utf8EncodeChar := by
  -- a text is kept as its bytes, so that its characters have to be put in first
  have hbytes : s.toByteArray = (s.toList.flatMap String.utf8EncodeChar).toByteArray := by
    have hlist : (String.ofList s.toList).toByteArray = s.toList.utf8Encode :=
      String.toByteArray_ofList
    rwa [String.ofList_toList] at hlist
  rw [String.toUTF8_eq_toByteArray, hbytes, ByteArray.toList, toList_loop_eq,
    List.toList_data_toByteArray]
  rfl

/-! ### Bytes of a character -/

/-- The byte that continues a sequence with six further bits. -/
def continuation (n : Nat) : UInt8 :=
  UInt8.ofNat (n % 64 + 128)

/-- It carries the bits above the mark of a continuation. -/
theorem toNat_continuation (n : Nat) : (continuation n).toNat = n % 64 + 128 := by
  rw [continuation, UInt8.toNat_ofNat']
  omega

/-- It is told as a continuation. -/
theorem isContinuation_continuation (n : Nat) : isContinuation (continuation n) = true := by
  have hn := toNat_continuation n
  simp only [isContinuation, Bool.and_eq_true, decide_eq_true_eq, UInt8.le_iff_toNat_le, hn]
  refine ⟨?_, ?_⟩
  · show 128 ≤ n % 64 + 128
    omega
  · show n % 64 + 128 ≤ 191
    omega

/-- A continuation is a second byte unless the lead byte asks for more: no overlong form, no
    surrogate and nothing beyond the last code point. -/
theorem isSecond_continuation {lead : UInt8} {n : Nat} (hthree : lead.toNat = 224 → 32 ≤ n % 64)
    (hsurrogate : lead.toNat = 237 → n % 64 < 32) (hfour : lead.toNat = 240 → 16 ≤ n % 64)
    (hbeyond : lead.toNat = 244 → n % 64 < 16) : isSecond lead (continuation n) = true := by
  have hn := toNat_continuation n
  rw [isSecond, isContinuation_continuation, Bool.true_and]
  -- each of the four lead bytes that bound the second one asks for its own hypothesis
  split_ifs with hlead hlead hlead hlead
  · have hlow := hthree (congrArg UInt8.toNat hlead)
    simp only [decide_eq_true_eq, UInt8.le_iff_toNat_le, hn]
    show 160 ≤ n % 64 + 128
    omega
  · have hhigh := hsurrogate (congrArg UInt8.toNat hlead)
    simp only [decide_eq_true_eq, UInt8.le_iff_toNat_le, hn]
    show n % 64 + 128 ≤ 159
    omega
  · have hlow := hfour (congrArg UInt8.toNat hlead)
    simp only [decide_eq_true_eq, UInt8.le_iff_toNat_le, hn]
    show 144 ≤ n % 64 + 128
    omega
  · have hhigh := hbeyond (congrArg UInt8.toNat hlead)
    simp only [decide_eq_true_eq, UInt8.le_iff_toNat_le, hn]
    show n % 64 + 128 ≤ 143
    omega
  · rfl

/-! ### Sequences by their length -/

section

variable {a b c d : UInt8} {rest : List UInt8} {cs : List Char}

/-- A byte below `0x80` is a character of its own. -/
theorem decodeUtf8From_one (ha : a.toNat < 0x80)
    (hrest : ∀ position, decodeUtf8From position rest = .ok cs) (position : Nat) :
    decodeUtf8From position (a :: rest) = .ok (Char.ofNat a.toNat :: cs) := by
  have hlow : a < 0x80 := UInt8.lt_iff_toNat_lt.mpr ha
  unfold decodeUtf8From
  rw [if_pos hlow, hrest]
  rfl

/-- Lead bytes of longer sequences pass the first two checks. -/
theorem lead_of_toNat (ha : 0xc2 ≤ a.toNat) (ha' : a.toNat ≤ 0xf4) :
    ¬a < 0x80 ∧ ¬(decide (a < 0xc2) || decide (0xf4 < a)) = true := by
  constructor
  · intro hlow
    have hlow : a.toNat < 0x80 := UInt8.lt_iff_toNat_lt.mp hlow
    omega
  · rw [Bool.or_eq_true, decide_eq_true_eq, decide_eq_true_eq]
    rintro (hlow | hhigh)
    · have hlow : a.toNat < 0xc2 := UInt8.lt_iff_toNat_lt.mp hlow
      omega
    · have hhigh : 0xf4 < a.toNat := UInt8.lt_iff_toNat_lt.mp hhigh
      omega

/-- A lead byte below `0xe0` takes one further byte. -/
theorem decodeUtf8From_two (ha : 0xc2 ≤ a.toNat) (ha' : a.toNat < 0xe0)
    (hb : isSecond a b = true) (hrest : ∀ position, decodeUtf8From position rest = .ok cs)
    (position : Nat) :
    decodeUtf8From position (a :: b :: rest) = .ok (charOfBytes (a.toNat % 32) [b] :: cs) := by
  obtain ⟨hlow, hlead⟩ := lead_of_toNat ha (by omega)
  have htwo : a < 0xe0 := UInt8.lt_iff_toNat_lt.mpr ha'
  unfold decodeUtf8From
  rw [if_neg hlow, if_neg hlead]
  simp only [hb, Bool.not_true, Bool.false_eq_true, if_false, htwo, if_true, hrest]
  rfl

/-- One below `0xf0` takes two, of which the first may be bounded by it. -/
theorem decodeUtf8From_three (ha : 0xe0 ≤ a.toNat) (ha' : a.toNat < 0xf0)
    (hb : isSecond a b = true) (hc : isContinuation c = true)
    (hrest : ∀ position, decodeUtf8From position rest = .ok cs) (position : Nat) :
    decodeUtf8From position (a :: b :: c :: rest)
      = .ok (charOfBytes (a.toNat % 16) [b, c] :: cs) := by
  obtain ⟨hlow, hlead⟩ := lead_of_toNat (a := a) (by omega) (by omega)
  have htwo : ¬a < 0xe0 := fun h => Nat.not_lt.mpr ha (UInt8.lt_iff_toNat_lt.mp h)
  have hthree : a < 0xf0 := UInt8.lt_iff_toNat_lt.mpr ha'
  unfold decodeUtf8From
  rw [if_neg hlow, if_neg hlead]
  simp only [hb, hc, Bool.not_true, Bool.false_eq_true, if_false, htwo, hthree, if_true, hrest]
  rfl

/-- One up to `0xf4` takes three. -/
theorem decodeUtf8From_four (ha : 0xf0 ≤ a.toNat) (ha' : a.toNat ≤ 0xf4)
    (hb : isSecond a b = true) (hc : isContinuation c = true) (hd : isContinuation d = true)
    (hrest : ∀ position, decodeUtf8From position rest = .ok cs) (position : Nat) :
    decodeUtf8From position (a :: b :: c :: d :: rest)
      = .ok (charOfBytes (a.toNat % 8) [b, c, d] :: cs) := by
  obtain ⟨hlow, hlead⟩ := lead_of_toNat (a := a) (by omega) ha'
  have htwo : ¬a < 0xe0 := fun h =>
    Nat.not_lt.mpr (Nat.le_trans (by decide) ha) (UInt8.lt_iff_toNat_lt.mp h)
  have hthree : ¬a < 0xf0 := fun h => Nat.not_lt.mpr ha (UInt8.lt_iff_toNat_lt.mp h)
  unfold decodeUtf8From
  rw [if_neg hlow, if_neg hlead]
  simp only [hb, hc, hd, Bool.not_true, Bool.false_eq_true, if_false, htwo, hthree, hrest]
  rfl

end

/-! ### Characters by the size of their code point -/

section

variable {c : Char} {n : Nat} {rest : List UInt8} {cs : List Char}

/-- Bits that make up the code point of a character give this character. -/
theorem charOfBytes_eq {high : Nat} {tail : List UInt8}
    (h : tail.foldl (fun n b => n * 64 + b.toNat % 64) high = c.toNat) :
    charOfBytes high tail = c := by
  rw [charOfBytes, h, Char.ofNat_toNat]

/-- Characters up to `0x7f` take one byte. -/
theorem decodeUtf8From_below80 (hn : c.toNat = n) (hhigh : n ≤ 0x7f)
    (hrest : ∀ position, decodeUtf8From position rest = .ok cs) (position : Nat) :
    decodeUtf8From position (UInt8.ofNat n :: rest) = .ok (c :: cs) := by
  have ha : (UInt8.ofNat n).toNat = n := by
    rw [UInt8.toNat_ofNat']
    omega
  rw [decodeUtf8From_one (by omega) hrest, ha, ← hn, Char.ofNat_toNat]

/-- Those up to `0x7ff` take two; the lead byte is no overlong one, since some bit is above the six
    of the continuation. -/
theorem decodeUtf8From_below800 (hn : c.toNat = n) (hlow : 0x7f < n) (hhigh : n ≤ 0x7ff)
    (hrest : ∀ position, decodeUtf8From position rest = .ok cs) (position : Nat) :
    decodeUtf8From position (UInt8.ofNat (n / 64 % 32 + 192) :: continuation n :: rest)
      = .ok (c :: cs) := by
  have ha : (UInt8.ofNat (n / 64 % 32 + 192)).toNat = n / 64 % 32 + 192 := by
    rw [UInt8.toNat_ofNat']
    omega
  have hsecond : isSecond (UInt8.ofNat (n / 64 % 32 + 192)) (continuation n) = true := by
    apply isSecond_continuation <;> omega
  rw [decodeUtf8From_two (by omega) (by omega) hsecond hrest, charOfBytes_eq]
  simp only [List.foldl_cons, List.foldl_nil, ha, toNat_continuation, hn]
  omega

/-- Surrogates are no characters, so the second byte is not too great. -/
theorem decodeUtf8From_below10000 (hn : c.toNat = n) (hlow : 0x7ff < n) (hhigh : n ≤ 0xffff)
    (hvalid : n < 0xd800 ∨ 0xdfff < n)
    (hrest : ∀ position, decodeUtf8From position rest = .ok cs) (position : Nat) :
    decodeUtf8From position (UInt8.ofNat (n / 4096 % 16 + 224) :: continuation (n / 64) ::
      continuation n :: rest) = .ok (c :: cs) := by
  have ha : (UInt8.ofNat (n / 4096 % 16 + 224)).toNat = n / 4096 % 16 + 224 := by
    rw [UInt8.toNat_ofNat']
    omega
  have hsecond : isSecond (UInt8.ofNat (n / 4096 % 16 + 224)) (continuation (n / 64)) = true := by
    apply isSecond_continuation <;> omega
  rw [decodeUtf8From_three (by omega) (by omega) hsecond (isContinuation_continuation n) hrest,
    charOfBytes_eq]
  simp only [List.foldl_cons, List.foldl_nil, ha, toNat_continuation, hn]
  omega

/-- All others take four; the lead byte bounds the second one at both ends. -/
theorem decodeUtf8From_above10000 (hn : c.toNat = n) (hlow : 0xffff < n) (hhigh : n < 0x110000)
    (hrest : ∀ position, decodeUtf8From position rest = .ok cs) (position : Nat) :
    decodeUtf8From position (UInt8.ofNat (n / 262144 % 8 + 240) :: continuation (n / 4096) ::
      continuation (n / 64) :: continuation n :: rest) = .ok (c :: cs) := by
  have ha : (UInt8.ofNat (n / 262144 % 8 + 240)).toNat = n / 262144 % 8 + 240 := by
    rw [UInt8.toNat_ofNat']
    omega
  have hsecond :
      isSecond (UInt8.ofNat (n / 262144 % 8 + 240)) (continuation (n / 4096)) = true := by
    apply isSecond_continuation <;> omega
  rw [decodeUtf8From_four (by omega) (by omega) hsecond (isContinuation_continuation _)
    (isContinuation_continuation n) hrest, charOfBytes_eq]
  simp only [List.foldl_cons, List.foldl_nil, ha, toNat_continuation, hn]
  omega

end

/-! ### Reading back -/

/-- The bytes of a character are read as this character, whatever follows. -/
theorem decodeUtf8From_append (c : Char) {rest : List UInt8} {cs : List Char}
    (hrest : ∀ position, decodeUtf8From position rest = .ok cs) (position : Nat) :
    decodeUtf8From position (String.utf8EncodeChar c ++ rest) = .ok (c :: cs) := by
  have hvalid : c.toNat < 0xd800 ∨ (0xdfff < c.toNat ∧ c.toNat < 0x110000) := c.valid
  rw [String.utf8EncodeChar]
  -- the code point decides how many bytes there are
  generalize hn : c.val.toNat = n
  have hc : c.toNat = n := hn
  rw [hc] at hvalid
  split_ifs with hone htwo hthree
  · exact decodeUtf8From_below80 hc hone hrest position
  · exact decodeUtf8From_below800 hc (by omega) htwo hrest position
  · exact decodeUtf8From_below10000 hc (by omega) hthree (by omega) hrest position
  · exact decodeUtf8From_above10000 hc (by omega) (by omega) hrest position

/-- **UTF-8.**  The bytes of a text are read as the text. -/
theorem decodeUtf8_toUTF8 (s : String) : decodeUtf8 s.toUTF8.toList = .ok s.toList := by
  rw [toList_toUTF8, decodeUtf8]
  generalize s.toList = cs
  have hcs : ∀ position,
      decodeUtf8From position (cs.flatMap String.utf8EncodeChar) = .ok cs := by
    -- the position counts for errors only, so that it is free in the induction
    induction cs with
    | nil => exact fun _ => rfl
    | cons c rest ih => exact decodeUtf8From_append c ih
  exact hcs 0

end SymbolTags.Encoding
