import Mathlib.Data.List.Forall2
import SymbolTags.Proofs.WrittenText
import SymbolTags.Toml.Document

namespace SymbolTags.Toml

/-!
# Written lines — a document that is written line by line is read line by line

`Says` relates a line to what it says, whatever lines follow it:

* `says_comment`, `says_assignment` and `says_table` are the lines that are written;
* `readLines_says` — lines that say something in a row are read as what they say;
* `read_says` — so is a whole document.
-/

/-! ### Values -/

/-- A value is written so that it is read up to the end of its line. -/
structure Written (cs : List Char) (d : Data) : Prop where
  start : ∀ rest, (cs ++ '\n' :: rest).dropWhile isGap = cs ++ '\n' :: rest
  reads : ∀ steps rest, value (steps + 1) (cs ++ '\n' :: rest) = .ok (d, '\n' :: rest)

/-- The word for true. -/
theorem written_true : Written ['t', 'r', 'u', 'e'] (.bool true) where
  start := fun _ => rfl
  reads := fun _ _ => rfl

/-- The word for false. -/
theorem written_false : Written ['f', 'a', 'l', 's', 'e'] (.bool false) where
  start := fun _ => rfl
  reads := fun _ _ => rfl

/-- The quotes of a text on a line do not come in threes. -/
theorem startsTripled_writeText (cs rest : List Char) :
    startsTripled '"' ('"' :: (cs.flatMap writeChar ++ '"' :: '\n' :: rest)) = false := by
  cases cs with
  | nil => rfl
  | cons c cs =>
    have hhead := head?_writeChar_ne c (cs.flatMap writeChar ++ '"' :: '\n' :: rest)
    rw [List.flatMap_cons, List.append_assoc]
    generalize writeChar c ++ (cs.flatMap writeChar ++ '"' :: '\n' :: rest) = body at hhead
    cases body with
    | nil => rfl
    | cons d body =>
      have hd : d ≠ '"' := fun h => hhead (congrArg some h)
      simp [startsTripled, hd]

/-- A text in quotes, whose characters are escaped where they have to be. -/
theorem written_text (s : String) : Written (writeText s).toList (.str s) where
  start := by
    intro rest
    rw [toList_writeText]
    rfl
  reads := by
    intro steps rest
    rw [toList_writeText, List.cons_append, List.append_assoc, List.singleton_append]
    -- a quote opens a scalar, whatever number of steps is left for tables and lists
    have hvalue : value (steps + 1) ('"' :: (s.toList.flatMap writeChar ++ '"' :: '\n' :: rest))
        = scalarValue ('"' :: (s.toList.flatMap writeChar ++ '"' :: '\n' :: rest)) := rfl
    rw [hvalue, scalarValue, startsTripled_writeText, if_neg Bool.false_ne_true,
      if_pos List.head?_cons, List.drop_succ_cons, List.drop_zero, basicBody_writeText]
    show Except.ok (Data.str (String.ofList s.toList), '\n' :: rest) = _
    rw [String.ofList_toList]

/-! ### Keys -/

/-- A name that needs no quotes as a key. -/
def isBareName (name : String) : Bool :=
  !name.toList.isEmpty && name.toList.all isBareKey

section

variable {name : String} {c d : Char} {rest tail : List Char}

/-- It starts with a character of a key. -/
theorem exists_start_of_bare (hname : isBareName name = true) :
    ∃ c cs, name.toList = c :: cs ∧ isBareKey c = true := by
  rw [isBareName, Bool.and_eq_true, List.all_eq_true] at hname
  cases hcs : name.toList with
  | nil =>
    rw [hcs] at hname
    exact absurd hname.1 (by decide)
  | cons c cs => exact ⟨c, cs, rfl, hname.2 c (hcs ▸ List.mem_cons_self)⟩

/-- It is read up to the first character that is none of a key. -/
theorem keyPart?_bare (hname : isBareName name = true) (hc : isBareKey c = false) :
    keyPart? (name.toList ++ c :: rest) = some (name, c :: rest) := by
  obtain ⟨start, others, hcs, hstart⟩ := exists_start_of_bare hname
  rw [isBareName, Bool.and_eq_true, List.all_eq_true] at hname
  have htake : (name.toList ++ c :: rest).takeWhile isBareKey = name.toList := by
    rw [List.takeWhile_append_of_pos hname.2, List.takeWhile_cons_of_neg (by simp [hc]),
      List.append_nil]
  have hdrop : (name.toList ++ c :: rest).dropWhile isBareKey = c :: rest := by
    rw [List.dropWhile_append_of_pos hname.2, List.dropWhile_cons_of_neg (by simp [hc])]
  have hnames : String.ofList name.toList = name := String.ofList_toList
  rw [hcs, List.cons_append] at htake hdrop ⊢
  rw [keyPart?, if_pos hstart, htake, hdrop, ← hcs, hnames]

/-- A bare name is a key of its own when no dot follows, past blanks. -/
theorem key?_bare (hname : isBareName name = true) (hc : isBareKey c = false)
    (hbehind : (c :: rest).dropWhile isGap = d :: tail) (hd : d ≠ '.') :
    key? (name.toList ++ c :: rest).length (name.toList ++ c :: rest)
      = some ([name], d :: tail) := by
  -- the text is long enough for one part
  have hlength : (name.toList ++ c :: rest).length = (name.toList.length + rest.length) + 1 := by
    rw [List.length_append, List.length_cons, Nat.add_assoc]
  rw [hlength, key?, keyPart?_bare hname hc]
  simp only [Option.bind_eq_bind, Option.bind_some, hbehind]
  split
  · rename_i heq
    exact absurd (List.cons.inj heq).1 hd
  · rfl

end

/-! ### Lines -/

/-- What a line says, whatever follows it. -/
def Says (line : List Char) (said : Statement) : Prop :=
  ∀ rest, ∃ tail, statement ((line ++ '\n' :: rest).dropWhile isGap) = .ok (said, tail) ∧
    lineEnd? tail = some rest

/-- A line feed ends a line. -/
theorem lineEnd?_lineFeed (rest : List Char) : lineEnd? ('\n' :: rest) = some rest := rfl

/-- An empty line says nothing. -/
theorem says_empty : Says [] .nothing :=
  fun rest => ⟨'\n' :: rest, rfl, lineEnd?_lineFeed rest⟩

/-- A comment says nothing, unless it holds control characters. -/
theorem says_comment {text : List Char} (h : ∀ c ∈ text, isControl c = false) :
    Says ('#' :: text) .nothing := by
  intro rest
  refine ⟨'#' :: (text ++ '\n' :: rest), rfl, ?_⟩
  -- a comment reaches to the line feed, which is none of its characters
  have hbody : ('#' :: (text ++ '\n' :: rest)).takeWhile (· != '\n') = '#' :: text := by
    have htext : ∀ c ∈ '#' :: text, (c != '\n') = true := by
      intro c hc
      rw [bne_iff_ne]
      rintro rfl
      rcases List.mem_cons.mp hc with hc | hc
      · exact absurd hc (by decide)
      · exact absurd (h '\n' hc) (by decide)
    rw [← List.cons_append, List.takeWhile_append_of_pos htext,
      List.takeWhile_cons_of_neg (by simp), List.append_nil]
  have hlegal : ('#' :: text).any isIllegal = false := by
    rw [List.any_eq_false]
    intro c hc
    rcases List.mem_cons.mp hc with rfl | hc
    · decide
    · simp [isIllegal, h c hc]
  have hskip : skipComment ('#' :: (text ++ '\n' :: rest)) = some ('\n' :: rest) := by
    rw [skipComment, if_pos List.head?_cons, hbody]
    dsimp only
    rw [hlegal, if_neg Bool.false_ne_true, ← List.cons_append, List.drop_left]
  have hgap : ('#' :: (text ++ '\n' :: rest)).dropWhile isGap = '#' :: (text ++ '\n' :: rest) :=
    rfl
  rw [lineEnd?, hgap, hskip]
  rfl

section

variable {c : Char} (h : isBareKey c = true)
include h

/-- The start of a key is no other mark. -/
theorem ne_of_isBareKey {mark : Char} (hmark : isBareKey mark = false) : c ≠ mark := by
  rintro rfl
  exact Bool.false_ne_true (hmark.symm.trans h)

/-- No blank is passed over in front of a key. -/
theorem dropWhile_isGap_of_isBareKey (cs : List Char) :
    (c :: cs).dropWhile isGap = c :: cs := by
  have hblank : c ≠ ' ' := ne_of_isBareKey h (by decide)
  have htab : c ≠ '\t' := ne_of_isBareKey h (by decide)
  exact List.dropWhile_cons_of_neg (by simp [isGap, hblank, htab])

/-- A line that starts like a key is an assignment. -/
theorem statement_of_isBareKey (cs : List Char) :
    statement (c :: cs) =
      (assignment (c :: cs)).map fun p => (.assignment p.1.1 p.1.2, p.2) := by
  have hbracket : c ≠ '[' := ne_of_isBareKey h (by decide)
  have hbreak : c ≠ '\n' := ne_of_isBareKey h (by decide)
  have hcomment : c ≠ '#' := ne_of_isBareKey h (by decide)
  unfold statement
  split
  · rename_i heq
    cases heq
  · rename_i heq
    exact absurd (List.cons.inj heq).1 hbracket
  · rename_i heq
    exact absurd (List.cons.inj heq).1 hbracket
  · rename_i heq
    cases heq
    simp [hbreak, hcomment]

end

/-- A bare name with a value behind it is an assignment. -/
theorem says_assignment {name : String} (hname : isBareName name = true) {written : List Char}
    {d : Data} (h : Written written d) :
    Says (name.toList ++ ' ' :: '=' :: ' ' :: written) (.assignment [name] d) := by
  intro rest
  refine ⟨'\n' :: rest, ?_, lineEnd?_lineFeed rest⟩
  let body := written ++ '\n' :: rest
  have hline : (name.toList ++ ' ' :: '=' :: ' ' :: written) ++ '\n' :: rest
      = name.toList ++ ' ' :: '=' :: ' ' :: body := by
    rw [List.append_assoc]
    rfl
  have hkey : key? (name.toList ++ ' ' :: '=' :: ' ' :: body).length
      (name.toList ++ ' ' :: '=' :: ' ' :: body) = some ([name], '=' :: ' ' :: body) :=
    key?_bare hname (by decide) rfl (by decide)
  -- the blank behind the equals sign is passed over, and the value starts with none
  have hgap : (' ' :: body).dropWhile isGap = body := by
    rw [List.dropWhile_cons_of_pos (by decide)]
    exact h.start rest
  have hassignment : assignment (name.toList ++ ' ' :: '=' :: ' ' :: body)
      = .ok (([name], d), '\n' :: rest) := by
    rw [assignment, hkey]
    simp only [required, bind, Except.bind, hgap]
    rw [h.reads]
    rfl
  obtain ⟨c, cs, hcs, hc⟩ := exists_start_of_bare hname
  rw [hline]
  rw [hcs, List.cons_append] at hassignment ⊢
  rw [dropWhile_isGap_of_isBareKey hc, statement_of_isBareKey hc, hassignment]
  rfl

/-- A bare name in brackets opens a table. -/
theorem says_table {name : String} (hname : isBareName name = true) :
    Says ('[' :: (name.toList ++ [']'])) (.table [name]) := by
  intro rest
  refine ⟨'\n' :: rest, ?_, lineEnd?_lineFeed rest⟩
  have hline : ('[' :: (name.toList ++ [']'])) ++ '\n' :: rest
      = '[' :: (name.toList ++ ']' :: '\n' :: rest) := by
    rw [List.cons_append, List.append_assoc]
    rfl
  have hkey : key? (name.toList ++ ']' :: '\n' :: rest).length
      (name.toList ++ ']' :: '\n' :: rest) = some ([name], ']' :: '\n' :: rest) :=
    key?_bare hname (by decide) rfl (by decide)
  obtain ⟨c, cs, hcs, hc⟩ := exists_start_of_bare hname
  rw [hcs, List.cons_append] at hkey
  have hheader : header? [']'] (c :: (cs ++ ']' :: '\n' :: rest))
      = some ([name], '\n' :: rest) := by
    rw [header?, dropWhile_isGap_of_isBareKey hc, hkey]
    rfl
  have hstatement : statement ('[' :: c :: (cs ++ ']' :: '\n' :: rest))
      = .ok (.table [name], '\n' :: rest) := by
    unfold statement
    split
    · rename_i heq
      cases heq
    · -- the name starts with no second bracket
      rename_i heq
      exact absurd (List.cons.inj (List.cons.inj heq).2).1 (ne_of_isBareKey hc (by decide))
    · rename_i heq
      rw [← (List.cons.inj heq).2, hheader]
      rfl
    · rename_i hother heq
      exact absurd (List.cons.inj heq).1.symm hother
  rw [hline, List.dropWhile_cons_of_neg (by decide), hcs, List.cons_append, hstatement]

/-! ### Documents -/

/-- At the end of the text the draft is handed on. -/
theorem readLines_nil (lines : Nat) (d : Draft) : readLines lines d [] = .ok d := by
  cases lines <;> rfl

/-- **Step.**  A line is taken off, and what it says is applied. -/
theorem readLines_cons {line : List Char} {said : Statement} (h : Says line said) {d d' : Draft}
    (happly : d.apply said = some d') (lines : Nat) (rest : List Char) :
    readLines (lines + 1) d (line ++ '\n' :: rest) = readLines lines d' rest := by
  obtain ⟨tail, hstatement, hend⟩ := h rest
  rw [readLines, hstatement]
  simp only [bind, Except.bind, happly, hend, required]
  -- the end of the text is found in front of a line as well as behind one
  cases rest with
  | nil => exact (readLines_nil lines d').symm
  | cons c rest => rfl

/-- Lines in a row are read as what they say, by induction on the lines. -/
theorem readLines_says {lines : List (List Char)} {said : List Statement}
    (h : List.Forall₂ Says lines said) {d d' : Draft}
    (happly : said.foldlM Draft.apply d = some d') {n : Nat} (hn : lines.length ≤ n) :
    readLines n d (lines.flatMap fun line => line ++ ['\n']) = .ok d' := by
  induction h generalizing d n with
  | nil =>
    rw [List.flatMap_nil, readLines_nil, Option.some.inj happly]
  | @cons line statement lines said hline hlines ih =>
    rw [List.foldlM_cons] at happly
    obtain ⟨next, hnext, happly⟩ := Option.bind_eq_some_iff.mp happly
    obtain ⟨n, rfl⟩ : ∃ k, n = k + 1 := Nat.exists_eq_add_one_of_ne_zero (by
      rw [List.length_cons] at hn
      omega)
    rw [List.flatMap_cons, List.append_assoc, List.singleton_append, readLines_cons hline hnext]
    exact ih happly (Nat.le_of_succ_le_succ hn)

/-- Without carriage returns there is nothing to join. -/
theorem joinBreaks_of_notMem {cs : List Char} (h : '\r' ∉ cs) : joinBreaks cs = cs := by
  induction cs with
  | nil => rfl
  | cons c rest ih =>
    rw [List.mem_cons, not_or] at h
    rw [joinBreaks, ih h.2]
    rintro cs hc -
    exact h.1 hc.symm

/-- There are no more lines than characters. -/
theorem length_le_length_flatMap (lines : List (List Char)) :
    lines.length ≤ (lines.flatMap fun line => line ++ ['\n']).length := by
  induction lines with
  | nil => exact Nat.le_refl 0
  | cons line lines ih =>
    rw [List.flatMap_cons, List.length_append, List.length_append, List.length_singleton,
      List.length_cons]
    omega

/-- **Documents.**  A text of lines is read as what the lines say. -/
theorem read_says {lines : List (List Char)} {said : List Statement}
    (h : List.Forall₂ Says lines said) {d : Draft}
    (happly : said.foldlM Draft.apply {} = some d) {text : String}
    (htext : text.toList = lines.flatMap fun line => line ++ ['\n'])
    (hreturn : '\r' ∉ text.toList) : read text = .ok (entriesToData d.items) := by
  have henough := Nat.le_succ_of_le (length_le_length_flatMap lines)
  rw [read, joinBreaks_of_notMem hreturn, htext, readLines_says h happly henough]
  rfl

end SymbolTags.Toml
