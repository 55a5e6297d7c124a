import Mathlib.Data.List.Induction
import Mathlib.Data.List.TakeWhile
import SymbolTags.Text.Lines

namespace SymbolTags.Text

open Syntax (Position)

/-!
# Line positions — where an offset stands when lines are divided at line feeds

`locate` goes by the number of line feeds and by what follows the last of them, `lineText` by
the division into lines.  This file shows that both speak of the same lines:

* `positionOf` — the position of an offset, read off the division of what stands before it;
* `lines_append` — lines of a text in two pieces: the last line of the first goes on in the
  second;
* `locate_eq_positionOf` — inside a piece of the text whose position is right, `locate` finds
  right positions;
* `slice_lineText` — the line at the position of a word without line breaks has the word at the
  column of that position, also when carriage returns at the end of the line are dropped.
-/

/-- The position of an offset of a text: the number of lines up to it, and what the last of them
    holds. -/
def positionOf (cs : List Char) (offset : Nat) : Position :=
  let before := lines (cs.take offset)
  ⟨before.length, (before.getLast?.getD []).length⟩

/-! ### Lines -/

/-- Even the empty text has a line. -/
theorem lines_ne_nil (cs : List Char) : lines cs ≠ [] := by
  cases cs with
  | nil => simp [lines]
  | cons c rest =>
    rw [lines]
    split
    · simp
    · split <;> simp

/-- There is a last line. -/
theorem exists_lines_eq_concat (cs : List Char) : ∃ init last, lines cs = init ++ [last] := by
  obtain ⟨init, last, h⟩ := (lines cs).eq_nil_or_concat.resolve_left (lines_ne_nil cs)
  exact ⟨init, last, by rw [h, List.concat_eq_append]⟩

/-- Any character but a line feed joins the first line. -/
theorem lines_cons_of_ne {c : Char} {rest line : List Char} {more : List (List Char)}
    (hc : c ≠ '\n') (h : lines rest = line :: more) : lines (c :: rest) = (c :: line) :: more := by
  rw [lines, if_neg hc, h]

/-- **Two pieces.**  The last line of the first piece goes on in the first line of the second. -/
theorem lines_append {a b last first : List Char} {init more : List (List Char)}
    (ha : lines a = init ++ [last]) (hb : lines b = first :: more) :
    lines (a ++ b) = init ++ (last ++ first) :: more := by
  induction a generalizing init last with
  | nil =>
    have hlast : init = [] ∧ last = [] := by
      rw [lines] at ha
      cases init with
      | nil => simpa using ha.symm
      | cons l ls => simp at ha
    obtain ⟨rfl, rfl⟩ := hlast
    exact hb
  | cons c rest ih =>
    obtain ⟨init', last', hrest⟩ := exists_lines_eq_concat rest
    have happend := ih hrest
    by_cases hc : c = '\n'
    · -- a line feed puts an empty line in front
      rw [lines, if_pos hc, hrest, ← List.cons_append] at ha
      obtain ⟨rfl, hlast⟩ := List.append_inj' ha rfl
      rw [List.singleton_inj] at hlast
      rw [List.cons_append, lines, if_pos hc, happend, hlast, List.cons_append]
    · -- any other character belongs to the first line, which may be the last one
      cases init' with
      | nil =>
        rw [lines_cons_of_ne hc hrest] at ha
        have hlast : init = [] ∧ last = c :: last' := by
          cases init with
          | nil => simpa using ha.symm
          | cons l ls => simp at ha
        obtain ⟨rfl, rfl⟩ := hlast
        rw [List.cons_append, lines_cons_of_ne hc happend]
        rfl
      | cons l ls =>
        rw [List.cons_append] at hrest happend
        rw [lines_cons_of_ne hc hrest, ← List.cons_append] at ha
        obtain ⟨rfl, hlast⟩ := List.append_inj' ha rfl
        rw [List.singleton_inj] at hlast
        rw [List.cons_append, lines_cons_of_ne hc happend, hlast, List.cons_append]

/-- A text without line feeds is one line. -/
theorem lines_of_notMem {cs : List Char} (h : '\n' ∉ cs) : lines cs = [cs] := by
  induction cs with
  | nil => rfl
  | cons c rest ih =>
    rw [List.mem_cons, not_or] at h
    exact lines_cons_of_ne (Ne.symm h.1) (ih h.2)

/-- Every line feed starts a line. -/
theorem length_lines (cs : List Char) : (lines cs).length = cs.count '\n' + 1 := by
  induction cs with
  | nil => rfl
  | cons c rest ih =>
    by_cases hc : c = '\n'
    · rw [lines, if_pos hc, hc, List.count_cons_self, List.length_cons, ih]
    · obtain ⟨line, more, hrest⟩ := List.exists_cons_of_ne_nil (lines_ne_nil rest)
      rw [lines_cons_of_ne hc hrest, List.count_cons_of_ne hc, ← ih, hrest]
      rfl

/-- What stands before a character that does not stand in it. -/
theorem takeWhile_ne_of_notMem {c : Char} {cs : List Char} (h : c ∉ cs) (rest : List Char) :
    (cs ++ c :: rest).takeWhile (· != c) = cs := by
  rw [List.takeWhile_append_of_pos, List.takeWhile_cons_of_neg (by simp), List.append_nil]
  intro d hd
  exact bne_iff_ne.mpr fun heq => h (heq ▸ hd)

/-- The last line is what follows the last line feed. -/
theorem reverse_takeWhile_eq_last {cs last : List Char} {init : List (List Char)}
    (h : lines cs = init ++ [last]) : (cs.reverse.takeWhile (· != '\n')).reverse = last := by
  induction cs using List.reverseRecOn generalizing init last with
  | nil =>
    rw [lines] at h
    have := congrArg List.getLast? h
    simpa using this
  | append_singleton cs c ih =>
    obtain ⟨init', last', hcs⟩ := exists_lines_eq_concat cs
    rw [List.reverse_append, List.reverse_singleton, List.singleton_append, List.takeWhile_cons]
    by_cases hc : c = '\n'
    · -- behind a line feed at the end stands the empty line
      have hsingle : lines [c] = [] :: [[]] := by rw [hc]; rfl
      rw [lines_append hcs hsingle] at h
      have hlast := congrArg List.getLast? h
      simpa [hc] using hlast
    · have hsingle : lines [c] = [c] :: [] := by
        rw [lines_of_notMem (by simpa using Ne.symm hc)]
      rw [lines_append hcs hsingle] at h
      have hlast := congrArg List.getLast? h
      simp only [List.getLast?_append, List.getLast?_singleton, Option.some_or,
        Option.some.injEq] at hlast
      simp [hc, ih hcs, hlast]

/-! ### Positions -/

/-- The position of an offset from the lines of what stands before it. -/
theorem positionOf_eq {cs before last : List Char} {init : List (List Char)} {offset : Nat}
    (hbefore : cs.take offset = before) (h : lines before = init ++ [last]) :
    positionOf cs offset = ⟨init.length + 1, last.length⟩ := by
  unfold positionOf
  rw [hbefore, h]
  simp

/-- **Positions inside of a piece.**  From the position of a piece of a text, `locate` finds the
    positions of the offsets in the piece. -/
theorem locate_eq_positionOf (pre text post : List Char) {offset : Nat}
    (hoffset : offset ≤ text.length) :
    locate text (positionOf (pre ++ text ++ post) pre.length) offset
      = positionOf (pre ++ text ++ post) (pre.length + offset) := by
  obtain ⟨init, last, hpre⟩ := exists_lines_eq_concat pre
  have hlength : (text.take offset).length = offset := List.length_take_of_le hoffset
  have htake : (pre ++ text ++ post).take pre.length = pre := by
    rw [List.append_assoc, List.take_left]
  have htake' : (pre ++ text ++ post).take (pre.length + offset) = pre ++ text.take offset := by
    rw [List.append_assoc, List.take_length_add_append, List.take_append_of_le_length hoffset]
  rw [positionOf_eq htake hpre]
  simp only [locate]
  split_ifs with hbreaks
  · -- no line feed in between: the line is the same and the column moves on
    have hnone : lines (text.take offset) = [text.take offset] :=
      lines_of_notMem (List.count_eq_zero.mp hbreaks)
    rw [positionOf_eq htake' (lines_append hpre hnone), List.length_append, hlength]
    simp
  · -- the line is counted on, and the column starts anew
    obtain ⟨rest, final, hlast⟩ := exists_lines_eq_concat (text.take offset)
    have hcount := length_lines (text.take offset)
    have hcolumn := reverse_takeWhile_eq_last hlast
    cases rest with
    | nil =>
      rw [hlast] at hcount
      simp at hcount
      omega
    | cons l ls =>
      rw [List.cons_append] at hlast
      have hall := lines_append hpre hlast
      rw [← List.cons_append, ← List.append_assoc] at hall
      rw [positionOf_eq htake' hall, ← hcolumn]
      rw [hlast] at hcount
      simp only [List.length_cons, List.length_append, List.length_nil] at hcount
      simp only [List.length_append, List.length_cons, List.length_reverse, Position.mk.injEq,
        and_true]
      omega

/-! ### The text of a line -/

/-- Nothing is dropped in front of a character that stays. -/
theorem dropEndWhile_append {p : Char → Bool} {a b : List Char}
    (h : ∀ c ∈ a.getLast?, p c = false) : dropEndWhile p (a ++ b) = a ++ dropEndWhile p b := by
  have ha : a.reverse.dropWhile p = a.reverse := by
    rw [← List.head?_reverse] at h
    cases hr : a.reverse with
    | nil => rfl
    | cons c cs =>
      rw [hr] at h
      rw [List.dropWhile_cons_of_neg (by simp [h c rfl])]
  unfold dropEndWhile
  rw [List.reverse_append, List.dropWhile_append, ha]
  split_ifs with hempty
  · rw [List.isEmpty_iff.mp hempty]
    simp
  · rw [List.reverse_append, List.reverse_reverse]

theorem clampOffset_natCast (length i : Nat) : clampOffset length (i : Int) = min i length := by
  rw [clampOffset, if_neg (by omega), Int.toNat_natCast]

/-- Cutting between the ends of a piece gives the piece. -/
theorem slice_append (a b c : List Char) :
    slice (a ++ b ++ c) (a.length : Nat) ((a.length + b.length : Nat) : Int) = b := by
  have hfirst : min a.length (a ++ b ++ c).length = a.length := by
    simp only [List.length_append]
    omega
  have hlast : min (a.length + b.length) (a ++ b ++ c).length = a.length + b.length := by
    simp only [List.length_append]
    omega
  rw [slice, clampOffset_natCast, clampOffset_natCast, hfirst, hlast, List.append_assoc,
    List.drop_left, Nat.add_sub_cancel_left, List.take_left]

/-- **Words in lines.**  A word without line breaks stands in the line at its position, and at the
    column of this position. -/
theorem slice_lineText (pre word post : List Char) (hne : word ≠ [])
    (hword : ∀ c ∈ word, c ≠ '\n' ∧ c ≠ '\r') :
    let p := positionOf (pre ++ word ++ post) pre.length
    slice (lineText (lines (pre ++ word ++ post)).toArray p.line).toList p.column
      (p.column + word.length) = word := by
  obtain ⟨init, last, hpre⟩ := exists_lines_eq_concat pre
  obtain ⟨first, more, hpost⟩ := List.exists_cons_of_ne_nil (lines_ne_nil post)
  have hsingle : lines word = [] ++ [word] :=
    lines_of_notMem fun h => (hword _ h).1 rfl
  have hlines : lines (pre ++ word ++ post) = init ++ (last ++ word ++ first) :: more := by
    have htail : lines (word ++ post) = (word ++ first) :: more := lines_append hsingle hpost
    rw [List.append_assoc, lines_append hpre htail, List.append_assoc]
  have htake : (pre ++ word ++ post).take pre.length = pre := by
    rw [List.append_assoc, List.take_left]
  have hkeep : ∀ c ∈ (last ++ word).getLast?, (c == '\r') = false := by
    intro c hc
    rw [List.getLast?_append, Option.or_of_isSome (by simpa using hne)] at hc
    exact beq_eq_false_iff_ne.mpr (hword c (List.mem_of_getLast? hc)).2
  intro p
  have hp : p = ⟨init.length + 1, last.length⟩ := positionOf_eq htake hpre
  have hline : lineText (lines (pre ++ word ++ post)).toArray p.line
      = String.ofList (last ++ word ++ dropEndWhile (· == '\r') first) := by
    have hget : (init ++ (last ++ word ++ first) :: more)[init.length]?
        = some (last ++ word ++ first) := by simp
    have hpositive : (1 : Int) ≤ init.length + 1 := by omega
    have hindex : (init.length + 1 : Int).toNat - 1 = init.length := by omega
    rw [hp, hlines]
    simp only [lineText, hpositive, if_true, hindex, List.getElem?_toArray, hget,
      dropEndWhile_append hkeep]
  rw [hline, hp, String.toList_ofList]
  exact slice_append last word _

end SymbolTags.Text
