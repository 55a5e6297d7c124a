import Mathlib.Tactic.SplitIfs
import SymbolTags.Proofs.LinePosition
import SymbolTags.Proofs.Textual

namespace SymbolTags

open Syntax

/-!
# Quoted lines — the line that the tag of a name shows

A tag quotes the line of the source at which its name stands.  The position of the name comes
from a parser, which numbers lines as the grammar says, and the quoted line is taken from the
division at line feeds.  This file compares the two numberings:

* `Text.endsLine` and `Text.grammarPosition` — lines as the grammar numbers them: they end at
  line feeds, at line and paragraph separators, and at carriage returns, of which one right before
  a line feed does not count;
* `Text.strayBreaks` — how many lines end before an offset at something else than a line feed;
* `Text.line_grammarPosition` — the grammar is ahead by that number of lines, and
  `Text.grammarPosition_eq_positionOf` — without such line ends both numberings agree;
* `Emission.ownTag_quotes_line` — hence the tag of a name quotes the line of the name when no
  such line end stands before it, and else a line that is further down by their number.
-/

namespace Text

/-! ### Lines of the grammar -/

/-- The characters at which lines end. -/
def lineTerminators : List Char := ['\n', '\r', '\u2028', '\u2029']

/-- A line ends behind a character, given the one that follows it: a carriage return before a
    line feed leaves this to the line feed. -/
def endsLine (c : Char) (next : Option Char) : Bool :=
  c ∈ lineTerminators && !(c == '\r' && next == some '\n')

/-- The position behind a character. -/
def stepOver (p : Position) (c : Char) (next : Option Char) : Position :=
  if endsLine c next then ⟨p.line + 1, 0⟩ else ⟨p.line, p.column + 1⟩

/-- The position of an offset of a text that starts at a position. -/
def countOn (p : Position) : List Char → Nat → Position
  | c :: rest, k + 1 => countOn (stepOver p c rest.head?) rest k
  | _, _ => p

/-- The position of an offset of a text, with lines as the grammar numbers them. -/
def grammarPosition (cs : List Char) (offset : Nat) : Position :=
  countOn ⟨1, 0⟩ cs offset

/-- The number of lines that end before an offset at something else than a line feed. -/
def strayBreaks : List Char → Nat → Nat
  | c :: rest, k + 1 => (if c ≠ '\n' ∧ endsLine c rest.head? then 1 else 0) + strayBreaks rest k
  | _, _ => 0

theorem endsLine_lineFeed (next : Option Char) : endsLine '\n' next = true := by
  simp [endsLine, lineTerminators]

/-- **Lines.**  The grammar counts line feeds and stray breaks. -/
theorem line_countOn (p : Position) (cs : List Char) (k : Nat) :
    (countOn p cs k).line = p.line + (cs.take k).count '\n' + strayBreaks cs k := by
  induction cs generalizing p k with
  | nil => simp [countOn, strayBreaks]
  | cons c rest ih =>
    cases k with
    | zero => simp [countOn, strayBreaks]
    | succ k =>
      rw [countOn, ih, List.take_succ_cons, strayBreaks, stepOver]
      by_cases hc : c = '\n'
      · -- a line feed ends a line in both ways of counting
        subst hc
        rw [endsLine_lineFeed, List.count_cons_self]
        simp only [if_true, ne_eq, not_true_eq_false, false_and, if_false]
        omega
      · rw [List.count_cons_of_ne hc]
        by_cases hend : endsLine c rest.head? = true
        · simp only [hend, if_true, ne_eq, hc, not_false_eq_true, and_self]
          omega
        · simp only [hend, Bool.false_eq_true, if_false, and_false]
          omega

/-- What follows the last line feed does not reach beyond it. -/
theorem takeWhile_ne_append {before : List Char} (h : '\n' ∈ before) (more : List Char) :
    (before.reverse ++ more).takeWhile (· != '\n') = before.reverse.takeWhile (· != '\n') := by
  rw [List.takeWhile_append, if_neg]
  intro hlength
  have hself : before.reverse.takeWhile (· != '\n') = before.reverse :=
    (List.takeWhile_prefix _).eq_of_length hlength
  have hall := List.takeWhile_eq_self_iff.mp hself '\n' (List.mem_reverse.mpr h)
  simp at hall

/-- One character further, `locate` goes on from the position behind the character. -/
theorem locate_cons (p : Position) (c : Char) {rest : List Char} {k : Nat} (hk : k ≤ rest.length) :
    locate (c :: rest) p (k + 1)
      = locate rest (if c = '\n' then ⟨p.line + 1, 0⟩ else ⟨p.line, p.column + 1⟩) k := by
  have hlength : (rest.take k).length = k := List.length_take_of_le hk
  simp only [locate, List.take_succ_cons, List.reverse_cons]
  generalize rest.take k = before at hlength
  by_cases hmem : '\n' ∈ before
  · -- the column starts anew behind a line feed that both sides have
    have hcount : before.count '\n' ≠ 0 := fun h => List.count_eq_zero.mp h hmem
    rw [takeWhile_ne_append hmem]
    by_cases hc : c = '\n'
    · subst hc
      rw [List.count_cons_self, if_neg (by omega), if_neg hcount, if_pos rfl, Position.mk.injEq]
      exact ⟨by push_cast; omega, rfl⟩
    · rw [List.count_cons_of_ne hc, if_neg hcount, if_neg hcount, if_neg hc]
  · have hcount : before.count '\n' = 0 := List.count_eq_zero.mpr hmem
    by_cases hc : c = '\n'
    · -- the character is the only line feed
      subst hc
      have hbehind := takeWhile_ne_of_notMem (fun h => hmem (List.mem_reverse.mp h)) []
      rw [hbehind, List.length_reverse, hlength, List.count_cons_self, hcount, if_pos rfl,
        if_pos rfl, if_neg (by omega), Position.mk.injEq]
      exact ⟨rfl, (Int.zero_add _).symm⟩
    · rw [List.count_cons_of_ne hc, hcount, if_pos rfl, if_pos rfl, if_neg hc, Position.mk.injEq]
      exact ⟨rfl, by push_cast; omega⟩

/-- **Positions.**  Without stray breaks, the grammar finds the positions that `locate` finds. -/
theorem countOn_eq_locate (p : Position) {cs : List Char} {k : Nat} (hk : k ≤ cs.length)
    (hstray : strayBreaks cs k = 0) : countOn p cs k = locate cs p k := by
  induction cs generalizing p k with
  | nil =>
    obtain rfl : k = 0 := by simpa using hk
    simp [countOn, locate]
  | cons c rest ih =>
    cases k with
    | zero => simp [countOn, locate]
    | succ k =>
      rw [strayBreaks, Nat.add_eq_zero_iff] at hstray
      have hle : k ≤ rest.length := by simpa using hk
      rw [countOn, locate_cons p c hle, ih _ hle hstray.2]
      congr 1
      rw [stepOver]
      by_cases hc : c = '\n'
      · rw [hc, endsLine_lineFeed]
        rfl
      · have hend : endsLine c rest.head? = false := by
          simpa [hc] using hstray.1
        rw [hend, if_neg hc]
        rfl

/-- The line feeds of a text number its offsets from line 1 and column 0 on. -/
theorem positionOf_eq_locate {cs : List Char} {k : Nat} (hk : k ≤ cs.length) :
    positionOf cs k = locate cs ⟨1, 0⟩ k := by
  have h := locate_eq_positionOf [] cs [] hk
  rw [List.nil_append, List.append_nil, List.length_nil, Nat.zero_add] at h
  rw [← h]
  rfl

theorem line_positionOf (cs : List Char) (k : Nat) :
    (positionOf cs k).line = (cs.take k).count '\n' + 1 := by
  show ((lines (cs.take k)).length : Int) = _
  rw [length_lines]
  push_cast
  rfl

/-- **Numbers of lines.**  The grammar is ahead by the stray breaks. -/
theorem line_grammarPosition (cs : List Char) (k : Nat) :
    (grammarPosition cs k).line = (positionOf cs k).line + strayBreaks cs k := by
  rw [grammarPosition, line_countOn, line_positionOf]
  dsimp only
  omega

/-- **Agreement.**  Without stray breaks both numberings give one position. -/
theorem grammarPosition_eq_positionOf {cs : List Char} {k : Nat} (hk : k ≤ cs.length)
    (hstray : strayBreaks cs k = 0) : grammarPosition cs k = positionOf cs k := by
  rw [grammarPosition, countOn_eq_locate _ hk hstray, positionOf_eq_locate hk]

/-- What is cut out from an offset on stands behind what comes before the offset. -/
theorem exists_append_of_slice {cs word : List Char} {start : Nat} {stop : Int}
    (h : slice cs start stop = word) (hne : word ≠ []) :
    start ≤ cs.length ∧ ∃ post, cs = cs.take start ++ word ++ post := by
  rw [slice, clampOffset_natCast] at h
  have hle : start ≤ cs.length := by
    by_contra hlt
    -- beyond the end of a text there is nothing to cut out
    rw [Nat.min_eq_right (by omega), List.drop_length, List.take_nil] at h
    exact hne h.symm
  rw [Nat.min_eq_left hle] at h
  have hinitial : word <+: cs.drop start := by
    rw [← h]
    exact List.take_prefix _ _
  refine ⟨hle, (cs.drop start).drop word.length, ?_⟩
  rw [List.append_assoc, List.prefix_iff_eq_append.mp hinitial, List.take_append_drop]

/-- **Words in lines.**  When no stray break stands before a word without line terminators, the
    line at the position that the grammar gives to the word has the word at the column of this
    position. -/
theorem slice_lineText_grammarPosition {cs word : List Char} {start : Nat} {stop : Int}
    (h : slice cs start stop = word) (hword : ∀ c ∈ word, c ∉ lineTerminators)
    (hstray : strayBreaks cs start = 0) :
    let p := grammarPosition cs start
    slice (lineText (lines cs).toArray p.line).toList p.column (p.column + word.length) = word := by
  intro p
  by_cases hne : word = []
  · -- the empty word stands everywhere
    subst hne
    show slice _ p.column (p.column + 0) = []
    rw [Int.add_zero, slice, Nat.sub_self, List.take_zero]
  · obtain ⟨hle, post, hcut⟩ := exists_append_of_slice h hne
    have hbreaks : ∀ c ∈ word, c ≠ '\n' ∧ c ≠ '\r' := by
      intro c hc
      constructor
      · rintro rfl
        exact hword _ hc (by decide)
      · rintro rfl
        exact hword _ hc (by decide)
    have hline := slice_lineText (cs.take start) word post hne hbreaks
    rw [← hcut, List.length_take_of_le hle, ← grammarPosition_eq_positionOf hle hstray] at hline
    exact hline

end Text

/-! ### Tags -/

/-- A node with a name that stands in the source between the offsets of its range and has no line
    terminators in it.  The position of the node is that of the first offset, with lines as the
    grammar numbers them. -/
structure NamedAt (source : List Char) (n : Node) (name : String) (start : Nat) (stop : Int) :
    Prop where
  name_eq : n.name = .str name
  start_eq : n.start = some (start : Int)
  stop_eq : n.stop = some stop
  slice_eq : Text.slice source start stop = name.toList
  not_terminator : ∀ c ∈ name.toList, c ∉ Text.lineTerminators
  position_eq : n.position = Text.grammarPosition source start

/-- The tag of a name that is reported is in the report. -/
theorem Emission.mem_report_of_ownTag? {e : Emission} {o : Occurrence} {tag : Tag}
    (ho : o ∈ e.reported) (h : e.ownTag? e.sourceLines o = some tag) : tag ∈ e.report.tags := by
  refine List.mem_flatMap.mpr ⟨o, ho, List.mem_append_left _ ?_⟩
  rw [h]
  exact List.mem_singleton_self tag

/-- **Quoted lines.**  Take a reported name with a tag, whose range is the name in the source and
    whose position is that of the start of the range, with lines as the grammar numbers them.
    Without the offsets, the line of the tag is the line of the name, when lines are divided at
    line feeds, plus the number of lines before the name that end otherwise; and this line is
    the one that the tag quotes.  So when all lines before the name end at line feeds, alone or
    behind a carriage return, the quoted line has the name at the column of the tag. -/
theorem Emission.ownTag_quotes_line (e : Emission) (o : Occurrence) (ho : o ∈ e.reported)
    (tag : Tag) (htag : e.ownTag? e.sourceLines o = some tag) (name : String) (start : Nat)
    (stop : Int) (hnamed : NamedAt e.source o.node name start stop) :
    tag ∈ e.report.tags ∧ tag.name = .str name ∧
    tag.line - e.lineOffset
      = (Text.positionOf e.source start).line + Text.strayBreaks e.source start ∧
    tag.sourceLine = Text.lineText e.sourceLines (tag.line - e.lineOffset) ∧
    (Text.strayBreaks e.source start = 0 →
      let column := tag.column - e.columnOffset
      Text.slice tag.sourceLine.toList column (column + name.length) = name.toList) := by
  refine ⟨mem_report_of_ownTag? ho htag, ?_⟩
  obtain ⟨kind, -, rfl⟩ := Option.map_eq_some_iff.mp htag
  have hposition : o.position = Text.grammarPosition e.source start := hnamed.position_eq
  have hline : o.position.line + e.lineOffset - e.lineOffset = o.position.line := by omega
  have hcolumn : o.position.column + e.columnOffset - e.columnOffset = o.position.column := by
    omega
  have hname : shownName o = .str name := by
    have hvalue : o.name = .str name := hnamed.name_eq
    rw [shownName, hvalue]
    split_ifs with htruthy
    · rfl
    · -- only the empty text counts as not set
      have hempty : name = "" := by simpa [Value.isTruthy] using htruthy
      rw [hempty]
  refine ⟨hname, ?_, ?_, fun hstray => ?_⟩
  · show o.position.line + e.lineOffset - e.lineOffset = _
    rw [hline, hposition, Text.line_grammarPosition]
  · show Text.lineText e.sourceLines o.position.line
      = Text.lineText e.sourceLines (o.position.line + e.lineOffset - e.lineOffset)
    rw [hline]
  · show Text.slice (Text.lineText e.sourceLines o.position.line).toList
      (o.position.column + e.columnOffset - e.columnOffset)
      (o.position.column + e.columnOffset - e.columnOffset + name.length) = name.toList
    have hslice := Text.slice_lineText_grammarPosition hnamed.slice_eq hnamed.not_terminator hstray
    rw [← hposition, String.length_toList] at hslice
    rw [hcolumn]
    exact hslice

namespace Emission

/-- A name of one letter that ends no line. -/
theorem not_terminator_b : ∀ c ∈ "b".toList, c ∉ Text.lineTerminators := by
  have hletters : "b".toList = ['b'] := by decide
  rw [hletters, List.forall_mem_singleton]
  decide

/-- An identifier in its source. -/
def placedName (line column : Int) (start stop : Int) (name : String) : Node :=
  { type := some "Identifier", loc := some (some ⟨line, column⟩), range := some [start, stop]
    attributes := [("name", .str name)] }

/-- A program that uses one name. -/
def useOf (name : Node) : Node :=
  { type := some "ExpressionStatement", attributes := [("expression", .node name)] }

/-- The use of a name in a source that is moved three lines down and one column to the left. -/
def emissionOf (name : Node) (source : String) : Emission where
  classifier := { tree := Tree.ofRoot (useOf name) }
  source := source.toList
  path := "sample.js"
  lineOffset := 3
  columnOffset := -1

/-- The occurrence of the name. -/
def usedName (name : Node) : Occurrence :=
  { index := 1, node := name, link := some ⟨0, "expression", none⟩ }

theorem ownTag_quotes_line_behind_comment :
    let name := placedName 2 2 8 9 "b"
    let e := emissionOf name "// a\r\n  b;\r\n"
    usedName name ∈ e.reported ∧
    NamedAt e.source name "b" 8 9 ∧
    ∃ tag, e.ownTag? e.sourceLines (usedName name) = some tag ∧ tag ∈ e.report.tags ∧
      tag.sourceLine = "  b;" ∧ Text.strayBreaks e.source 8 = 0 ∧
      Text.slice tag.sourceLine.toList 2 3 = "b".toList := by
  intro name e
  have hreported : e.reported = [usedName name] := by
    rw [reported_eq (by cbv)]
    cbv
  have hmem : usedName name ∈ e.reported := by
    rw [hreported]
    exact List.mem_singleton_self _
  have hnamed : NamedAt e.source name "b" 8 9 :=
    ⟨rfl, rfl, rfl, by decide, not_terminator_b, by decide⟩
  have htag : e.ownTag? e.sourceLines (usedName name)
      = some ⟨.reference, .str "b", "sample.js", 5, 1, "  b;"⟩ := by cbv
  have hstray : Text.strayBreaks e.source 8 = 0 := by decide
  obtain ⟨hreport, -, -, -, hslice⟩ :=
    ownTag_quotes_line e (usedName name) hmem _ htag "b" 8 9 hnamed
  exact ⟨hmem, hnamed, _, htag, hreport, rfl, hstray, hslice hstray⟩

/-- Behind a carriage return without a line feed, the grammar is in the second line of a source
    that has one line by its line feeds.  So the tag of a name there quotes nothing. -/
theorem ownTag_behind_carriageReturn :
    let name := placedName 2 0 1 2 "b"
    let e := emissionOf name "\rb;"
    usedName name ∈ e.reported ∧
    NamedAt e.source name "b" 1 2 ∧
    ∃ tag, e.ownTag? e.sourceLines (usedName name) = some tag ∧ tag.sourceLine = "" ∧
      let column := tag.column - e.columnOffset
      Text.slice tag.sourceLine.toList column (column + "b".length) ≠ "b".toList := by
  intro name e
  have hreported : e.reported = [usedName name] := by
    rw [reported_eq (by cbv)]
    cbv
  have htag : e.ownTag? e.sourceLines (usedName name)
      = some ⟨.reference, .str "b", "sample.js", 5, -1, ""⟩ := by cbv
  refine ⟨?_, ⟨rfl, rfl, rfl, by decide, not_terminator_b, by decide⟩, _, htag, rfl, by decide⟩
  rw [hreported]
  exact List.mem_singleton_self _

end Emission

end SymbolTags
