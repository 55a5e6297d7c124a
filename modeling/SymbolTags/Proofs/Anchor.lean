import SymbolTags.Proofs.Contribution
import SymbolTags.Proofs.FoundNames

namespace SymbolTags

open Syntax

/-!
# Anchors — selector tags point at their text

A name inside the argument of a lookup call is found at an offset of the argument, and its tag
gives a line and a column of the source.  This file follows the name from the scan to the tag:

* `Selector.Found.StandsIn` — a name stands where it was found and has no line break in it;
  `Selector.standsIn_of_mem_scan` says so of everything that a lookup finds;
* `Located` — a node whose range lies in the source and whose position is that of its start;
* `Located.exists_pointsAt` — the names in the text of such a node stand in the source at the
  positions that are given for them;
* `Emission.selectorTags_point_at_text` — hence the line that a tag quotes has its name at the
  column of the tag.
-/

namespace Selector

/-! ### What a scan finds -/

/-- A name found in a text that starts at an offset: it stands in the text where it was found,
    is not empty and is made of name characters. -/
structure Found.StandsIn (f : Found) (offset : Nat) (cs : List Char) : Prop where
  ne_nil : f.name ≠ []
  isNamePart : ∀ c ∈ f.name, isNamePart c = true
  exists_append : ∃ before after, cs = before ++ f.name ++ after ∧
    f.offset = offset + before.length

/-- A run that starts like a name, without the hyphens at its end, stands in its text. -/
theorem RunIn.standsIn {cs before run after : List Char} {f : Found}
    (h : RunIn cs before run after) (hstart : StartsName run) (hname : f.name = withoutHyphens run)
    (hoffset : f.offset = before.length) : f.StandsIn 0 cs := by
  have hinitial : f.name <+: run := by
    rw [hname]
    exact List.rdropWhile_prefix _ _
  refine ⟨?_, fun c hc => h.isNamePart c (hinitial.subset hc), ?_⟩
  · intro hnil
    obtain ⟨c, more, hrun, hc⟩ := hstart
    have hmem : c ∈ run := by rcases hrun with rfl | rfl <;> simp
    -- nothing would be left of the run if it were made of hyphens
    rw [hname] at hnil
    have hhyphen := List.rdropWhile_eq_nil_iff.mp hnil c hmem
    exact ne_hyphen_of_isNameStart hc (by simpa using hhyphen)
  · obtain ⟨hyphens, hrun⟩ := hinitial
    refine ⟨before, hyphens ++ after, ?_, by rw [hoffset, Nat.zero_add]⟩
    rw [h.cut, ← hrun]
    simp only [List.append_assoc]

/-- Every name that a lookup finds stands where it was found. -/
theorem standsIn_of_mem_scan {lookup : Lookup} {cs : List Char} {f : Found}
    (h : f ∈ lookup.scan cs) : f.StandsIn 0 cs := by
  cases lookup with
  | words =>
    obtain ⟨before, run, after, hword⟩ := (mem_scanWords_iff cs f).mp h
    obtain ⟨c, more, hrun, hstart⟩ := hword.isNameStart
    exact hword.standsIn ⟨c, more, .inl hrun, hstart⟩ hword.name_eq hword.offset_eq
  | selectors =>
    obtain ⟨before, mark, run, after, hselector⟩ := (mem_scanSelectors_iff cs f).mp h
    refine hselector.standsIn hselector.startsName hselector.name_eq ?_
    rw [hselector.offset_eq, List.length_append, List.length_singleton]

/-- A name has no line breaks in it. -/
theorem ne_lineBreak_of_isNamePart {c : Char} (h : isNamePart c = true) : c ≠ '\n' ∧ c ≠ '\r' := by
  constructor
  · rintro rfl
    exact absurd h (by decide)
  · rintro rfl
    exact absurd h (by decide)

end Selector

/-! ### Pieces of the source -/

/-- The range of a node lies in the source, and its position is that of the start of the range,
    when lines are divided at line feeds. -/
structure Located (source : List Char) (n : Node) (start stop : Nat) : Prop where
  start_eq : n.start = some (start : Int)
  stop_eq : n.stop = some (stop : Int)
  start_le : start ≤ stop
  stop_le : stop ≤ source.length
  position_eq : n.position = Text.positionOf source start

/-- The text of a located node is cut out of the source. -/
theorem Located.exists_append {source : List Char} {n : Node} {start stop : Nat}
    (h : Located source n start stop) (raw : Value) :
    ∃ pre text post, source = pre ++ text ++ post ∧ pre.length = start ∧
      start + text.length = stop ∧ Selector.sourceText source n raw = .ok text := by
  have hle := h.start_le
  have hlt := h.stop_le
  refine ⟨source.take start, (source.drop start).take (stop - start), source.drop stop, ?_, ?_, ?_,
    ?_⟩
  · have hdrop : source.drop stop = (source.drop start).drop (stop - start) := by
      rw [List.drop_drop, Nat.add_sub_cancel' hle]
    rw [List.append_assoc, hdrop, List.take_append_drop, List.take_append_drop]
  · rw [List.length_take]
    omega
  · rw [List.length_take, List.length_drop]
    omega
  · simp only [Selector.sourceText, h.start_eq, h.stop_eq, Text.slice, Text.clampOffset_natCast,
      Nat.min_eq_left (hle.trans hlt), Nat.min_eq_left hlt]

/-- A text that stands in the source at an offset, with the position that is given for it, and
    that the line of this position has at its column. -/
structure PointsAt (source : List Char) (word : String) (p : Position) (offset : Nat) :
    Prop where
  stands : (source.drop offset).take word.length = word.toList
  position_eq : p = Text.positionOf source offset
  slice_eq : Text.slice (Text.lineText (Text.lines source).toArray p.line).toList p.column
    (p.column + word.length) = word.toList

/-- A word without line breaks points at itself. -/
theorem pointsAt_of_append (pre word post : List Char) (hne : word ≠ [])
    (hword : ∀ c ∈ word, c ≠ '\n' ∧ c ≠ '\r') :
    PointsAt (pre ++ word ++ post) (String.ofList word)
      (Text.positionOf (pre ++ word ++ post) pre.length) pre.length := by
  refine ⟨?_, rfl, ?_⟩
  · rw [List.append_assoc, List.drop_left, String.length_ofList, List.take_left,
      String.toList_ofList]
  · rw [String.length_ofList, String.toList_ofList]
    exact Text.slice_lineText pre word post hne hword

/-- **Names in a piece.**  The names in the text of a located node stand inside of its range, at
    the positions that are given for them. -/
theorem Located.exists_pointsAt {source : List Char} {n : Node} {start stop : Nat}
    (h : Located source n start stop) (raw : Value) {lookup : Selector.Lookup}
    {r : Selector.Reference}
    (hr : r ∈ Selector.Segment.references
      ⟨(Selector.sourceText source n raw).toOption.getD [], n.position⟩ lookup) :
    ∃ offset, start ≤ offset ∧ offset + r.name.length ≤ stop ∧
      PointsAt source r.name r.position offset := by
  obtain ⟨pre, text, post, rfl, rfl, hstop, htext⟩ := h.exists_append raw
  rw [htext, h.position_eq] at hr
  obtain ⟨f, hf, rfl⟩ := List.mem_map.mp hr
  have hstands := Selector.standsIn_of_mem_scan hf
  obtain ⟨before, after, hcut, hoffset⟩ := hstands.exists_append
  replace hcut : text = before ++ f.name ++ after := hcut
  replace hoffset : f.offset = before.length := by rw [hoffset, Nat.zero_add]
  have hbound : before.length + f.name.length ≤ text.length := by
    rw [hcut]
    simp
  have hposition : Text.locate text (Text.positionOf (pre ++ text ++ post) pre.length) f.offset
      = Text.positionOf (pre ++ text ++ post) (pre.length + before.length) := by
    rw [Text.locate_eq_positionOf pre text post (by omega), hoffset]
  -- the source once more, cut around the name
  have hsource : pre ++ text ++ post = (pre ++ before) ++ f.name ++ (after ++ post) := by
    rw [hcut]
    simp only [List.append_assoc]
  have hpoints := pointsAt_of_append (pre ++ before) f.name (after ++ post) hstands.ne_nil
    fun c hc => Selector.ne_lineBreak_of_isNamePart (hstands.isNamePart c hc)
  rw [← hsource, List.length_append] at hpoints
  refine ⟨pre.length + before.length, by omega, ?_, ?_⟩
  · simp only [String.length_ofList]
    omega
  · show PointsAt _ _ (Text.locate text _ f.offset) _
    rw [hposition]
    exact hpoints

/-! ### Tags -/

namespace Emission

variable {e : Emission} {o : Occurrence}

/-- The tags of a reported name are in the report. -/
theorem mem_report_tags (ho : o ∈ e.reported) {tag : Tag}
    (h : tag ∈ e.selectorTags e.sourceLines o) : tag ∈ e.report.tags :=
  List.mem_flatMap.mpr ⟨o, ho, List.mem_append_right _ h⟩

/-- **Selector tags point at their text.**  Take a lookup call whose argument is scanned, and
    suppose that the scanned literal, or each scanned part of the template, has a range in the
    source and the position of its start.  Then every selector tag of the call stands for a
    place of the source inside of such a range where its name stands.  Without the offsets, the
    line of the tag is the line of that place, and the quoted line has the name at the column of
    the tag; lines are divided at line feeds, and carriage returns at their end are not quoted. -/
theorem selectorTags_point_at_text (e : Emission) (o : Occurrence) (ho : o ∈ e.reported)
    (hlocated : ∀ literal, Selector.argument? e.classifier o = some literal →
      ∀ p ∈ Selector.pieces e.classifier.tree literal,
        ∃ start stop, Located e.source p.1.node start stop)
    (tag : Tag) (htag : tag ∈ e.selectorTags e.sourceLines o) :
    tag ∈ e.report.tags ∧
    ∃ literal p start stop offset name,
      Selector.argument? e.classifier o = some literal ∧
      p ∈ Selector.pieces e.classifier.tree literal ∧
      Located e.source p.1.node start stop ∧ start ≤ offset ∧ offset + name.length ≤ stop ∧
      tag.name = .str name ∧ (e.source.drop offset).take name.length = name.toList ∧
      tag.line - e.lineOffset = (Text.positionOf e.source offset).line ∧
      let column := tag.column - e.columnOffset
      column = (Text.positionOf e.source offset).column ∧
      Text.slice tag.sourceLine.toList column (column + name.length) = name.toList := by
  refine ⟨mem_report_tags ho htag, ?_⟩
  obtain ⟨r, hr, rfl⟩ := List.mem_map.mp htag
  unfold Selector.references at hr
  split at hr
  · rename_i lookup literal _ hliteral
    obtain ⟨segment, hsegment, hr⟩ := List.mem_flatMap.mp hr
    obtain ⟨p, hp, rfl⟩ := List.mem_map.mp hsegment
    obtain ⟨start, stop, hpiece⟩ := hlocated literal hliteral p hp
    obtain ⟨offset, hstart, hstop, hpoints⟩ := hpiece.exists_pointsAt p.2 hr
    have hline : r.position.line + e.lineOffset - e.lineOffset = r.position.line := by omega
    have hcolumn : r.position.column + e.columnOffset - e.columnOffset = r.position.column := by
      omega
    refine ⟨literal, p, start, stop, offset, r.name, hliteral, hp, hpiece, hstart, hstop, rfl,
      hpoints.stands, ?_, ?_, ?_⟩
    · show r.position.line + e.lineOffset - e.lineOffset = _
      rw [hline, hpoints.position_eq]
    · show r.position.column + e.columnOffset - e.columnOffset = _
      rw [hcolumn, hpoints.position_eq]
    · have hslice := hpoints.slice_eq
      rw [← hcolumn] at hslice
      exact hslice
  · simp at hr

/-- A text literal that is continued on a second line. -/
def continuedLiteral : Node :=
  { type := some "Literal", loc := some (some ⟨1, 23⟩), range := some [23, 32]
    attributes := [("value", .str ".a#b")] }

/-- The call of a lookup function with that literal. -/
def continuedCall : Node :=
  { type := some "CallExpression"
    attributes :=
      [("callee", .node sampleMember), ("arguments", .list 0 [.node continuedLiteral])] }

/-- The call in a source with carriage returns, three lines down in its document and one column
    to the left. -/
def continuedEmission : Emission where
  classifier := { tree := Tree.ofRoot continuedCall }
  source := "document.querySelector('.a\\\r\n#b')\r\n".toList
  path := "sample.js"
  lineOffset := 3
  columnOffset := -1

/-- The name of the lookup function. -/
def continuedLookup : Occurrence :=
  { index := 4, node := Tree.sampleName 2 "querySelector" 9, link := some ⟨1, "property", none⟩ }

/-- Both names stand in the text of the literal, one on each line. -/
theorem scanSelectors_continuedText :
    Selector.scanSelectors "'.a\\\r\n#b'".toList = [⟨['a'], 2⟩, ⟨['b'], 7⟩] := by
  have hfirst : Selector.selectorName? ['a', '\\', '\r', '\n', '#', 'b', '\''] = some ['a'] := by
    decide +kernel
  have hsecond : Selector.selectorName? ['b', '\''] = some ['b'] := by decide +kernel
  show Selector.scanSelectors ['\'', '.', 'a', '\\', '\r', '\n', '#', 'b', '\''] = _
  simp [Selector.scanSelectors, Selector.scanSelectorsFrom, hfirst, hsecond]

theorem selectorTags_point_at_text_continuedCall :
    continuedLookup ∈ continuedEmission.reported ∧
    (∀ literal, Selector.argument? continuedEmission.classifier continuedLookup = some literal →
      ∀ p ∈ Selector.pieces continuedEmission.classifier.tree literal,
        ∃ start stop, Located continuedEmission.source p.1.node start stop) ∧
    ∃ tag ∈ continuedEmission.selectorTags continuedEmission.sourceLines continuedLookup,
      tag.name = .str "b" ∧ tag.line = 5 ∧ tag.column = 0 ∧ tag.sourceLine = "#b')" ∧
      tag ∈ continuedEmission.report.tags ∧
      ∃ offset name, tag.name = .str name ∧
        (continuedEmission.source.drop offset).take name.length = name.toList ∧
        tag.line - 3 = (Text.positionOf continuedEmission.source offset).line := by
  have hreported : continuedEmission.reported.getLast? = some continuedLookup := by
    rw [reported_eq (by cbv)]
    cbv
  have hargument : Selector.argument? continuedEmission.classifier continuedLookup =
      some { index := 2, node := continuedLiteral, link := some ⟨0, "arguments", some 0⟩ } := by
    cbv
  have htags : continuedEmission.selectorTags continuedEmission.sourceLines continuedLookup =
      [⟨.reference, .str "a", "sample.js", 4, 24, "document.querySelector('.a\\"⟩,
       ⟨.reference, .str "b", "sample.js", 5, 0, "#b')"⟩] := by
    have hlookup : Selector.lookupOf? continuedLookup = some .selectors := by cbv
    have hsegments : Selector.segments continuedEmission.classifier.tree continuedEmission.source
        { index := 2, node := continuedLiteral, link := some ⟨0, "arguments", some 0⟩ } =
        [⟨"'.a\\\r\n#b'".toList, ⟨1, 23⟩⟩] := by cbv
    have hreferences : Selector.references continuedEmission.classifier continuedEmission.source
        continuedLookup = [⟨"a", ⟨1, 25⟩⟩, ⟨"b", ⟨2, 1⟩⟩] := by
      simp only [Selector.references, hlookup, hargument, hsegments, Selector.Segment.references]
      rw [List.flatMap_singleton]
      show (Selector.scanSelectors "'.a\\\r\n#b'".toList).map _ = _
      rw [scanSelectors_continuedText]
      decide
    rw [selectorTags, hreferences]
    cbv
  have hmem := List.mem_of_getLast? hreported
  have hlocated : ∀ literal,
      Selector.argument? continuedEmission.classifier continuedLookup = some literal →
      ∀ p ∈ Selector.pieces continuedEmission.classifier.tree literal,
        ∃ start stop, Located continuedEmission.source p.1.node start stop := by
    intro literal hliteral p hp
    rw [hargument, Option.some.injEq] at hliteral
    rw [← hliteral] at hp
    -- a literal is scanned in one piece
    rw [Selector.pieces, if_pos (by decide), List.mem_singleton] at hp
    rw [hp]
    exact ⟨23, 32, rfl, rfl, by decide, by decide, by decide⟩
  have htag : (⟨.reference, .str "b", "sample.js", 5, 0, "#b')"⟩ : Tag) ∈
      continuedEmission.selectorTags continuedEmission.sourceLines continuedLookup := by
    rw [htags]
    simp
  obtain ⟨hreport, _, _, _, _, offset, name, -, -, -, -, -, hname, hstands, hline, -⟩ :=
    selectorTags_point_at_text continuedEmission continuedLookup hmem hlocated _ htag
  exact ⟨hmem, hlocated, _, htag, rfl, rfl, rfl, rfl, hreport, offset, name, hname, hstands, hline⟩

end Emission

end SymbolTags
