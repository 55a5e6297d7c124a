import SymbolTags.Proofs.Anchor

namespace SymbolTags

open Syntax

/-!
# Rendered text — tags read back from their lines

The text form of a tag escapes nothing: the path and the quoted line may hold commas, colons and
digits.  It can be read back all the same, because every field in front of them ends at the first
mark that follows it:

* `Text.lines_terminated` — lines without line feeds are read back from their text;
* `Tag.IsReadable` — a tag of a given path whose name holds neither a comma nor a line feed and
  whose quoted line holds no line feed.  `Tag.render_inj` tells such tags apart by their text;
* `Emission.isReadable_of_mem_report` — the tags of a report are readable if the identifiers are
  named plainly, since the names that a scan finds always are;
* `report_text_injective` — hence two reports on the same path that are written alike have the
  same tags.
-/

/-! ### Marks -/

namespace Text

/-- A field that does not hold the mark behind it ends at the first such mark. -/
theorem field_inj {mark : Char} {field field' rest rest' : List Char} (h : mark ∉ field)
    (h' : mark ∉ field') (heq : field ++ mark :: rest = field' ++ mark :: rest') :
    field = field' ∧ rest = rest' := by
  have hfield : field = field' := by
    rw [← takeWhile_ne_of_notMem h rest, heq, takeWhile_ne_of_notMem h' rest']
  subst hfield
  exact ⟨rfl, (List.cons.inj (List.append_cancel_left heq)).2⟩

/-- Lines that a line feed ends are read back, and behind the last line feed is an empty line. -/
theorem lines_terminated {ls : List (List Char)} (h : ∀ l ∈ ls, '\n' ∉ l) :
    lines (ls.flatMap fun l => l ++ ['\n']) = ls ++ [[]] := by
  induction ls with
  | nil => rfl
  | cons l ls ih =>
    rw [List.forall_mem_cons] at h
    have hbreak : ∀ rest, lines ('\n' :: rest) = [] :: lines rest := fun rest => if_pos rfl
    have hfirst : lines l = [] ++ [l] := lines_of_notMem h.1
    rw [List.flatMap_cons, List.append_assoc, List.singleton_append,
      lines_append hfirst (hbreak _), ih h.2, List.append_nil, List.nil_append, List.cons_append]

/-- A line has no line feed in it. -/
theorem lineFeed_notMem_of_mem_lines {cs l : List Char} (h : l ∈ lines cs) : '\n' ∉ l := by
  induction cs generalizing l with
  | nil =>
    rw [lines, List.mem_singleton] at h
    simp [h]
  | cons c rest ih =>
    by_cases hc : c = '\n'
    · rw [lines, if_pos hc, List.mem_cons] at h
      obtain rfl | h := h
      · exact List.not_mem_nil
      · exact ih h
    · obtain ⟨line, more, hrest⟩ := List.exists_cons_of_ne_nil (lines_ne_nil rest)
      rw [lines_cons_of_ne hc hrest, List.mem_cons] at h
      rw [hrest] at ih
      obtain rfl | h := h
      · rw [List.mem_cons, not_or]
        exact ⟨Ne.symm hc, ih List.mem_cons_self⟩
      · exact ih (List.mem_cons_of_mem _ h)

/-- The text of a line has no line feed in it. -/
theorem lineFeed_notMem_lineText (cs : List Char) (line : Int) :
    '\n' ∉ (lineText (lines cs).toArray line).toList := by
  unfold lineText
  split
  · split
    · rename_i l hl
      have hmem : l ∈ lines cs := by
        rw [List.getElem?_toArray] at hl
        exact List.mem_of_getElem? hl
      -- dropping carriage returns brings no line feed in
      have hsub : dropEndWhile (· == '\r') l ⊆ l := by
        intro c hc
        rw [dropEndWhile, List.mem_reverse] at hc
        exact List.mem_reverse.mp ((List.dropWhile_sublist _).mem hc)
      rw [String.toList_ofList]
      exact fun h => lineFeed_notMem_of_mem_lines hmem (hsub h)
    · simp
  · simp

/-- The digits of a natural number are digits. -/
theorem isDigit_of_mem_repr {m : Nat} {c : Char} (h : c ∈ (Nat.repr m).toList) : c.isDigit := by
  rw [Nat.repr, String.toList_ofList] at h
  exact Nat.isDigit_of_mem_toDigits (by decide) (by decide) h

/-- Reading the digits gives the number back. -/
theorem repr_inj {m n : Nat} (h : Nat.repr m = Nat.repr n) : m = n := by
  have hread : ∀ k : Nat, Nat.ofDigitChars 10 (Nat.repr k).toList 0 = k := by
    intro k
    rw [Nat.repr, String.toList_ofList, Nat.ofDigitChars_ten_toDigits]
  rw [← hread m, h, hread]

/-- A number with a hyphen is not one of digits alone. -/
theorem hyphen_append_repr_ne (m n : Nat) : "-" ++ Nat.repr m ≠ Nat.repr n := by
  intro h
  have hmem : '-' ∈ (Nat.repr n).toList := by
    rw [← h, String.toList_append]
    exact List.mem_append_left _ (by decide)
  exact absurd (isDigit_of_mem_repr hmem) (by decide)

/-- Numbers are written in their own ways. -/
theorem toString_inj {m n : Int} (h : toString m = toString n) : m = n := by
  rw [Int.toString_eq_repr, Int.toString_eq_repr] at h
  -- A sign on one side only would be a digit on the other.
  cases m with
  | ofNat m =>
    cases n with
    | ofNat n => exact congrArg Int.ofNat (repr_inj h)
    | negSucc n => exact absurd h.symm (hyphen_append_repr_ne _ _)
  | negSucc m =>
    cases n with
    | ofNat n => exact absurd h (hyphen_append_repr_ne _ _)
    | negSucc n =>
      have hdigits : Nat.repr (m + 1) = Nat.repr (n + 1) := by
        have hlists := congrArg String.toList h
        simp only [Int.repr, String.toList_append] at hlists
        exact String.toList_inj.mp (List.append_cancel_left hlists)
      exact congrArg Int.negSucc (Nat.succ.inj (repr_inj hdigits))

/-- A number is written with digits and a hyphen. -/
theorem isDigit_or_of_mem_toString {n : Int} {c : Char} (h : c ∈ (toString n).toList) :
    c.isDigit ∨ c = '-' := by
  rw [Int.toString_eq_repr] at h
  cases n with
  | ofNat m => exact .inl (isDigit_of_mem_repr h)
  | negSucc m =>
    rw [Int.repr, String.toList_append, List.mem_append] at h
    obtain h | h := h
    · right
      simpa using h
    · exact .inl (isDigit_of_mem_repr h)

/-- A character that is neither a digit nor a hyphen is in no number. -/
theorem notMem_toString {c : Char} (hdigit : c.isDigit = false) (hhyphen : c ≠ '-') (n : Int) :
    c ∉ (toString n).toList := by
  intro h
  obtain h | h := isDigit_or_of_mem_toString h
  · rw [hdigit] at h
    exact Bool.false_ne_true h
  · exact hhyphen h

end Text

/-! ### Tags -/

/-- A text without commas and line feeds. -/
def Data.IsPlain (d : Data) : Prop :=
  ∃ s, d = .str s ∧ ',' ∉ s.toList ∧ '\n' ∉ s.toList

theorem Data.isPlain_of_notMem {s : String} (hcomma : ',' ∉ s.toList) (hbreak : '\n' ∉ s.toList) :
    (Data.str s).IsPlain :=
  ⟨s, rfl, hcomma, hbreak⟩

/-- The letter of a kind as a character. -/
def TagKind.character : TagKind → Char
  | definition => 'D'
  | reference => 'R'

theorem TagKind.toList_letter (k : TagKind) : k.letter.toList = [k.character] := by
  cases k <;> decide

/-- Letters are no marks. -/
theorem TagKind.notMem_letter (k : TagKind) :
    ',' ∉ k.letter.toList ∧ '\n' ∉ k.letter.toList := by
  rw [toList_letter]
  cases k <;> decide

/-- Kinds have letters of their own. -/
theorem TagKind.letter_inj {k k' : TagKind} (h : k.letter = k'.letter) : k = k' := by
  cases k <;> cases k' <;> first | rfl | exact absurd h (by decide)

/-- A tag of a path that can be read back from its text. -/
structure Tag.IsReadable (path : String) (t : Tag) : Prop where
  path_eq : t.path = path
  isPlain_name : t.name.IsPlain
  lineFeed_notMem : '\n' ∉ t.sourceLine.toList

namespace Tag

/-- The text form with the marks behind its fields. -/
theorem toList_render (t : Tag) :
    t.render.toList = t.kind.letter.toList ++ ',' :: (t.name.text.toList ++ ',' ::
      (t.path.toList ++ ',' :: ((toString t.line).toList ++ ':' ::
        ((toString (t.column + 1)).toList ++ ',' :: t.sourceLine.toList)))) := by
  have hcomma : ",".toList = [','] := by decide
  have hcolon : ":".toList = [':'] := by decide
  simp only [render, String.toList_append, hcomma, hcolon, List.append_assoc,
    List.cons_append, List.nil_append]

/-- Readable tags take one line each, if their path does. -/
theorem IsReadable.lineFeed_notMem_render {path : String} {t : Tag} (h : t.IsReadable path)
    (hpath : '\n' ∉ path.toList) : '\n' ∉ t.render.toList := by
  obtain ⟨name, hname, -, hbreak⟩ := h.isPlain_name
  have hline := Text.notMem_toString (c := '\n') (by decide) (by decide) t.line
  have hcolumn := Text.notMem_toString (c := '\n') (by decide) (by decide) (t.column + 1)
  rw [toList_render, h.path_eq, hname]
  simp only [Data.text, List.mem_append, List.mem_cons, not_or]
  exact ⟨t.kind.notMem_letter.2, by decide, hbreak, by decide, hpath, by decide, hline, by decide,
    hcolumn, by decide, h.lineFeed_notMem⟩

/-- **Reading a tag back.**  Readable tags of one path that are written alike are equal. -/
theorem render_inj {path : String} {t t' : Tag} (h : t.IsReadable path) (h' : t'.IsReadable path)
    (heq : t.render = t'.render) : t = t' := by
  obtain ⟨name, hname, hcomma, -⟩ := h.isPlain_name
  obtain ⟨name', hname', hcomma', -⟩ := h'.isPlain_name
  have hcolon : ∀ n : Int, ':' ∉ (toString n).toList :=
    Text.notMem_toString (by decide) (by decide)
  have hmark : ∀ n : Int, ',' ∉ (toString n).toList :=
    Text.notMem_toString (by decide) (by decide)
  replace heq := congrArg String.toList heq
  rw [toList_render, toList_render, h.path_eq, h'.path_eq, hname, hname'] at heq
  -- the fields come off one by one, and the path is the same on both sides
  obtain ⟨hkind, heq⟩ := Text.field_inj t.kind.notMem_letter.1 t'.kind.notMem_letter.1 heq
  obtain ⟨hnames, heq⟩ := Text.field_inj hcomma hcomma' heq
  replace heq := (List.cons.inj (List.append_cancel_left heq)).2
  obtain ⟨hline, heq⟩ := Text.field_inj (hcolon _) (hcolon _) heq
  obtain ⟨hcolumn, hsource⟩ := Text.field_inj (hmark _) (hmark _) heq
  have hcolumn : t.column + 1 = t'.column + 1 := Text.toString_inj (String.toList_inj.mp hcolumn)
  have hkind : t.kind = t'.kind := TagKind.letter_inj (String.toList_inj.mp hkind)
  have hname : t.name = t'.name := by rw [hname, hname', String.toList_inj.mp hnames]
  have hpath : t.path = t'.path := by rw [h.path_eq, h'.path_eq]
  have hline : t.line = t'.line := Text.toString_inj (String.toList_inj.mp hline)
  have hsource : t.sourceLine = t'.sourceLine := String.toList_inj.mp hsource
  cases t
  cases t'
  simp only [mk.injEq]
  exact ⟨hkind, hname, hpath, hline, by simpa using hcolumn, hsource⟩

end Tag

/-! ### Reports -/

/-- Readable tags of one path are told apart line by line. -/
theorem eq_of_map_render_eq {path : String} {tags tags' : List Tag}
    (h : ∀ t ∈ tags, t.IsReadable path) (h' : ∀ t ∈ tags', t.IsReadable path)
    (heq : tags.map Tag.render = tags'.map Tag.render) : tags = tags' := by
  induction tags generalizing tags' with
  | nil => exact (List.map_eq_nil_iff.mp heq.symm).symm
  | cons t tags ih =>
    obtain ⟨t', rest, rfl, hrender, hrest⟩ := List.map_eq_cons_iff.mp heq.symm
    rw [List.forall_mem_cons] at h h'
    rw [Tag.render_inj h.1 h'.1 hrender.symm, ih h.2 h'.2 hrest.symm]

namespace Report

/-- The text form of a report: its tags, each on a line of its own. -/
def text (r : Report) : String :=
  String.join (r.render.map fun line => line ++ "\n")

theorem toList_text (r : Report) :
    r.text.toList = (r.render.map String.toList).flatMap fun line => line ++ ['\n'] := by
  have hbreak : "\n".toList = ['\n'] := by decide
  rw [text, String.toList_join, List.flatMap_map, List.flatMap_map]
  simp only [String.toList_append, hbreak]

/-- The lines of the text are the text forms of the tags. -/
theorem lines_text {path : String} (hpath : '\n' ∉ path.toList) {r : Report}
    (h : ∀ t ∈ r.tags, t.IsReadable path) :
    Text.lines r.text.toList = r.render.map String.toList ++ [[]] := by
  rw [toList_text]
  refine Text.lines_terminated ?_
  rw [render, List.map_map, List.forall_mem_map]
  exact fun t ht => (h t ht).lineFeed_notMem_render hpath

/-- Reports with readable tags of one path are told apart by their text. -/
theorem tags_eq_of_text_eq {path : String} (hpath : '\n' ∉ path.toList) {r r' : Report}
    (h : ∀ t ∈ r.tags, t.IsReadable path) (h' : ∀ t ∈ r'.tags, t.IsReadable path)
    (heq : r.text = r'.text) : r.tags = r'.tags := by
  -- both sides are read back from one text
  have hlines := lines_text hpath h
  rw [heq, lines_text hpath h'] at hlines
  have hrendered : r.render = r'.render :=
    List.map_injective_iff.mpr (fun _ _ => String.toList_inj.mp)
      (List.append_cancel_right hlines).symm
  exact eq_of_map_render_eq h h' hrendered

end Report

/-! ### Emissions -/

namespace Selector

/-- The names that a lookup finds are plain. -/
theorem isPlain_of_mem_references {c : Classifier} {source : List Char} {o : Occurrence}
    {r : Reference} (h : r ∈ references c source o) : (Data.str r.name).IsPlain := by
  unfold references at h
  split at h
  · obtain ⟨segment, -, hr⟩ := List.mem_flatMap.mp h
    obtain ⟨f, hf, rfl⟩ := List.mem_map.mp hr
    -- The scanner takes name characters only, and neither separator is one.
    have hpart := (standsIn_of_mem_scan hf).isNamePart
    refine Data.isPlain_of_notMem ?_ ?_
    · rw [String.toList_ofList]
      exact fun hcomma => absurd (hpart _ hcomma) (by decide)
    · rw [String.toList_ofList]
      exact fun hbreak => (ne_lineBreak_of_isNamePart (hpart _ hbreak)).1 rfl
  · simp at h

end Selector

namespace Emission

/-- The identifiers that get a tag have plain texts as names. -/
def NamedPlainly (e : Emission) : Prop :=
  ∀ o ∈ e.reported, ∀ tag, e.ownTag? e.sourceLines o = some tag → tag.name.IsPlain

variable {e : Emission} {o : Occurrence} {tag : Tag}

/-- The tags of a report have its path, and quote a line. -/
theorem of_mem_tagsOf (h : tag ∈ e.tagsOf e.sourceLines o) :
    tag.path = e.path ∧ '\n' ∉ tag.sourceLine.toList := by
  rw [tagsOf, List.mem_append, Option.mem_toList] at h
  obtain h | h := h
  · obtain ⟨kind, -, rfl⟩ := Option.map_eq_some_iff.mp h
    exact ⟨rfl, Text.lineFeed_notMem_lineText _ _⟩
  · obtain ⟨r, -, rfl⟩ := List.mem_map.mp h
    exact ⟨rfl, Text.lineFeed_notMem_lineText _ _⟩

/-- The names of selector tags are plain. -/
theorem isPlain_name_of_mem_selectorTags (h : tag ∈ e.selectorTags e.sourceLines o) :
    tag.name.IsPlain := by
  obtain ⟨r, hr, rfl⟩ := List.mem_map.mp h
  exact Selector.isPlain_of_mem_references hr

/-- The tags of a report are readable if its identifiers are named plainly. -/
theorem isReadable_of_mem_report (hnamed : e.NamedPlainly) (h : tag ∈ e.report.tags) :
    tag.IsReadable e.path := by
  obtain ⟨o, ho, htag⟩ := List.mem_flatMap.mp h
  obtain ⟨hpath, hbreak⟩ := of_mem_tagsOf htag
  refine ⟨hpath, ?_, hbreak⟩
  rw [tagsOf, List.mem_append, Option.mem_toList] at htag
  exact htag.elim (hnamed o ho tag) isPlain_name_of_mem_selectorTags

end Emission

/-- **Unambiguous text.**  Take two reports on one path without line feeds, from any trees, rules,
    policies, sources and offsets.  If the identifiers of both are named by texts without commas
    and line feeds, and the tags are written alike, each on a line of its own, then the tags are
    the same in every field.  The names of selector tags are such texts by construction, and no
    quoted line has a line feed in it. -/
theorem report_text_injective :
    (∀ (e : Emission) (o : Occurrence), ∀ tag ∈ e.selectorTags e.sourceLines o,
      tag.name.IsPlain) ∧
    (∀ e : Emission, ∀ tag ∈ e.report.tags, '\n' ∉ tag.sourceLine.toList) ∧
    ∀ e e' : Emission, e.path = e'.path → '\n' ∉ e.path.toList →
      e.NamedPlainly → e'.NamedPlainly →
      e.report.text = e'.report.text → e.report.tags = e'.report.tags := by
  refine ⟨fun e o tag => Emission.isPlain_name_of_mem_selectorTags, fun e tag htag => ?_, ?_⟩
  · obtain ⟨o, -, htag⟩ := List.mem_flatMap.mp htag
    exact (Emission.of_mem_tagsOf htag).2
  · intro e e' hpath hbreak hnamed hnamed' heq
    -- Every line of either text can be read back.
    have hreadable : ∀ tag ∈ e.report.tags, tag.IsReadable e.path :=
      fun tag => Emission.isReadable_of_mem_report hnamed
    have hreadable' : ∀ tag ∈ e'.report.tags, tag.IsReadable e.path := by
      rw [hpath]
      exact fun tag => Emission.isReadable_of_mem_report hnamed'
    exact Report.tags_eq_of_text_eq hbreak hreadable hreadable' heq

/-- A statement that uses a name. -/
def placedUse (column : Int) : Node :=
  { type := some "ExpressionStatement"
    attributes := [("expression", .node (Tree.sampleName 1 "x" column))] }

/-- The statement in a line that goes on like a tag, in a file whose name does so too. -/
def commaEmission (column columnOffset : Int) : Emission where
  classifier := { tree := Tree.ofRoot (placedUse column) }
  source := "x + x,1:2,".toList
  path := "a,1:2,.js"
  columnOffset := columnOffset

theorem report_text_injective_commaEmission :
    let e := commaEmission 0 (-3)
    let e' := commaEmission 4 (-7)
    e.path = e'.path ∧ '\n' ∉ e.path.toList ∧ e.NamedPlainly ∧ e'.NamedPlainly ∧
      e.report.text = "R,x,a,1:2,.js,1:-2,x + x,1:2,\n" ∧
      e.report.text = e'.report.text ∧
      e.report.tags = e'.report.tags := by
  intro e e'
  have hbreak : '\n' ∉ e.path.toList := by decide
  have hplain : (Data.str "x").IsPlain := Data.isPlain_of_notMem (by decide) (by decide)
  have hnamed : ∀ column offset : Int, (commaEmission column offset).NamedPlainly := by
    intro column offset o ho tag htag
    have hreported : (commaEmission column offset).reported.map (·.name) = [.str "x"] := by
      rw [Emission.reported_eq (by cbv)]
      cbv
    have hname : o.name = .str "x" := by
      simpa [hreported] using List.mem_map_of_mem (f := (·.name)) ho
    obtain ⟨kind, -, rfl⟩ := Option.map_eq_some_iff.mp htag
    show (Emission.shownName o).IsPlain
    rw [Emission.shownName, hname]
    exact hplain
  have htext : e.report.text = "R,x,a,1:2,.js,1:-2,x + x,1:2,\n" := by decide +kernel
  have htext' : e'.report.text = "R,x,a,1:2,.js,1:-2,x + x,1:2,\n" := by decide +kernel
  have heq := htext.trans htext'.symm
  exact ⟨rfl, hbreak, hnamed _ _, hnamed _ _, htext, heq,
    report_text_injective.2.2 e e' rfl hbreak (hnamed _ _) (hnamed _ _) heq⟩

end SymbolTags
