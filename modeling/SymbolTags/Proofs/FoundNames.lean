import Mathlib.Data.List.DropRight
import Mathlib.Data.List.TakeWhile
import SymbolTags.Proofs.LinePosition
import SymbolTags.Selector.Lookup

namespace SymbolTags.Selector

open Text

/-!
# Found names — scans find exactly the names of a text

A scan goes from left to right and resumes behind each name that it finds.  What it finds can be
told without this order, by looking at one place of the text at a time:

* `RunIn` — name characters that stand in a text and go on as far as they can;
* `WordIn` — a bare word is a whole run that starts like a name and does not follow a dollar
  sign.  `mem_scanWordsFrom_iff` says that the words from a place on are those that a scan finds
  from there;
* `SelectorIn` — a class or id name is the run behind a mark, unless the mark stands in an
  attribute selector.  `mem_scanSelectorsFrom_iff` says so of a scan that has not stopped inside
  of one;
* `lookup_finds_bareWords` and `lookup_finds_selectorNames` — hence the names that a lookup finds
  in a text, and their order.
-/

/-! ### Runs -/

/-- A text cut in three: in the middle there are name characters, and these go on as far as they
    can. -/
structure RunIn (cs before run after : List Char) : Prop where
  cut : cs = before ++ run ++ after
  isNamePart : ∀ c ∈ run, isNamePart c = true
  not_after : ∀ c ∈ after.head?, Selector.isNamePart c = false

/-- A name without the hyphens at its end. -/
def withoutHyphens (run : List Char) : List Char :=
  dropEndWhile (· == '-') run

/-- What goes on as far as it can is what is taken from the start of its text. -/
theorem RunIn.takeWhile_eq {cs before run after : List Char} (h : RunIn cs before run after) :
    (run ++ after).takeWhile Selector.isNamePart = run := by
  have hafter : after.takeWhile Selector.isNamePart = [] := by
    cases after with
    | nil => rfl
    | cons c rest => rw [List.takeWhile_cons_of_neg (by simp [h.not_after c rfl])]
  rw [List.takeWhile_append_of_pos h.isNamePart, hafter, List.append_nil]

/-- At every place of a text a run starts, which may be empty. -/
theorem runIn_takeWhile (before cs : List Char) :
    RunIn (before ++ cs) before (cs.takeWhile isNamePart) (cs.dropWhile isNamePart) where
  cut := by rw [List.append_assoc, List.takeWhile_append_dropWhile]
  isNamePart _ hc := List.mem_takeWhile_imp hc
  not_after c hc := by
    have hfirst := List.head?_dropWhile_not isNamePart cs
    rw [Option.mem_def.mp hc] at hfirst
    exact hfirst

/-- Of two cuts of one text, the later one cuts what follows the earlier. -/
theorem exists_mid {before tail pre cs : List Char} (h : before ++ tail = pre ++ cs)
    (hle : pre.length ≤ before.length) : ∃ mid, before = pre ++ mid ∧ cs = mid ++ tail := by
  rcases List.append_eq_append_iff.mp h with ⟨mid, hpre, htail⟩ | ⟨mid, hbefore, hcs⟩
  · -- the first cut is not the shorter one, so both cut at the same place
    have hmid : mid = [] := by
      rw [hpre, List.length_append] at hle
      exact List.eq_nil_of_length_eq_zero (by omega)
    subst hmid
    exact ⟨[], by simpa using hpre.symm, by simpa using htail.symm⟩
  · exact ⟨mid, hbefore, hcs⟩

/-- A name may go on with whatever it may start with. -/
theorem isNamePart_of_isNameStart {c : Char} (h : isNameStart c = true) : isNamePart c = true := by
  rw [isNamePart, isWord_of_isNameStart h, Bool.true_or]

/-- Hyphens are dropped behind the start of a name alone. -/
theorem withoutHyphens_cons {c : Char} (h : c ≠ '-') (run : List Char) :
    withoutHyphens (c :: run) = c :: withoutHyphens run :=
  dropEndWhile_append (by simpa using h : ∀ d ∈ [c].getLast?, (d == '-') = false)

theorem ne_hyphen_of_isNameStart {c : Char} (h : isNameStart c = true) : c ≠ '-' := by
  rintro rfl
  exact absurd h (by decide)

/-- The run at the start of a name, without the hyphens at its end. -/
theorem withoutHyphens_takeWhile {c : Char} (h : isNameStart c = true) (rest : List Char) :
    withoutHyphens ((c :: rest).takeWhile isNamePart) = c :: nameTail rest := by
  rw [List.takeWhile_cons_of_pos (isNamePart_of_isNameStart h),
    withoutHyphens_cons (ne_hyphen_of_isNameStart h)]
  rfl

theorem nameTail_isPrefix (cs : List Char) : nameTail cs <+: cs :=
  (List.rdropWhile_prefix _ _).trans (List.takeWhile_prefix _)

/-- A name goes on with name characters. -/
theorem isNamePart_of_mem_nameTail {cs : List Char} {c : Char} (h : c ∈ nameTail cs) :
    isNamePart c = true :=
  List.mem_takeWhile_imp ((List.rdropWhile_prefix _ _).subset h)

/-! ### Bare words -/

/-- A bare word of a text: a run of name characters that is maximal on both sides, starts like a
    name and does not follow a dollar sign. -/
structure WordIn (cs : List Char) (f : Found) (before run after : List Char) : Prop
    extends RunIn cs before run after where
  not_before : ∀ c ∈ before.getLast?, Selector.isNamePart c = false
  not_dollar : before.getLast? ≠ some '$'
  isNameStart : ∃ c more, run = c :: more ∧ isNameStart c = true
  name_eq : f.name = withoutHyphens run
  offset_eq : f.offset = before.length

/-- What stands before a bare word: no part of a name, and no dollar sign. -/
theorem any_hindersWord_eq_false_iff (before : Option Char) :
    before.any hindersWord = false ↔
      (∀ c ∈ before, isNamePart c = false) ∧ before ≠ some '$' := by
  cases before with
  | none => simp
  | some c => simp [hindersWord]

/-- **One place.**  Whether a bare word starts at a place is seen from the characters on its two
    sides. -/
theorem exists_wordIn_at_iff (pre : List Char) (c : Char) (rest : List Char) (f : Found) :
    (∃ run after, WordIn (pre ++ c :: rest) f pre run after) ↔
      (isNameStart c && !pre.getLast?.any hindersWord) = true ∧
        f = ⟨c :: nameTail rest, pre.length⟩ := by
  rw [Bool.and_eq_true, Bool.not_eq_true', any_hindersWord_eq_false_iff]
  constructor
  · rintro ⟨run, after, h⟩
    have hcut : c :: rest = run ++ after := by
      have hcut := h.cut
      rwa [List.append_assoc, List.append_cancel_left_eq] at hcut
    obtain ⟨d, more, rfl, hstart⟩ := h.isNameStart
    obtain rfl : c = d := (List.cons.inj hcut).1
    have hname := h.name_eq
    rw [← h.takeWhile_eq, ← hcut, withoutHyphens_takeWhile hstart] at hname
    refine ⟨⟨hstart, h.not_before, h.not_dollar⟩, ?_⟩
    rw [← hname, ← h.offset_eq]
  · rintro ⟨⟨hstart, hbefore, hdollar⟩, rfl⟩
    refine ⟨_, _, runIn_takeWhile pre (c :: rest), hbefore, hdollar, ?_, ?_, rfl⟩
    · exact ⟨c, _, List.takeWhile_cons_of_pos (isNamePart_of_isNameStart hstart), hstart⟩
    · rw [withoutHyphens_takeWhile hstart]

/-- No word starts behind a name character. -/
theorem WordIn.length_le {pre passed rest before run after : List Char} {f : Found}
    (h : WordIn (pre ++ passed ++ rest) f before run after)
    (hpassed : ∀ c ∈ passed, Selector.isNamePart c = true) (hlt : pre.length < before.length) :
    pre.length + passed.length ≤ before.length := by
  have hcut : before ++ (run ++ after) = pre ++ (passed ++ rest) := by
    rw [← List.append_assoc, ← h.cut, List.append_assoc]
  obtain ⟨mid, rfl, hrest⟩ := exists_mid hcut (by omega)
  by_contra hshort
  rw [List.length_append] at hshort hlt
  -- the word would follow a character of what has been passed over
  obtain ⟨more, hmore, -⟩ := exists_mid hrest (by omega)
  have hne : mid ≠ [] := List.ne_nil_of_length_pos (by omega)
  have hlast : mid.getLast hne ∈ (pre ++ mid).getLast? := by
    rw [List.getLast?_append, List.getLast?_eq_getLast_of_ne_nil hne]
    rfl
  have hmem : mid.getLast hne ∈ passed := by
    rw [hmore]
    exact List.mem_append_left _ (List.getLast_mem hne)
  have := h.not_before _ hlast
  rw [hpassed _ hmem] at this
  cases this

/-- Words from a place on start at this place or behind it. -/
theorem exists_wordIn_iff (pre cs : List Char) (f : Found) :
    (pre.length ≤ f.offset ∧ ∃ before run after, WordIn (pre ++ cs) f before run after) ↔
      (∃ run after, WordIn (pre ++ cs) f pre run after) ∨
        (pre.length < f.offset ∧ ∃ before run after, WordIn (pre ++ cs) f before run after) := by
  constructor
  · rintro ⟨hle, before, run, after, h⟩
    rcases hle.lt_or_eq with hlt | heq
    · exact .inr ⟨hlt, before, run, after, h⟩
    · -- a text is cut at one length in one way
      have hcut := h.cut
      rw [List.append_assoc] at hcut
      obtain rfl : pre = before := (List.append_inj hcut (heq.trans h.offset_eq)).1
      exact .inl ⟨run, after, h⟩
  · rintro (⟨run, after, h⟩ | ⟨hlt, h⟩)
    · exact ⟨h.offset_eq.ge, pre, run, after, h⟩
    · exact ⟨hlt.le, h⟩

/-- **Words from a place on.**  A scan that starts behind `pre` finds the bare words of the text
    that start there or later. -/
theorem mem_scanWordsFrom_iff (pre cs : List Char) (f : Found) :
    f ∈ scanWordsFrom pre.getLast? pre.length cs ↔
      pre.length ≤ f.offset ∧ ∃ before run after, WordIn (pre ++ cs) f before run after := by
  generalize hchar : pre.getLast? = char, hoffset : pre.length = offset
  fun_induction scanWordsFrom char offset cs generalizing pre with
  | case1 char offset =>
    rw [List.append_nil]
    refine iff_of_false List.not_mem_nil ?_
    rintro ⟨hle, before, run, after, h⟩
    -- a word has a character, so it does not start at the end of the text
    obtain ⟨c, more, rfl, -⟩ := h.isNameStart
    have hlength := congrArg List.length h.cut
    rw [h.offset_eq] at hle
    simp only [List.length_append, List.length_cons] at hlength
    omega
  | case2 char offset c rest hstart name ih =>
    have htext : pre ++ c :: rest = pre ++ name ++ rest.drop (nameTail rest).length := by
      rw [List.append_assoc, List.cons_append,
        List.prefix_iff_eq_append.mp (nameTail_isPrefix rest)]
    have hlast : (pre ++ name).getLast? = name.getLast? := by
      rw [List.getLast?_append, Option.or_of_isSome (by simp [name])]
    have hname : ∀ d ∈ name, isNamePart d = true := by
      intro d hd
      rcases List.mem_cons.mp hd with rfl | hd
      · exact isNamePart_of_isNameStart (Bool.and_eq_true_iff.mp hstart).1
      · exact isNamePart_of_mem_nameTail hd
    subst hchar hoffset
    rw [exists_wordIn_iff, exists_wordIn_at_iff, List.mem_cons,
      ih (pre ++ name) hlast List.length_append, ← htext]
    refine or_congr (by rw [and_iff_right hstart]) (and_congr_left ?_)
    rintro ⟨before, run, after, h⟩
    -- the next word starts behind this one
    rw [htext] at h
    have hpositive : 0 < name.length := Nat.succ_pos _
    have hbehind := h.length_le hname
    rw [h.offset_eq]
    omega
  | case3 char offset c rest hstart ih =>
    have htext : pre ++ c :: rest = pre ++ [c] ++ rest := by simp
    subst hchar hoffset
    rw [exists_wordIn_iff, exists_wordIn_at_iff, ih (pre ++ [c]) (by simp) List.length_append,
      ← htext]
    rw [or_iff_right fun h => hstart h.1, Nat.add_one_le_iff]

/-- The scanner only moves forward. -/
theorem le_offset_of_mem_scanWordsFrom {before : Option Char} {offset : Nat} {cs : List Char}
    {f : Found} (h : f ∈ scanWordsFrom before offset cs) : offset ≤ f.offset := by
  fun_induction scanWordsFrom before offset cs with
  | case1 => simp at h
  | case2 before offset c rest _ name ih =>
    rcases List.mem_cons.mp h with rfl | h
    · exact le_rfl
    · have := ih h
      omega
  | case3 before offset c rest _ ih =>
    have := ih h
    omega

/-- **Order.**  Words are found from left to right, each once. -/
theorem scanWordsFrom_pairwise (before : Option Char) (offset : Nat) (cs : List Char) :
    (scanWordsFrom before offset cs).Pairwise fun f g => f.offset < g.offset := by
  fun_induction scanWordsFrom before offset cs with
  | case1 => exact .nil
  | case2 before offset c rest _ name ih =>
    refine .cons (fun g hg => ?_) ih
    have hbehind := le_offset_of_mem_scanWordsFrom hg
    have hlength : name.length = (nameTail rest).length + 1 := rfl
    show offset < g.offset
    omega
  | case3 before offset c rest _ ih => exact ih

/-! ### Selector names -/

/-- The brackets around an attribute selector. -/
def isBracket (c : Char) : Bool :=
  c == '[' || c == ']'

/-- The last bracket of a text. -/
def lastBracket? (cs : List Char) : Option Char :=
  (cs.filter isBracket).getLast?

/-- A text that starts like a name, or with one hyphen before such a start. -/
def StartsName (cs : List Char) : Prop :=
  ∃ c more, (cs = c :: more ∨ cs = '-' :: c :: more) ∧ isNameStart c = true

/-- A class or id name of a text: the run behind a dot or a number sign, if it starts like one.
    It is not the case that the nearest bracket before the mark opens an attribute selector and
    that some bracket behind the mark closes one. -/
structure SelectorIn (cs : List Char) (f : Found) (before : List Char) (mark : Char)
    (run after : List Char) : Prop extends RunIn cs (before ++ [mark]) run after where
  isMark : mark = '.' ∨ mark = '#'
  startsName : StartsName run
  outside : ¬(lastBracket? before = some '[' ∧ ']' ∈ run ++ after)
  name_eq : f.name = withoutHyphens run
  offset_eq : f.offset = before.length + 1

/-- Whether a text starts like a name is seen from its first run. -/
theorem startsName_takeWhile_iff (cs : List Char) :
    StartsName (cs.takeWhile isNamePart) ↔ StartsName cs := by
  constructor
  · rintro ⟨c, more, hrun, hstart⟩
    have hcut : cs.takeWhile isNamePart ++ cs.dropWhile isNamePart = cs :=
      List.takeWhile_append_dropWhile
    rcases hrun with hrun | hrun
    · rw [hrun] at hcut
      exact ⟨c, _, .inl hcut.symm, hstart⟩
    · rw [hrun] at hcut
      exact ⟨c, _, .inr hcut.symm, hstart⟩
  · rintro ⟨c, more, rfl | rfl, hstart⟩
    · exact ⟨c, _, .inl (List.takeWhile_cons_of_pos (isNamePart_of_isNameStart hstart)), hstart⟩
    · refine ⟨c, more.takeWhile isNamePart, .inr ?_, hstart⟩
      rw [List.takeWhile_cons_of_pos (by decide),
        List.takeWhile_cons_of_pos (isNamePart_of_isNameStart hstart)]

/-- A name with a hyphen in front keeps it. -/
theorem withoutHyphens_takeWhile_hyphen {c : Char} (h : isNameStart c = true) (rest : List Char) :
    withoutHyphens (('-' :: c :: rest).takeWhile isNamePart) = '-' :: c :: nameTail rest := by
  rw [List.takeWhile_cons_of_pos (by decide),
    List.takeWhile_cons_of_pos (isNamePart_of_isNameStart h)]
  have hkeep : ∀ d ∈ ['-', c].getLast?, (d == '-') = false := by
    simpa using ne_hyphen_of_isNameStart h
  exact dropEndWhile_append hkeep

/-- **Names behind a mark.**  They are the first run of their text, if it starts like a name. -/
theorem selectorName?_eq_some_iff (cs name : List Char) :
    selectorName? cs = some name ↔
      StartsName cs ∧ name = withoutHyphens (cs.takeWhile isNamePart) := by
  constructor
  · intro h
    unfold selectorName? at h
    split at h
    · rename_i c rest
      split_ifs at h with hstart
      exact ⟨⟨c, rest, .inr rfl, hstart⟩,
        by rw [withoutHyphens_takeWhile_hyphen hstart, Option.some.inj h]⟩
    · rename_i c rest _
      split_ifs at h with hstart
      exact ⟨⟨c, rest, .inl rfl, hstart⟩,
        by rw [withoutHyphens_takeWhile hstart, Option.some.inj h]⟩
    · simp at h
  · rintro ⟨⟨c, rest, rfl | rfl, hstart⟩, rfl⟩
    · rw [withoutHyphens_takeWhile hstart]
      have hne := ne_hyphen_of_isNameStart hstart
      cases rest <;> simp [selectorName?, hstart, hne]
    · rw [withoutHyphens_takeWhile_hyphen hstart, selectorName?, if_pos hstart]

theorem selectorName?_isPrefix {cs name : List Char} (h : selectorName? cs = some name) :
    name <+: cs := by
  rw [((selectorName?_eq_some_iff _ _).mp h).2]
  exact (List.rdropWhile_prefix _ _).trans (List.takeWhile_prefix _)

/-- A selector name is made of name characters. -/
theorem isNamePart_of_mem_selectorName? {cs name : List Char} (h : selectorName? cs = some name)
    {c : Char} (hc : c ∈ name) : isNamePart c = true := by
  rw [((selectorName?_eq_some_iff _ _).mp h).2] at hc
  exact List.mem_takeWhile_imp ((List.rdropWhile_prefix _ _).subset hc)

/-- **One place.**  Whether a selector name follows a place outside of attribute selectors is
    seen from the mark at the place and from what follows it. -/
theorem exists_selectorIn_at_iff (pre : List Char) (c : Char) (rest : List Char) (f : Found)
    (hout : lastBracket? pre = some '[' → ']' ∉ c :: rest) :
    (∃ mark run after, SelectorIn (pre ++ c :: rest) f pre mark run after) ↔
      (c = '.' ∨ c = '#') ∧ ∃ name, selectorName? rest = some name ∧
        f = ⟨name, pre.length + 1⟩ := by
  have htext : pre ++ c :: rest = pre ++ [c] ++ rest := by simp
  rw [htext]
  constructor
  · rintro ⟨mark, run, after, h⟩
    have hcut := h.cut
    rw [List.append_assoc (pre ++ [mark])] at hcut
    obtain ⟨hmark, rfl⟩ := List.append_inj hcut (by simp)
    obtain rfl : c = mark := by simpa using hmark
    refine ⟨h.isMark, f.name, (selectorName?_eq_some_iff _ _).mpr ⟨?_, ?_⟩, ?_⟩
    · rw [← startsName_takeWhile_iff, h.takeWhile_eq]
      exact h.startsName
    · rw [h.takeWhile_eq]
      exact h.name_eq
    · rw [← h.offset_eq]
  · rintro ⟨hmark, name, hname, rfl⟩
    obtain ⟨hstart, rfl⟩ := (selectorName?_eq_some_iff _ _).mp hname
    refine ⟨c, _, _, runIn_takeWhile (pre ++ [c]) rest, hmark,
      (startsName_takeWhile_iff rest).mpr hstart, ?_, rfl, rfl⟩
    rw [List.takeWhile_append_dropWhile]
    exact fun h => hout h.1 (List.mem_cons_of_mem c h.2)

/-- Selector names from a place on follow this place or a later one. -/
theorem exists_selectorIn_iff (pre cs : List Char) (f : Found) :
    (pre.length < f.offset ∧
        ∃ before mark run after, SelectorIn (pre ++ cs) f before mark run after) ↔
      (∃ mark run after, SelectorIn (pre ++ cs) f pre mark run after) ∨
        (pre.length + 1 < f.offset ∧
          ∃ before mark run after, SelectorIn (pre ++ cs) f before mark run after) := by
  constructor
  · rintro ⟨hlt, before, mark, run, after, h⟩
    have hoffset := h.offset_eq
    by_cases heq : pre.length = before.length
    · have hcut := h.cut
      rw [List.append_assoc, List.append_assoc] at hcut
      obtain rfl : pre = before := (List.append_inj hcut heq).1
      exact .inl ⟨mark, run, after, h⟩
    · exact .inr ⟨by omega, before, mark, run, after, h⟩
  · rintro (⟨mark, run, after, h⟩ | ⟨hlt, h⟩)
    · exact ⟨by rw [h.offset_eq]; omega, pre, mark, run, after, h⟩
    · exact ⟨by omega, h⟩

/-- A mark that is passed over stands in what is passed over. -/
theorem SelectorIn.exists_mid {pre passed rest before run after : List Char} {mark : Char}
    {f : Found} (h : SelectorIn (pre ++ passed ++ rest) f before mark run after)
    (hle : pre.length ≤ before.length) (hlt : before.length < pre.length + passed.length) :
    ∃ mid more, before = pre ++ mid ∧ passed = mid ++ mark :: more ∧
      run ++ after = more ++ rest := by
  have hcut : before ++ (mark :: run ++ after) = pre ++ (passed ++ rest) := by
    rw [← List.append_assoc pre, h.cut]
    simp
  obtain ⟨mid, rfl, hmid⟩ := Selector.exists_mid hcut hle
  rw [List.length_append] at hlt
  obtain ⟨more, rfl, hmore⟩ := Selector.exists_mid hmid (by omega)
  cases more with
  | nil =>
    rw [List.append_nil] at hlt
    omega
  | cons c more =>
    obtain ⟨rfl, hrest⟩ := List.cons.inj hmore
    exact ⟨mid, more, rfl, rfl, hrest⟩

/-- The last bracket of the later text, or else that of the earlier. -/
theorem lastBracket?_append (a b : List Char) :
    lastBracket? (a ++ b) = (lastBracket? b).or (lastBracket? a) := by
  rw [lastBracket?, List.filter_append, List.getLast?_append]
  rfl

/-- Name characters are no marks and no brackets. -/
theorem not_special_of_isNamePart {c : Char} (h : isNamePart c = true) :
    c ≠ '.' ∧ c ≠ '#' ∧ isBracket c = false := by
  refine ⟨?_, ?_, Bool.eq_false_iff.mpr fun hbracket => ?_⟩
  · rintro rfl
    exact absurd h (by decide)
  · rintro rfl
    exact absurd h (by decide)
  · rcases Bool.or_eq_true_iff.mp hbracket with hb | hb <;>
      exact absurd h (by rw [beq_iff_eq.mp hb]; decide)

/-- Behind an opening bracket, the last bracket opens a selector until one is closed. -/
theorem lastBracket?_of_open (pre : List Char) {mid : List Char} (h : ']' ∉ mid) :
    lastBracket? (pre ++ '[' :: mid) = some '[' := by
  have hbrackets : ∀ c ∈ '[' :: mid.filter isBracket, c = '[' := by
    intro c hc
    rcases List.mem_cons.mp hc with rfl | hc
    · rfl
    · obtain ⟨hmem, hbracket⟩ := List.mem_filter.mp hc
      rcases Bool.or_eq_true_iff.mp hbracket with hb | hb
      · exact beq_iff_eq.mp hb
      · exact absurd (beq_iff_eq.mp hb ▸ hmem) h
  have hfilter : ('[' :: mid).filter isBracket = '[' :: mid.filter isBracket := rfl
  rw [lastBracket?_append, lastBracket?, hfilter, List.getLast?_eq_getLast_of_ne_nil (by simp),
    hbrackets _ (List.getLast_mem _)]
  rfl

/-- **Passing over.**  When all marks of a piece of the text stand in attribute selectors, the
    selector names from the start of the piece on are those from its end on. -/
theorem exists_selectorIn_pass_iff {pre passed rest : List Char} {f : Found}
    (hinside : ∀ mid mark more, passed = mid ++ mark :: more → mark = '.' ∨ mark = '#' →
      lastBracket? (pre ++ mid) = some '[' ∧ ']' ∈ more ++ rest) :
    (pre.length < f.offset ∧
        ∃ before mark run after, SelectorIn (pre ++ passed ++ rest) f before mark run after) ↔
      ((pre ++ passed).length < f.offset ∧
        ∃ before mark run after, SelectorIn (pre ++ passed ++ rest) f before mark run after) := by
  rw [List.length_append]
  refine and_congr_left ?_
  rintro ⟨before, mark, run, after, h⟩
  rw [h.offset_eq]
  refine ⟨fun hlt => ?_, fun hlt => by omega⟩
  by_contra hshort
  obtain ⟨mid, more, rfl, hpassed, hrest⟩ := h.exists_mid (by omega) (by omega)
  have hin := hinside mid mark more hpassed h.isMark
  rw [← hrest] at hin
  exact h.outside hin

/-- Name characters are passed over, because there are no marks among them. -/
theorem exists_selectorIn_word_iff (pre : List Char) {word : List Char} (rest : List Char)
    (f : Found) (hword : ∀ c ∈ word, isNamePart c = true) :
    (pre.length < f.offset ∧
        ∃ before mark run after, SelectorIn (pre ++ word ++ rest) f before mark run after) ↔
      ((pre ++ word).length < f.offset ∧
        ∃ before mark run after, SelectorIn (pre ++ word ++ rest) f before mark run after) := by
  refine exists_selectorIn_pass_iff fun mid mark more hcut hmark => ?_
  have hmem : mark ∈ word := by
    rw [hcut]
    simp
  obtain ⟨hdot, hsign, -⟩ := not_special_of_isNamePart (hword mark hmem)
  exact absurd hmark (not_or.mpr ⟨hdot, hsign⟩)

/-- One step further, a scan is still outside of attribute selectors. -/
theorem outside_step {pre rest : List Char} {c : Char}
    (hout : lastBracket? pre = some '[' → ']' ∉ c :: rest) (hattribute : ¬(c = '[' ∧ ']' ∈ rest))
    (hopen : lastBracket? (pre ++ [c]) = some '[') : ']' ∉ rest := by
  intro hclose
  rw [lastBracket?_append] at hopen
  cases hbracket : isBracket c with
  | true =>
    -- a bracket is the last one now, and it does not open anything
    rw [lastBracket?, List.filter_cons_of_pos hbracket] at hopen
    exact hattribute ⟨Option.some.inj hopen, hclose⟩
  | false =>
    rw [lastBracket?, List.filter_cons_of_neg (by simp [hbracket])] at hopen
    exact hout hopen (List.mem_cons_of_mem c hclose)

/-- The marks between the brackets of an attribute selector stand in it. -/
theorem inside_attribute {pre inner rest mid more : List Char} {mark : Char} (hinner : ']' ∉ inner)
    (hcut : '[' :: inner ++ [']'] = mid ++ mark :: more) (hmark : mark = '.' ∨ mark = '#') :
    lastBracket? (pre ++ mid) = some '[' ∧ ']' ∈ more ++ rest := by
  cases mid with
  | nil =>
    -- the first character is the bracket
    obtain ⟨rfl, -⟩ := List.cons.inj hcut
    simp at hmark
  | cons d mid =>
    obtain ⟨rfl, hinside⟩ := List.cons.inj hcut
    have hlength := congrArg List.length hcut
    simp only [List.length_append, List.length_cons, List.length_nil] at hlength
    obtain ⟨tail, rfl, htail⟩ := exists_mid hinside (by omega)
    rw [List.mem_append, not_or] at hinner
    refine ⟨lastBracket?_of_open pre hinner.1, ?_⟩
    cases tail with
    | nil =>
      -- the last character is a bracket as well
      obtain ⟨rfl, -⟩ := List.cons.inj htail
      simp at hmark
    | cons d tail =>
      obtain ⟨-, rfl⟩ := List.cons.inj htail
      simp

/-- Names have no brackets. -/
theorem lastBracket?_of_isNamePart {cs : List Char} (h : ∀ c ∈ cs, isNamePart c = true) :
    lastBracket? cs = none := by
  rw [lastBracket?, List.getLast?_eq_none_iff, List.filter_eq_nil_iff]
  intro c hc
  simp [(not_special_of_isNamePart (h c hc)).2.2]

/-- **Selector names from a place on.**  A scan that starts behind `pre`, outside of attribute
    selectors, finds the selector names of the text whose mark stands there or later. -/
theorem mem_scanSelectorsFrom_iff (pre cs : List Char) (f : Found)
    (hout : lastBracket? pre = some '[' → ']' ∉ cs) :
    f ∈ scanSelectorsFrom pre.length cs ↔
      pre.length < f.offset ∧
        ∃ before mark run after, SelectorIn (pre ++ cs) f before mark run after := by
  generalize hoffset : pre.length = offset
  fun_induction scanSelectorsFrom offset cs generalizing pre with
  | case1 offset =>
    rw [List.append_nil]
    refine iff_of_false List.not_mem_nil ?_
    rintro ⟨hlt, before, mark, run, after, h⟩
    -- the mark is a character of the text
    have hlength := congrArg List.length h.cut
    rw [h.offset_eq] at hlt
    simp only [List.length_append, List.length_singleton] at hlength
    omega
  | case2 offset c rest hattribute passed ih =>
    -- an attribute selector is passed over, up to the first bracket that closes it
    subst hoffset
    obtain ⟨rfl, hclose⟩ := hattribute
    obtain ⟨inner, rest, rfl, hinner⟩ := List.eq_append_cons_of_mem hclose
    have hpassed : passed = inner.length + 1 := by
      rw [← takeWhile_ne_of_notMem hinner rest]
    have hdrop : (inner ++ ']' :: rest).drop passed = rest := by
      rw [hpassed, ← List.singleton_append, ← List.append_assoc]
      exact List.drop_left' (by simp)
    have htext : pre ++ '[' :: (inner ++ ']' :: rest) = pre ++ ('[' :: inner ++ [']']) ++ rest := by
      simp
    have hlength : (pre ++ ('[' :: inner ++ [']'])).length = pre.length + 1 + passed := by
      rw [hpassed]
      simp only [List.length_append, List.length_cons, List.length_nil]
      omega
    have hclosed : lastBracket? (pre ++ ('[' :: inner ++ [']'])) = some ']' := by
      rw [← List.append_assoc, lastBracket?_append]
      rfl
    rw [hdrop] at ih ⊢
    rw [ih _ (fun hopen => by rw [hclosed] at hopen; cases hopen) hlength, htext,
      exists_selectorIn_pass_iff fun _ _ _ => inside_attribute hinner, hlength]
  | case3 offset c rest hattribute hmark name hname ih =>
    subst hoffset
    obtain ⟨after, hafter⟩ := selectorName?_isPrefix hname
    have hdrop : rest.drop name.length = after := by rw [← hafter, List.drop_left]
    have htext : pre ++ c :: rest = pre ++ [c] ++ name ++ after := by simp [← hafter]
    have hlength : (pre ++ [c] ++ name).length = pre.length + 1 + name.length := by
      rw [List.length_append, List.length_append]
      rfl
    have hnext : lastBracket? (pre ++ [c] ++ name) = some '[' → ']' ∉ after := by
      intro hopen hclose
      rw [lastBracket?_append, lastBracket?_of_isNamePart
        fun d => isNamePart_of_mem_selectorName? hname] at hopen
      refine outside_step hout hattribute hopen ?_
      rw [← hafter]
      exact List.mem_append_right _ hclose
    rw [hdrop] at ih ⊢
    rw [List.mem_cons, ih _ hnext hlength, exists_selectorIn_iff,
      exists_selectorIn_at_iff _ _ _ _ hout, htext]
    refine or_congr (by simp [hmark, hname]) ?_
    -- a name has no marks in it
    have hpass := exists_selectorIn_word_iff (pre ++ [c]) after f
      fun d => isNamePart_of_mem_selectorName? hname
    rw [hlength, List.length_append] at hpass
    exact hpass.symm
  | case4 offset c rest hattribute hmark hname ih =>
    have htext : pre ++ c :: rest = pre ++ [c] ++ rest := by simp
    subst hoffset
    rw [ih (pre ++ [c]) (outside_step hout hattribute) List.length_append, ← htext,
      exists_selectorIn_iff, exists_selectorIn_at_iff _ _ _ _ hout]
    simp [hname]
  | case5 offset c rest hattribute hmark ih =>
    have htext : pre ++ c :: rest = pre ++ [c] ++ rest := by simp
    subst hoffset
    rw [ih (pre ++ [c]) (outside_step hout hattribute) List.length_append, ← htext,
      exists_selectorIn_iff, exists_selectorIn_at_iff _ _ _ _ hout]
    simp [hmark]

/-- A selector name stands behind its mark, so strictly forward. -/
theorem lt_offset_of_mem_scanSelectorsFrom {offset : Nat} {cs : List Char} {f : Found}
    (h : f ∈ scanSelectorsFrom offset cs) : offset < f.offset := by
  fun_induction scanSelectorsFrom offset cs with
  | case1 => simp at h
  | case2 offset c rest _ passed ih =>
    have := ih h
    omega
  | case3 offset c rest _ _ name _ ih =>
    rcases List.mem_cons.mp h with rfl | h
    · exact Nat.lt_succ_self offset
    · have := ih h
      omega
  | case4 offset c rest _ _ _ ih =>
    have := ih h
    omega
  | case5 offset c rest _ _ ih =>
    have := ih h
    omega

/-- **Order.**  Selector names are found from left to right, each once. -/
theorem scanSelectorsFrom_pairwise (offset : Nat) (cs : List Char) :
    (scanSelectorsFrom offset cs).Pairwise fun f g => f.offset < g.offset := by
  fun_induction scanSelectorsFrom offset cs with
  | case1 => exact .nil
  | case2 offset c rest _ passed ih => exact ih
  | case3 offset c rest _ _ name _ ih =>
    refine .cons (fun g hg => ?_) ih
    have hbehind := lt_offset_of_mem_scanSelectorsFrom hg
    show offset + 1 < g.offset
    omega
  | case4 offset c rest _ _ _ ih => exact ih
  | case5 offset c rest _ _ ih => exact ih

/-! ### Lookups -/

theorem mem_scanWords_iff (cs : List Char) (f : Found) :
    f ∈ scanWords cs ↔ ∃ before run after, WordIn cs f before run after := by
  have h := mem_scanWordsFrom_iff [] cs f
  rw [List.nil_append] at h
  exact h.trans (and_iff_right (Nat.zero_le _))

theorem mem_scanSelectors_iff (cs : List Char) (f : Found) :
    f ∈ scanSelectors cs ↔ ∃ before mark run after, SelectorIn cs f before mark run after := by
  have h := mem_scanSelectorsFrom_iff [] cs f (fun hopen => by cases hopen)
  rw [List.nil_append] at h
  refine h.trans (and_iff_right_of_imp ?_)
  rintro ⟨before, mark, run, after, hselector⟩
  rw [hselector.offset_eq]
  exact Nat.succ_pos _

/-- **Bare words.**  Three functions look bare words up.  In every text they find, from left to
    right and each once, exactly the maximal runs of word characters and hyphens that start with
    an ASCII letter or an underscore and do not follow a dollar sign.  A name is such a run
    without the hyphens at its end, at the offset where the run starts. -/
theorem lookup_finds_bareWords :
    (∀ name, Lookup.ofName? name = some .words ↔
      name ∈ ["getElementById", "getElementsByClassName", "getElementsByName"]) ∧
    ∀ cs : List Char,
      (Lookup.words.scan cs).Pairwise (fun f g => f.offset < g.offset) ∧
      ∀ f, f ∈ Lookup.words.scan cs ↔ ∃ before run after, WordIn cs f before run after := by
  refine ⟨fun name => ?_, fun cs => ⟨scanWordsFrom_pairwise none 0 cs, mem_scanWords_iff cs⟩⟩
  unfold Lookup.ofName?
  split_ifs with hwords hselectors
  · simp [hwords]
  · simp [hwords]
  · simp [hwords]

/-- **Selector names.**  Two functions look class and id names up.  In every text they find, from
    left to right and each once, exactly the names behind a dot or a number sign, except where
    the nearest bracket before the mark opens an attribute selector and some bracket behind the
    mark closes one.  A name is the maximal run of word characters and hyphens behind the mark
    without the hyphens at its end, and the run has to start with an ASCII letter or an
    underscore, which one hyphen may precede. -/
theorem lookup_finds_selectorNames :
    (∀ name, Lookup.ofName? name = some .selectors ↔ name ∈ ["querySelector", "querySelectorAll"]) ∧
    ∀ cs : List Char,
      (Lookup.selectors.scan cs).Pairwise (fun f g => f.offset < g.offset) ∧
      ∀ f, f ∈ Lookup.selectors.scan cs ↔
        ∃ before mark run after, SelectorIn cs f before mark run after := by
  refine ⟨fun name => ?_, fun cs => ⟨scanSelectorsFrom_pairwise 0 cs, mem_scanSelectors_iff cs⟩⟩
  unfold Lookup.ofName?
  split_ifs with hwords hselectors
  · simp only [List.mem_cons, List.not_mem_nil, or_false] at hwords
    rcases hwords with rfl | rfl | rfl <;> decide
  · simp [hselectors]
  · simp [hselectors]

example : scanSelectors "[a[b].c].d- [.-e .1".toList =
    [⟨['c'], 6⟩, ⟨['d'], 9⟩, ⟨['-', 'e'], 14⟩] := by cbv

end SymbolTags.Selector
