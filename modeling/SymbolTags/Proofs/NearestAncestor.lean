import Mathlib.Logic.Relation
import SymbolTags.Proofs.LoopScope

namespace SymbolTags.Syntax.Tree

/-!
# Nearest ancestors — what the climb finds, told from above

The search for an ancestor climbs from link to link.  Seen from above there are no links: an
occurrence holds children under its properties, and these hold further ones.  This file ties the
two views together:

* `HoldsUnder` — a child that an occurrence holds under a property, read off the slots;
* `Above` — the strict ancestors, by any number of steps down;
* `LeadsThrough` — an occurrence in the subtree of a child that is held under a property;
* `Deepest` — an ancestor of a kind that has no other one below it;
* `nearestAncestor_is_deepest` — the climb ends, and finds the deepest ancestor of a kind with the
  property through which the way down leads.
-/

/-- An occurrence of the arena holds another one as a child under a property. -/
structure HoldsUnder (t : Tree) (a : Occurrence) (side : String) (k : Occurrence) : Prop where
  get? : t.get? a.index = some a
  child_get? : t.get? k.index = some k
  mem_childrenAt : k.index ∈ a.childrenAt side

/-- One step down, through any property. -/
def HasChild (t : Tree) (a k : Occurrence) : Prop :=
  ∃ side, t.HoldsUnder a side k

/-- A strict ancestor and what lies below it. -/
def Above (t : Tree) : Occurrence → Occurrence → Prop :=
  Relation.TransGen t.HasChild

/-- An occurrence lies in the subtree of a child that an ancestor holds under a property. -/
def LeadsThrough (t : Tree) (a : Occurrence) (side : String) (o : Occurrence) : Prop :=
  ∃ k, t.HoldsUnder a side k ∧ Relation.ReflTransGen t.HasChild k o

/-- An ancestor of a kind; all others of that kind lie above it. -/
structure Deepest (t : Tree) (kind : String) (a o : Occurrence) : Prop where
  above : t.Above a o
  kind_eq : a.kind = kind
  above_of_ne : ∀ b, t.Above b o → b.kind = kind → b ≠ a → t.Above b a

theorem LeadsThrough.above {t : Tree} {a o : Occurrence} {side : String}
    (h : t.LeadsThrough a side o) : t.Above a o := by
  obtain ⟨k, hk, hway⟩ := h
  exact .head' ⟨side, hk⟩ hway

namespace Layout

variable {t : Tree} {root : Node} {i : Nat} {a o p : Occurrence} {l : Link} {side kind : String}

/-! ### One step -/

/-- A child knows by its link what it is held by, and under which property. -/
theorem holdsUnder_iff (h : t.Layout root) (ho : t.get? i = some o) :
    t.HoldsUnder a side o ↔ ∃ l, o.link = some l ∧ t.get? l.parent = some a ∧ l.prop = side := by
  constructor
  · rintro ⟨ha, hget, hmem⟩
    rw [h.childrenAt_eq ha, List.mem_map] at hmem
    obtain ⟨k, hk, hindex⟩ := hmem
    obtain ⟨hkget, l, hl, hparent, hprop⟩ := h.link_of_mem_kids ha hk
    rw [hindex, hget, Option.some.injEq] at hkget
    subst hkget
    exact ⟨l, hl, by rw [hparent, ha], hprop⟩
  · rintro ⟨l, hl, hp, rfl⟩
    obtain ⟨-, p, hp', hmem⟩ := h.exists_parent ho hl
    rw [hp, Option.some.injEq] at hp'
    subst hp'
    have hindex : a.index = l.parent := h.index_eq hp
    have ha : t.get? a.index = some a := by rw [hindex, hp]
    refine ⟨ha, by rw [h.index_eq ho, ho], ?_⟩
    -- the child is among the children, and its link has the property
    rw [h.childrenAt_eq ha]
    refine List.mem_map_of_mem (List.mem_filter.mpr ⟨?_, ?_⟩)
    · exact List.mem_filterMap.mpr ⟨i, hmem, ho⟩
    · simp [Occurrence.hangsOn, hl]

/-- The parent is the one occurrence with a step down to a child. -/
theorem hasChild_iff (h : t.Layout root) (ho : t.get? i = some o) (hl : o.link = some l)
    (hp : t.get? l.parent = some p) : t.HasChild a o ↔ a = p := by
  have hstep : t.HasChild a o ↔ t.get? l.parent = some a := by
    unfold HasChild
    simp [h.holdsUnder_iff ho, hl]
  rw [hstep, hp, Option.some.injEq]
  exact eq_comm

/-- Nothing is held by itself or by what lies below it, because steps down lead to greater
    indices. -/
theorem index_lt_of_above (h : t.Layout root) (habove : t.Above a o) : a.index < o.index := by
  have hchild : ∀ {a k : Occurrence}, t.HasChild a k → a.index < k.index := by
    rintro a k ⟨side, hk⟩
    obtain ⟨l, hl, ha, -⟩ := (h.holdsUnder_iff hk.child_get?).mp hk
    rw [h.index_eq ha]
    exact (h.exists_parent hk.child_get? hl).1
  induction habove with
  | single hk => exact hchild hk
  | tail _ hk ih => exact ih.trans (hchild hk)

/-! ### The way up -/

/-- Nothing lies above the root. -/
theorem not_above_of_link_none (h : t.Layout root) (ho : t.get? i = some o)
    (hl : o.link = none) : ¬t.Above a o := by
  intro habove
  obtain ⟨k, -, side, hk⟩ := Relation.TransGen.tail'_iff.mp habove
  obtain ⟨l, hl', -⟩ := (h.holdsUnder_iff ho).mp hk
  rw [hl] at hl'
  cases hl'

/-- The strict ancestors are the parent and its strict ancestors. -/
theorem above_iff (h : t.Layout root) (ho : t.get? i = some o) (hl : o.link = some l)
    (hp : t.get? l.parent = some p) : t.Above a o ↔ a = p ∨ t.Above a p := by
  calc t.Above a o
      ↔ ∃ k, Relation.ReflTransGen t.HasChild a k ∧ t.HasChild k o := Relation.TransGen.tail'_iff
    _ ↔ Relation.ReflTransGen t.HasChild a p := by simp [h.hasChild_iff ho hl hp]
    _ ↔ p = a ∨ t.Above a p := Relation.reflTransGen_iff_eq_or_transGen
    _ ↔ a = p ∨ t.Above a p := by rw [eq_comm]

/-- The way down to an occurrence leads through its own link at the parent, and above the parent
    through what it leads through to the parent. -/
theorem leadsThrough_iff (h : t.Layout root) (ho : t.get? i = some o) (hl : o.link = some l)
    (hp : t.get? l.parent = some p) :
    t.LeadsThrough a side o ↔ (a = p ∧ l.prop = side) ∨ t.LeadsThrough a side p := by
  have hheld : t.HoldsUnder a side o ↔ a = p ∧ l.prop = side := by
    rw [h.holdsUnder_iff ho]
    simp [hl, hp, eq_comm]
  constructor
  · rintro ⟨k, hk, hway⟩
    obtain rfl | ⟨q, hq, hstep⟩ := hway.cases_tail
    · exact .inl (hheld.mp hk)
    · rw [(h.hasChild_iff ho hl hp).mp hstep] at hq
      exact .inr ⟨k, hk, hq⟩
  · rintro (hparent | ⟨k, hk, hway⟩)
    · exact ⟨o, hheld.mpr hparent, .refl⟩
    · exact ⟨k, hk, hway.tail ((h.hasChild_iff ho hl hp).mpr rfl)⟩

/-- A parent of the kind is the deepest ancestor of the kind. -/
theorem deepest_iff_of_kind (h : t.Layout root) (ho : t.get? i = some o) (hl : o.link = some l)
    (hp : t.get? l.parent = some p) (hkind : p.kind = kind) :
    t.Deepest kind a o ↔ a = p := by
  have hparent : t.Above p o := (h.above_iff ho hl hp).mpr (.inl rfl)
  constructor
  · intro hdeepest
    by_contra hne
    -- the parent would lie above an ancestor that itself lies above the parent
    have hbelow : t.Above p a := hdeepest.above_of_ne p hparent hkind (Ne.symm hne)
    have habove : t.Above a p := ((h.above_iff ho hl hp).mp hdeepest.above).resolve_left hne
    exact Nat.lt_asymm (h.index_lt_of_above hbelow) (h.index_lt_of_above habove)
  · rintro rfl
    refine ⟨hparent, hkind, fun b hb _ hne => ?_⟩
    exact ((h.above_iff ho hl hp).mp hb).resolve_left hne

/-- A parent of another kind is passed over. -/
theorem deepest_iff_of_kind_ne (h : t.Layout root) (ho : t.get? i = some o)
    (hl : o.link = some l) (hp : t.get? l.parent = some p) (hkind : p.kind ≠ kind) :
    t.Deepest kind a o ↔ t.Deepest kind a p := by
  have habove : ∀ {b : Occurrence}, b.kind = kind → (t.Above b o ↔ t.Above b p) := by
    intro b hb
    rw [h.above_iff ho hl hp, or_iff_right]
    rintro rfl
    exact hkind hb
  constructor
  · rintro ⟨hao, ha, hothers⟩
    exact ⟨(habove ha).mp hao, ha, fun b hb hbkind => hothers b ((habove hbkind).mpr hb) hbkind⟩
  · rintro ⟨hap, ha, hothers⟩
    exact ⟨(habove ha).mpr hap, ha, fun b hb hbkind => hothers b ((habove hbkind).mp hb) hbkind⟩

/-! ### The climb -/

/-- The climb finds nothing where there is no ancestor of the kind. -/
theorem nearestAncestor?_eq_none_iff (h : t.Layout root) (ho : t.get? i = some o) :
    t.nearestAncestor? o kind = none ↔ ¬∃ a, t.Above a o ∧ a.kind = kind := by
  -- a parent stands before its child, so the climb is an induction on the index
  induction i using Nat.strong_induction_on generalizing o with
  | _ i ih =>
    cases hl : o.link with
    | none => simp [h.nearestAncestor?_of_link_none ho hl, h.not_above_of_link_none ho hl]
    | some l =>
      obtain ⟨hlt, p, hp, -⟩ := h.exists_parent ho hl
      rw [h.nearestAncestor?_eq ho hl hp]
      simp only [h.above_iff ho hl hp]
      split_ifs with hkind
      · simp only [false_iff, not_not]
        exact ⟨p, .inl rfl, hkind⟩
      · rw [ih l.parent hlt hp]
        refine not_congr ⟨fun ⟨a, ha, hakind⟩ => ⟨a, .inr ha, hakind⟩, ?_⟩
        rintro ⟨a, rfl | ha, hakind⟩
        · exact absurd hakind hkind
        · exact ⟨a, ha, hakind⟩

/-- What the climb finds is the deepest ancestor of the kind, with the property through which the
    way down leads. -/
theorem nearestAncestor?_eq_some_iff_deepest (h : t.Layout root) (ho : t.get? i = some o) :
    t.nearestAncestor? o kind = some (a, side) ↔
      t.Deepest kind a o ∧ t.LeadsThrough a side o := by
  induction i using Nat.strong_induction_on generalizing o with
  | _ i ih =>
    cases hl : o.link with
    | none =>
      rw [h.nearestAncestor?_of_link_none ho hl]
      constructor
      · intro hsome
        cases hsome
      · rintro ⟨hdeepest, -⟩
        exact absurd hdeepest.above (h.not_above_of_link_none ho hl)
    | some l =>
      obtain ⟨hlt, p, hp, -⟩ := h.exists_parent ho hl
      rw [h.nearestAncestor?_eq ho hl hp, h.leadsThrough_iff ho hl hp]
      split_ifs with hkind
      · rw [h.deepest_iff_of_kind ho hl hp hkind, Option.some.injEq, Prod.mk.injEq]
        constructor
        · rintro ⟨rfl, rfl⟩
          exact ⟨rfl, .inl ⟨rfl, rfl⟩⟩
        · rintro ⟨rfl, ⟨-, hside⟩ | hself⟩
          · exact ⟨rfl, hside⟩
          · -- no way leads from the parent down to itself
            exact absurd (h.index_lt_of_above hself.above) (Nat.lt_irrefl _)
      · rw [ih l.parent hlt hp, h.deepest_iff_of_kind_ne ho hl hp hkind]
        refine and_congr_right fun hdeepest => ?_
        rw [or_iff_right]
        rintro ⟨rfl, -⟩
        exact hkind hdeepest.kind_eq

end Layout

/-- **Nearest ancestors.**  The climb from any occurrence ends by itself: more steps than its index
    do not lead further.  It finds nothing exactly if no strict ancestor has the kind, and
    otherwise the deepest one that has it, with the property under which this ancestor holds the
    child whose subtree the occurrence is in. -/
theorem nearestAncestor_is_deepest (root : Node) {i : Nat} {o : Occurrence}
    (ho : (ofRoot root).get? i = some o) (kind : String) :
    let t := ofRoot root
    (∀ steps, i ≤ steps → t.climb steps o.link = t.ancestors o) ∧
    (t.nearestAncestor? o kind = none ↔ ¬∃ a, t.Above a o ∧ a.kind = kind) ∧
    ∀ a side, t.nearestAncestor? o kind = some (a, side) ↔
      t.Deepest kind a o ∧ t.LeadsThrough a side o := by
  intro t
  have hlayout : t.Layout root := ofRoot_layout root
  refine ⟨fun steps hsteps => ?_, hlayout.nearestAncestor?_eq_none_iff ho, fun a side => ?_⟩
  · rw [ancestors, hlayout.index_eq ho]
    exact hlayout.climb_eq ho hsteps
  · exact hlayout.nearestAncestor?_eq_some_iff_deepest ho

/-- From a name in a pattern the way up to the loop is four steps long, and the loop is entered
    through the property of the last one. -/
theorem nearestAncestor_is_deepest_patternLoop :
    let t := ofRoot patternLoop
    ∃ o loop, t.get? 5 = some o ∧ o.link = some ⟨4, "elements", some 0⟩ ∧ t.get? 0 = some loop ∧
      t.Deepest "ForStatement" loop o ∧ t.LeadsThrough loop "init" o := by
  intro t
  have hget : t.get? 5 = some ⟨5, sampleName 3 "i" 5, some ⟨4, "elements", some 0⟩, []⟩ := by cbv
  have hloop : t.get? 0 = some ⟨0, patternLoop, none, [1, 2]⟩ := by cbv
  obtain ⟨-, -, hfound⟩ := nearestAncestor_is_deepest patternLoop hget "ForStatement"
  refine ⟨_, _, hget, rfl, hloop, (hfound _ _).mp ?_⟩
  cbv

end SymbolTags.Syntax.Tree
