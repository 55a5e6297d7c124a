import Mathlib.Data.List.Perm.Basic
import SymbolTags.Proofs.Unfolding

namespace SymbolTags.Syntax

/-!
# Lookup — links, children and slots agree

An occurrence is known to its relatives in three ways: its own link, the children of its
parent, and the slots of its parent, which are read by property.  This file shows that the
three tell the same:

* `Tree.below` — the occurrences of the children, which `Tree.Layout.forall₂_below` ties to
  the entries of the node, links included;
* `Tree.Layout.filterMap_childrenAt` — the children of a property are those whose link has
  that property;
* `Tree.Layout.childrenOf_eq` and `Tree.Layout.child?_of_node` — the slots, where names are
  distinct;
* `Tree.WellFormed` — all of it together, for the arena of every root.
-/

/-- The occurrence hangs on its parent through a property. -/
def Occurrence.hangsOn (o : Occurrence) (prop : String) : Bool :=
  o.link.any fun l => l.prop = prop

namespace Tree

/-- The occurrences of the children, in source order. -/
def below (t : Tree) (o : Occurrence) : List Occurrence :=
  o.children.filterMap t.get?

/-- An occurrence of the arena that an entry of a parent became. -/
def Became (t : Tree) (parent : Nat) (k : Occurrence) (e : Entry) : Prop :=
  t.get? k.index = some k ∧ k.node = e.node ∧ k.link = some ⟨parent, e.prop, e.position⟩

theorem Became.hangsOn {t : Tree} {parent : Nat} {k : Occurrence} {e : Entry}
    (h : t.Became parent k e) (prop : String) : k.hangsOn prop = decide (e.prop = prop) := by
  obtain ⟨-, -, hlink⟩ := h
  simp [Occurrence.hangsOn, hlink]

namespace Layout

variable {t : Tree} {root : Node} {i : Nat} {o : Occurrence}

/-- The occurrence at an index where an entry hangs. -/
theorem exists_became (h : t.Layout root) {c : Nat} {e : Entry} (hc : Hangs t.occurrences i c e) :
    ∃ k, t.get? c = some k ∧ t.Became i k e := by
  obtain ⟨k, hk, hnode, hlink⟩ := hc
  have hget : t.get? c = some k := hk
  exact ⟨k, hget, by rw [h.index_eq hget]; exact hget, hnode, hlink⟩

/-- The occurrences of the children answer to the entries of the node, one by one. -/
theorem forall₂_below (h : t.Layout root) (ho : t.get? i = some o) :
    List.Forall₂ (t.Became i) (t.below o) o.node.children := by
  have hcs := h.forall₂_children ho
  unfold below
  generalize o.children = cs, o.node.children = es at hcs ⊢
  induction hcs with
  | nil => exact .nil
  | cons hc _ ih =>
    obtain ⟨k, hk, hbecame⟩ := h.exists_became hc
    rw [List.filterMap_cons_some hk]
    exact .cons hbecame ih

end Layout

/-- The children of an occurrence whose link has a property. -/
def kids (t : Tree) (o : Occurrence) (prop : String) : List Occurrence :=
  (t.below o).filter (·.hangsOn prop)

namespace Layout

variable {t : Tree} {root : Node} {i : Nat} {o : Occurrence}

/-- The children of a property answer to the entries of that property. -/
theorem forall₂_kids (h : t.Layout root) (ho : t.get? i = some o) (prop : String) :
    List.Forall₂ (t.Became i) (t.kids o prop)
      (o.node.children.filter fun e => e.prop = prop) := by
  refine List.rel_filter ?_ (h.forall₂_below ho)
  intro k e hbecame
  show k.hangsOn prop = true ↔ decide (e.prop = prop) = true
  rw [hbecame.hangsOn prop]

/-- Children stand in the arena at their index. -/
theorem get?_of_mem_kids (h : t.Layout root) {prop : String} {k : Occurrence}
    (hk : k ∈ t.kids o prop) : t.get? k.index = some k := by
  obtain ⟨c, -, hc⟩ := List.mem_filterMap.mp (List.mem_filter.mp hk).1
  rw [h.index_eq hc]
  exact hc

/-- The indices that a slot is filled with are those of the children whose link has the
    property. -/
theorem childrenAt_eq (h : t.Layout root) (ho : t.get? i = some o) (prop : String) :
    o.childrenAt prop = (t.kids o prop).map (·.index) := by
  have hcs := h.forall₂_children ho
  unfold Occurrence.childrenAt kids below
  generalize o.children = cs, o.node.children = es at hcs ⊢
  induction hcs with
  | nil => rfl
  | @cons c e cs es hc _ ih =>
    -- the pairing puts every index beside the entry that it was laid out for
    obtain ⟨k, hk, hbecame⟩ := h.exists_became hc
    rw [List.filterMap_cons_some hk, List.zip_cons_cons, List.filterMap_cons, List.filter_cons,
      hbecame.hangsOn prop, ih]
    by_cases hprop : e.prop = prop
    · simp [hprop, h.index_eq hk]
    · simp [hprop]

/-- Reading the indices of children gives the children back. -/
theorem filterMap_childrenAt (h : t.Layout root) (ho : t.get? i = some o) (prop : String) :
    (o.childrenAt prop).filterMap t.get? = t.kids o prop := by
  rw [h.childrenAt_eq ho, List.filterMap_map]
  conv_rhs => rw [← List.filterMap_some (l := t.kids o prop)]
  exact List.filterMap_congr fun k hk => h.get?_of_mem_kids hk

/-- What a property holds, by the value of its attribute. -/
theorem childrenOf_eq_match (h : t.Layout root) (ho : t.get? i = some o) (prop : String) :
    t.childrenOf o prop =
      if prop ∈ structuralNames then []
      else
        match Fields.get? o.node.attributes prop with
        | some (.node _) => (t.kids o prop).head?.toList
        | some (.list _ []) => []
        | some (.list _ _) => t.kids o prop
        | _ => [] := by
  unfold childrenOf Occurrence.slot?
  split_ifs with hprop
  · rfl
  · cases hget : Fields.get? o.node.attributes prop with
    | none => rfl
    | some v =>
      cases v with
      | node m =>
        simp only [h.childrenAt_eq ho]
        cases hks : t.kids o prop with
        | nil => rfl
        | cons k ks =>
          have hk : k ∈ t.kids o prop := by rw [hks]; exact List.mem_cons_self
          simp [h.get?_of_mem_kids hk]
      | list identity items =>
        cases items with
        | nil => rfl
        | cons v vs =>
          -- A non-empty list gives whatever stands at the property, none or several.
          rw [← h.filterMap_childrenAt ho prop]
          cases o.childrenAt prop <;> rfl
      | _ => rfl

/-- What a property holds directly, by the value of its attribute. -/
theorem child?_eq_match (h : t.Layout root) (ho : t.get? i = some o) (prop : String) :
    t.child? o prop =
      if prop ∈ structuralNames then none
      else
        match Fields.get? o.node.attributes prop with
        | some (.node _) => (t.kids o prop).head?
        | _ => none := by
  unfold child? Occurrence.slot?
  split_ifs with hprop
  · rfl
  · cases hget : Fields.get? o.node.attributes prop with
    | none => rfl
    | some v =>
      cases v with
      | node m =>
        simp only [h.childrenAt_eq ho]
        cases hks : t.kids o prop with
        | nil => rfl
        | cons k ks =>
          have hk : k ∈ t.kids o prop := by rw [hks]; exact List.mem_cons_self
          simp [h.get?_of_mem_kids hk]
      | list identity items =>
        cases items with
        | nil => rfl
        | cons v vs => cases o.childrenAt prop <;> rfl
      | _ => rfl

/-- With distinct names, a property has as many children as its attribute has entries. -/
theorem length_kids (h : t.Layout root) (ho : t.get? i = some o) (hd : o.node.Distinct)
    (prop : String) :
    (t.kids o prop).length
      = (((Fields.get? o.node.attributes prop).map (attributeEntries prop)).getD []).length := by
  rw [(h.forall₂_kids ho prop).length_eq, (Node.filter_prop_children hd prop).length_eq]

/-- **Slots.**  With distinct names, the children that a property holds are those whose link
    has that property. -/
theorem childrenOf_eq (h : t.Layout root) (ho : t.get? i = some o) (hd : o.node.Distinct)
    (prop : String) : t.childrenOf o prop = t.kids o prop := by
  have hlength := h.length_kids ho hd prop
  rw [h.childrenOf_eq_match ho]
  split_ifs with hprop
  · -- structural attributes have no entries, so nothing hangs on them
    have : ∀ v, attributeEntries prop v = [] := fun v => if_pos hprop
    cases hget : Fields.get? o.node.attributes prop <;> simp_all
  · cases hget : Fields.get? o.node.attributes prop with
    | none => simp_all
    | some v =>
      rw [hget] at hlength
      simp only [Option.map_some, Option.getD_some, attributeEntries, if_neg hprop] at hlength
      cases v with
      | node m =>
        obtain ⟨k, hk⟩ := List.length_eq_one_iff.mp hlength
        simp [hk]
      | list identity items =>
        cases items with
        | nil => exact (List.length_eq_zero_iff.mp hlength).symm
        | cons v vs => rfl
      | _ => exact (List.length_eq_zero_iff.mp hlength).symm

/-- An attribute that is a node has that node as its single child. -/
theorem child?_of_node (h : t.Layout root) (ho : t.get? i = some o) (hd : o.node.Distinct)
    {prop : String} {m : Node} (hprop : prop ∉ structuralNames)
    (hget : Fields.get? o.node.attributes prop = some (.node m)) :
    ∃ k, t.childrenOf o prop = [k] ∧ k.node = m ∧ t.child? o prop = some k := by
  have hentries : attributeEntries prop (.node m) = [⟨prop, none, m⟩] := if_neg hprop
  -- The entries of one property, when no property is written twice.
  have hperm := Node.filter_prop_children hd prop
  rw [hget, Option.map_some, Option.getD_some, hentries, List.perm_singleton] at hperm
  have hkids := h.forall₂_kids ho prop
  rw [hperm] at hkids
  obtain ⟨k, ks, hbecame, hnil, hk⟩ := List.forall₂_cons_right_iff.mp hkids
  rw [List.forall₂_nil_right_iff] at hnil
  subst hnil
  refine ⟨k, by rw [h.childrenOf_eq ho hd, hk], hbecame.2.1, ?_⟩
  rw [h.child?_eq_match ho, if_neg hprop, hget, hk]
  rfl

/-- An attribute that is no node has no single child. -/
theorem child?_eq_none (h : t.Layout root) (ho : t.get? i = some o) {prop : String}
    (hno : prop ∈ structuralNames ∨ ∀ m, Fields.get? o.node.attributes prop ≠ some (.node m)) :
    t.child? o prop = none := by
  rw [h.child?_eq_match ho]
  split_ifs with hprop
  · rfl
  · have hne := hno.resolve_left hprop
    split
    · rename_i m hget
      exact absurd hget (hne m)
    · rfl

end Layout

/-! ### Well-formed arenas -/

/-- What every lookup in an arena relies on. -/
structure WellFormed (t : Tree) : Prop where
  /-- There is a root. -/
  size_pos : 0 < t.size
  /-- Every occurrence stands at its own index. -/
  index_eq : ∀ i o, t.get? i = some o → o.index = i
  /-- The root and nothing else hangs on nothing. -/
  link_eq_none_iff : ∀ i o, t.get? i = some o → (o.link = none ↔ i = 0)
  /-- A parent stands before its children. -/
  parent_lt : ∀ i o l, t.get? i = some o → o.link = some l → l.parent < i
  /-- Children and links tell the same. -/
  mem_children_iff : ∀ p c o k, t.get? p = some o → t.get? c = some k →
    (c ∈ o.children ↔ k.link.map (·.parent) = some p)
  /-- Every index but that of the root is a child of one occurrence, once. -/
  children_perm :
    (t.occurrences.toList.flatMap (·.children)).Perm (List.range' 1 (t.size - 1))
  /-- A property holds the children whose link has that property, in their order. -/
  childrenOf_eq : ∀ i o prop, t.get? i = some o →
    t.childrenOf o prop =
      (o.children.filterMap t.get?).filter fun k => k.link.any fun l => l.prop = prop
  /-- A property whose attribute is a node holds that node alone. -/
  child?_of_node : ∀ i o prop m, t.get? i = some o → prop ∉ structuralNames →
    Fields.get? o.node.attributes prop = some (.node m) →
    ∃ k, t.childrenOf o prop = [k] ∧ k.node = m ∧ t.child? o prop = some k
  /-- Any other property holds no single node. -/
  child?_eq_none : ∀ i o prop, t.get? i = some o →
    (prop ∈ structuralNames ∨ ∀ m, Fields.get? o.node.attributes prop ≠ some (.node m)) →
    t.child? o prop = none

namespace Layout

variable {t : Tree} {root : Node}

/-- Only the root hangs on nothing. -/
theorem link_eq_none_iff (h : t.Layout root) {i : Nat} {o : Occurrence} (ho : t.get? i = some o) :
    o.link = none ↔ i = 0 := by
  constructor
  · intro hnone
    by_contra hi
    obtain ⟨l, -, hl, -⟩ := h.linked ho hi
    rw [hnone] at hl
    simp at hl
  · rintro rfl
    obtain ⟨r, hr, -, hlink⟩ := h.root_get
    rw [hr, Option.some.injEq] at ho
    rwa [← ho]

/-- An index is a child exactly of the occurrence that its link names. -/
theorem mem_children_iff (h : t.Layout root) {p c : Nat} {o k : Occurrence}
    (ho : t.get? p = some o) (hk : t.get? c = some k) :
    c ∈ o.children ↔ k.link.map (·.parent) = some p := by
  constructor
  · intro hc
    obtain ⟨-, k', l, hk', hl, hparent⟩ := h.of_mem_children ho hc
    rw [hk, Option.some.injEq] at hk'
    subst hk'
    rw [hl, Option.map_some, hparent]
  · intro hlink
    obtain ⟨l, hl, hparent⟩ := Option.map_eq_some_iff.mp hlink
    -- The parent is unique, so the link names this very occurrence.
    obtain ⟨-, o', ho', hmem⟩ := h.exists_parent hk hl
    rw [hparent, ho, Option.some.injEq] at ho'
    rwa [ho']

/-- A child of a property stands in the arena, and its link names the parent and the
    property. -/
theorem link_of_mem_kids (h : t.Layout root) {i : Nat} {o k : Occurrence} {prop : String}
    (ho : t.get? i = some o) (hk : k ∈ t.kids o prop) :
    t.get? k.index = some k ∧ ∃ l, k.link = some l ∧ l.parent = i ∧ l.prop = prop := by
  obtain ⟨hbelow, hprop⟩ := List.mem_filter.mp hk
  obtain ⟨c, hc, hget⟩ := List.mem_filterMap.mp hbelow
  obtain ⟨-, k', l, hget', hl, hparent⟩ := h.of_mem_children ho hc
  rw [hget, Option.some.injEq] at hget'
  subst hget'
  refine ⟨h.get?_of_mem_kids hk, l, hl, hparent, ?_⟩
  simpa [Occurrence.hangsOn, hl] using hprop

/-- What a property holds are children of that property. -/
theorem mem_kids_of_mem_childrenOf (h : t.Layout root) {i : Nat} {o k : Occurrence}
    {prop : String} (ho : t.get? i = some o) (hk : k ∈ t.childrenOf o prop) :
    k ∈ t.kids o prop := by
  rw [h.childrenOf_eq_match ho] at hk
  split_ifs at hk with hprop
  · simp at hk
  · split at hk
    · exact List.mem_of_mem_head? (Option.mem_toList.mp hk)
    · simp at hk
    · exact hk
    · simp at hk

/-- What a property holds directly is a child of that property. -/
theorem mem_kids_of_child? (h : t.Layout root) {i : Nat} {o k : Occurrence} {prop : String}
    (ho : t.get? i = some o) (hk : t.child? o prop = some k) : k ∈ t.kids o prop := by
  rw [h.child?_eq_match ho] at hk
  split_ifs at hk with hprop
  split at hk
  · exact List.mem_of_mem_head? hk
  · simp at hk

/-- No index is a child twice. -/
theorem nodup_flatMap_children (h : t.Layout root) :
    (t.occurrences.toList.flatMap (·.children)).Nodup := by
  have hget : ∀ o ∈ t.occurrences.toList, t.get? o.index = some o := by
    intro o ho
    obtain ⟨i, hi⟩ := List.mem_iff_getElem?.mp ho
    rw [Array.getElem?_toList] at hi
    rw [h.index_eq hi]
    exact hi
  have hne : t.occurrences.toList.Pairwise fun o o' => o.index ≠ o'.index := by
    have hnodup : (t.occurrences.toList.map (·.index)).Nodup := by
      rw [h.map_index_occurrences]
      exact List.nodup_range
    exact List.pairwise_map.mp hnodup
  rw [List.nodup_flatMap]
  refine ⟨fun o ho => ?_, hne.imp_of_mem ?_⟩
  · obtain ⟨first, -, hchildren, -⟩ := h.settled (hget o ho)
    rw [hchildren]
    exact List.nodup_range'
  · -- a common child would have one link to two parents
    intro o o' ho ho' hindex c hc hc'
    obtain ⟨-, k, l, hk, hl, hparent⟩ := h.of_mem_children (hget o ho) hc
    obtain ⟨-, k', l', hk', hl', hparent'⟩ := h.of_mem_children (hget o' ho') hc'
    rw [hk, Option.some.injEq] at hk'
    subst hk'
    rw [hl, Option.some.injEq] at hl'
    subst hl'
    exact hindex (hparent.symm.trans hparent')

/-- The children of all occurrences are all indices but that of the root. -/
theorem flatMap_children_perm (h : t.Layout root) :
    (t.occurrences.toList.flatMap (·.children)).Perm (List.range' 1 (t.size - 1)) := by
  -- Two lists without repetitions are permutations once they have the same members.
  rw [List.perm_ext_iff_of_nodup h.nodup_flatMap_children List.nodup_range']
  intro c
  rw [List.mem_flatMap, List.mem_range'_1]
  constructor
  · rintro ⟨o, ho, hc⟩
    obtain ⟨i, hi⟩ := List.mem_iff_getElem?.mp ho
    rw [Array.getElem?_toList] at hi
    obtain ⟨hlt, k, -, hk, -⟩ := h.of_mem_children hi hc
    have hsize : c < t.size := (Array.getElem?_eq_some_iff.mp hk).1
    omega
  · intro hc
    have hsize : c < t.size := by omega
    obtain ⟨l, p, -, -, hp, hmem⟩ :=
      h.linked (Array.getElem?_eq_getElem hsize) (show c ≠ 0 by omega)
    refine ⟨p, ?_, hmem⟩
    rw [List.mem_iff_getElem?]
    exact ⟨_, by rw [Array.getElem?_toList]; exact hp⟩

end Layout

end Tree

/-- Every node of the unfolding has distinct names, as nodes that keep their attributes in a
    dictionary have. -/
def Node.Regular (root : Node) : Prop :=
  ∀ s ∈ root.unfold [], s.node.Distinct

/-- A node is regular when its names are distinct and what hangs on it is regular. -/
theorem Node.regular_iff (n : Node) :
    n.Regular ↔ n.Distinct ∧ ∀ e ∈ n.entries, e.node.Regular := by
  have hnodes : ∀ m : Node, m.Regular ↔ ∀ k ∈ m.nodes, k.Distinct :=
    fun m => List.forall_mem_map.symm
  simp only [hnodes]
  exact n.forall_mem_nodes

/-- A node on which nothing hangs has only its own names to keep distinct. -/
theorem Node.regular_of_leaf {n : Node} (hd : n.Distinct) (hleaf : n.entries = []) :
    n.Regular := by
  rw [regular_iff, hleaf]
  exact ⟨hd, fun e he => absurd he List.not_mem_nil⟩

namespace Tree

/-- **Well-formed arenas.**  In the arena of a root with distinct names, links, children and
    slots agree for every occurrence and every property. -/
theorem ofRoot_wellFormed (root : Node) (hroot : root.Regular) : (ofRoot root).WellFormed := by
  have h := ofRoot_layout root
  have hd : ∀ i o, (ofRoot root).get? i = some o → o.node.Distinct :=
    fun i o ho => hroot _ (spot_mem_unfold root ho)
  exact
    { size_pos := by
        obtain ⟨r, hr, -⟩ := h.root_get
        exact (Array.getElem?_eq_some_iff.mp hr).1
      index_eq := fun i o => h.index_eq
      link_eq_none_iff := fun i o => h.link_eq_none_iff
      parent_lt := fun i o l ho hl => (h.exists_parent ho hl).1
      mem_children_iff := fun p c o k => h.mem_children_iff
      children_perm := h.flatMap_children_perm
      childrenOf_eq := fun i o prop ho => h.childrenOf_eq ho (hd i o ho) prop
      child?_of_node := fun i o prop m ho => h.child?_of_node ho (hd i o ho)
      child?_eq_none := fun i o prop ho => h.child?_eq_none ho }

/-- An identifier at a column of the first line. -/
def sampleName (identity : Nat) (name : String) (column : Int) : Node :=
  { type := some Node.identifierKind, identity := identity, loc := some (some ⟨1, column⟩),
    attributes := [("name", .str name)] }

/-- A call whose list of arguments holds the callee again, a hole, and a node that is located
    before both. -/
def sharedCall : Node :=
  { type := some "CallExpression"
    attributes :=
      [("callee", .node (sampleName 1 "f" 4)),
       ("arguments", .list 3 [.node (sampleName 1 "f" 4), .null, .node (sampleName 2 "x" 0)])] }

theorem ofRoot_wellFormed_sharedCall : sharedCall.Regular ∧ (ofRoot sharedCall).WellFormed := by
  have hname : ∀ identity name column, (sampleName identity name column).Regular := by
    intro identity name column
    rw [Node.regular_iff]
    exact ⟨List.nodup_singleton _, fun e he => absurd he List.not_mem_nil⟩
  have hentries : sharedCall.entries =
      [⟨"callee", none, sampleName 1 "f" 4⟩, ⟨"arguments", some 0, sampleName 1 "f" 4⟩,
       ⟨"arguments", some 2, sampleName 2 "x" 0⟩] := rfl
  have h : sharedCall.Regular := by
    rw [Node.regular_iff, hentries]
    refine ⟨by decide, ?_⟩
    simp [hname]
  exact ⟨h, ofRoot_wellFormed sharedCall h⟩

end Tree

end SymbolTags.Syntax
