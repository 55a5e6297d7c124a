import Mathlib.Data.List.Permutation
import Mathlib.Data.Prod.Lex
import SymbolTags.Syntax.Node

namespace SymbolTags.Syntax

/-!
# Children — what hangs on a node, and in which order

`Node.children` sorts the entries of a node by location alone.  This file says which entries
there are and what that sort makes of entries with equal location:

* `Node.mem_entries` — an entry is the node value of an attribute that is not structural, or
  a node item of a list that is such a value;
* `Node.children_perm` — sorting loses nothing and adds nothing;
* `Node.Distinct` — every name stands for one attribute, as in a dictionary.  Then
  `Node.rank` is the declaration order of a property;
* `Node.children_pairwise_sourceKey` — the children increase strictly by line, column,
  declaration order of the property and position in the list, which leaves one order only;
* `Node.filter_prop_entries` — the entries of one property are those of its attribute.
-/

/-! ### Reading order of positions -/

namespace Position

/-- Positions are ordered by line, then by column. -/
theorem le_iff (p q : Position) :
    p.le q = true ↔ p.line < q.line ∨ (p.line = q.line ∧ p.column ≤ q.column) := by
  simp [Position.le]

theorem le_trans {p q r : Position} (hpq : p.le q = true) (hqr : q.le r = true) :
    p.le r = true := by
  rw [le_iff] at *
  omega

theorem le_total (p q : Position) : (p.le q || q.le p) = true := by
  rw [Bool.or_eq_true, le_iff, le_iff]
  omega

/-- Positions that are not located after each other are equal. -/
theorem eq_of_le_of_le {p q : Position} (hpq : p.le q = true) (hqp : q.le p = true) : p = q := by
  rw [le_iff] at *
  obtain ⟨pl, pc⟩ := p
  obtain ⟨ql, qc⟩ := q
  simp only [Position.mk.injEq] at *
  omega

end Position

/-! ### Entries -/

/-- The entries of a list are its node items, each with its position. -/
theorem mem_listEntries (prop : String) (first : Nat) (items : List Value) (e : Entry) :
    e ∈ listEntries prop first items ↔
      ∃ k, items[k]? = some (.node e.node) ∧ e.prop = prop ∧ e.position = some (first + k) := by
  fun_induction listEntries prop first items with
  | case1 => simp
  | case2 first n rest ih =>
    -- a node item is the first entry, and the entries behind it move up by one
    rw [List.mem_cons, ih]
    constructor
    · rintro (rfl | ⟨k, hk, hprop, hpos⟩)
      · exact ⟨0, by simp⟩
      · exact ⟨k + 1, by simpa using hk, hprop, by rw [hpos]; congr 1; omega⟩
    · rintro ⟨k, hk, hprop, hpos⟩
      cases k with
      | zero =>
        left
        obtain ⟨_, _, _⟩ := e
        simp_all
      | succ k => exact .inr ⟨k, by simpa using hk, hprop, by rw [hpos]; congr 1; omega⟩
  | case3 first v rest hv ih =>
    -- a hole takes a position, but is no entry
    rw [ih]
    constructor
    · rintro ⟨k, hk, hprop, hpos⟩
      exact ⟨k + 1, by simpa using hk, hprop, by rw [hpos]; congr 1; omega⟩
    · rintro ⟨k, hk, hprop, hpos⟩
      cases k with
      | zero => exact absurd (by simpa using hk) (hv e.node)
      | succ k => exact ⟨k, by simpa using hk, hprop, by rw [hpos]; congr 1; omega⟩

/-- The place of an entry in the value of its attribute: the value itself, or an item of the
    list that it is. -/
def Entry.LiesIn (e : Entry) (v : Value) : Prop :=
  (e.position = none ∧ v = .node e.node) ∨
    ∃ k identity items, e.position = some k ∧ v = .list identity items ∧
      items[k]? = some (.node e.node)

/-- An attribute that is not structural holds a node directly or in a list. -/
theorem mem_attributeEntries (prop : String) (v : Value) (e : Entry) :
    e ∈ attributeEntries prop v ↔ prop ∉ structuralNames ∧ e.prop = prop ∧ e.LiesIn v := by
  unfold attributeEntries Entry.LiesIn
  split
  · simp_all
  · rename_i hprop
    split
    · rename_i n
      obtain ⟨_, _, _⟩ := e
      simp only [List.mem_singleton, Entry.mk.injEq, Value.node.injEq, hprop, not_false_eq_true,
        true_and, reduceCtorEq, false_and, and_false, exists_false, or_false]
      constructor
      · rintro ⟨rfl, rfl, rfl⟩; exact ⟨rfl, rfl, rfl⟩
      · rintro ⟨rfl, rfl, rfl⟩; exact ⟨rfl, rfl, rfl⟩
    · rename_i identity items
      rw [mem_listEntries]
      constructor
      · rintro ⟨k, hk, he, hpos⟩
        exact ⟨hprop, he, .inr ⟨k, identity, items, by simpa using hpos, rfl, hk⟩⟩
      · rintro ⟨-, he, ⟨-, hv⟩ | ⟨k, _, _, hpos, hv, hk⟩⟩
        · exact absurd hv (by simp)
        · rw [Value.list.injEq] at hv
          obtain ⟨rfl, rfl⟩ := hv
          exact ⟨k, hk, he, by simpa using hpos⟩
    · rename_i hnode hlist
      simp only [List.not_mem_nil, false_iff]
      rintro ⟨-, -, ⟨-, hv⟩ | ⟨k, identity, items, -, hv, -⟩⟩
      · exact hnode _ hv
      · exact hlist _ _ hv

namespace Node

/-- **Entries of a node.**  They are the nodes that an attribute outside of the structural
    ones holds directly or as an item of a list; nothing deeper counts. -/
theorem mem_entries (n : Node) (e : Entry) :
    e ∈ n.entries ↔
      ∃ v, (e.prop, v) ∈ n.attributes ∧ e.prop ∉ structuralNames ∧ e.LiesIn v := by
  unfold Node.entries
  rw [List.mem_flatMap]
  constructor
  · rintro ⟨⟨prop, v⟩, hp, he⟩
    obtain ⟨hprop, rfl, hv⟩ := (mem_attributeEntries _ _ _).mp he
    exact ⟨v, hp, hprop, hv⟩
  · rintro ⟨v, hp, hprop, hv⟩
    exact ⟨_, hp, (mem_attributeEntries _ _ _).mpr ⟨hprop, rfl, hv⟩⟩

/-- Sorting keeps exactly the entries. -/
theorem children_perm (n : Node) : n.children.Perm n.entries :=
  List.mergeSort_perm _ _

/-- One of several nodes is not larger than all of them together. -/
theorem sizeOf_le_totalSize {m : Node} {ns : List Node} (h : m ∈ ns) :
    sizeOf m ≤ totalSize ns := by
  induction ns with
  | nil => simp at h
  | cons n rest ih =>
    rw [totalSize]
    rcases List.mem_cons.mp h with rfl | h
    · omega
    · have := ih h
      omega

/-- A child is smaller than the node it hangs on. -/
theorem sizeOf_lt_of_mem_children {n : Node} {e : Entry} (h : e ∈ n.children) :
    sizeOf e.node < sizeOf n :=
  lt_of_le_of_lt (sizeOf_le_totalSize (List.mem_map_of_mem h)) n.totalSize_children

/-- Induction over what hangs on a node: a property that a node has as soon as all its
    children have it holds of every node. -/
@[elab_as_elim]
theorem inductionOnChildren {motive : Node → Prop} (n : Node)
    (step : ∀ n : Node, (∀ e ∈ n.children, motive e.node) → motive n) : motive n :=
  step n fun e he =>
    have := sizeOf_lt_of_mem_children he
    inductionOnChildren e.node step
termination_by sizeOf n

/-- Entries that are in reading order already are the children. -/
theorem children_eq_entries {n : Node} (h : n.entries.Pairwise fun a b => a.le b = true) :
    n.children = n.entries :=
  List.mergeSort_of_pairwise h

end Node

/-! ### Declaration order -/

namespace Node

/-- The names of the attributes in declaration order. -/
def names (n : Node) : List String :=
  n.attributes.map (·.1)

/-- Every name stands for one attribute. -/
def Distinct (n : Node) : Prop :=
  n.names.Nodup

instance (n : Node) : Decidable n.Distinct :=
  inferInstanceAs (Decidable n.names.Nodup)

/-- The place of a property in the declaration order. -/
def rank (n : Node) (prop : String) : Nat :=
  n.names.idxOf prop

/-- What the children of a node are ordered by: line, column, declaration order of the
    property, position in its list. -/
def sourceKey (n : Node) (e : Entry) : ℤ ×ₗ ℤ ×ₗ ℕ ×ₗ ℕ :=
  toLex (e.node.position.line, toLex (e.node.position.column,
    toLex (n.rank e.prop, e.position.getD 0)))

/-- One entry is declared before another. -/
def DeclaredBefore (n : Node) (a b : Entry) : Prop :=
  n.rank a.prop < n.rank b.prop ∨
    (n.rank a.prop = n.rank b.prop ∧ a.position.getD 0 < b.position.getD 0)

/-- With distinct names, a later attribute has a higher rank. -/
theorem pairwise_rank {n : Node} (h : n.Distinct) :
    n.attributes.Pairwise fun p q => n.rank p.1 < n.rank q.1 := by
  have hnames : n.names.Pairwise fun p q => n.rank p < n.rank q := by
    rw [List.pairwise_iff_getElem]
    intro i j hi hj hij
    simp only [rank, h.idxOf_getElem]
    exact hij
  unfold names at hnames
  rw [List.pairwise_map] at hnames
  exact hnames

end Node

/-- The positions in a list increase. -/
theorem listEntries_pairwise (prop : String) (first : Nat) (items : List Value) :
    (listEntries prop first items).Pairwise fun a b => a.position.getD 0 < b.position.getD 0 := by
  fun_induction listEntries prop first items with
  | case1 => exact .nil
  | case2 first n rest ih =>
    refine List.pairwise_cons.mpr ⟨?_, ih⟩
    intro e he
    obtain ⟨k, -, -, hpos⟩ := (mem_listEntries _ _ _ _).mp he
    simp only [hpos, Option.getD_some]
    omega
  | case3 first v rest _ ih => exact ih

/-- The entries of one attribute increase by position. -/
theorem attributeEntries_pairwise (prop : String) (v : Value) :
    (attributeEntries prop v).Pairwise fun a b => a.position.getD 0 < b.position.getD 0 := by
  unfold attributeEntries
  split
  · exact .nil
  · split
    · exact List.pairwise_singleton _ _
    · exact listEntries_pairwise _ _ _
    · exact .nil

namespace Node

/-- With distinct names, entries stand in declaration order. -/
theorem entries_pairwise_declaredBefore {n : Node} (h : n.Distinct) :
    n.entries.Pairwise n.DeclaredBefore := by
  have hprop : ∀ p ∈ n.attributes, ∀ e ∈ attributeEntries p.1 p.2, e.prop = p.1 :=
    fun p _ e he => ((mem_attributeEntries _ _ _).mp he).2.1
  refine List.pairwise_flatMap.mpr ⟨?_, ?_⟩
  · -- inside one attribute the position decides
    intro p hp
    refine (attributeEntries_pairwise p.1 p.2).imp_of_mem ?_
    intro a b ha hb hab
    exact .inr ⟨by rw [hprop p hp a ha, hprop p hp b hb], hab⟩
  · -- across attributes the rank does
    refine (pairwise_rank h).imp_of_mem ?_
    intro p q hp hq hpq a ha b hb
    left
    rw [hprop p hp a ha, hprop q hq b hb]
    exact hpq

/-- An earlier location, or an equal one and an earlier declaration, is a smaller key. -/
theorem sourceKey_lt (n : Node) {a b : Entry} (hle : a.le b = true)
    (htie : b.le a = true → n.DeclaredBefore a b) : n.sourceKey a < n.sourceKey b := by
  unfold sourceKey
  simp only [Prod.Lex.toLex_lt_toLex]
  by_cases hba : b.le a = true
  · -- equal locations leave the decision to the declaration
    have hpos : a.node.position = b.node.position := Position.eq_of_le_of_le hle hba
    rw [hpos]
    exact .inr ⟨rfl, .inr ⟨rfl, htie hba⟩⟩
  · simp only [Entry.le, Position.le_iff] at hle hba
    omega

/-- **Source order.**  With distinct names the children of a node increase strictly by line,
    column, declaration order of the property and position in the list. -/
theorem children_pairwise_sourceKey {n : Node} (h : n.Distinct) :
    n.children.Pairwise fun a b => n.sourceKey a < n.sourceKey b := by
  -- the numbers of the entries make the stability of the sort visible
  let numbered := n.entries.zipIdx.mergeSort (List.zipIdxLE Entry.le)
  have htrans : ∀ a b c : Entry, a.le b = true → b.le c = true → a.le c = true :=
    fun _ _ _ => Position.le_trans
  have htotal : ∀ a b : Entry, (a.le b || b.le a) = true := fun _ _ => Position.le_total _ _
  have hsorted : numbered.Pairwise fun a b => List.zipIdxLE Entry.le a b = true :=
    List.pairwise_mergeSort (List.zipIdxLE_trans htrans) (List.zipIdxLE_total htotal) _
  have hnumbers : numbered.Pairwise fun a b => a.2 ≠ b.2 := by
    have hperm : (numbered.map (·.2)).Perm (n.entries.zipIdx.map (·.2)) :=
      (List.mergeSort_perm _ _).map _
    have hnodup : (numbered.map (·.2)).Nodup := by
      rw [hperm.nodup_iff, List.zipIdx_map_snd]
      exact List.nodup_range'
    exact List.pairwise_map.mp hnodup
  have hdeclared := List.pairwise_iff_getElem.mp (entries_pairwise_declaredBefore h)
  have hmap : n.children = numbered.map (·.1) := List.mergeSort_zipIdx.symm
  rw [hmap, List.pairwise_map]
  refine (hsorted.and hnumbers).imp_of_mem ?_
  rintro ⟨a, i⟩ ⟨b, j⟩ ha hb ⟨hle, hne⟩
  have hab : a.le b = true := by
    by_contra hcon
    simp [List.zipIdxLE, hcon] at hle
  -- a tie is settled by the numbers, which follow the declaration
  refine n.sourceKey_lt hab fun hba => ?_
  have hij : i < j := by
    have : i ≤ j := by simpa [List.zipIdxLE, hab, hba] using hle
    omega
  have hgeti : n.entries[i]? = some a :=
    List.mem_zipIdx_iff_getElem?.mp (List.mem_mergeSort.mp ha)
  have hgetj : n.entries[j]? = some b :=
    List.mem_zipIdx_iff_getElem?.mp (List.mem_mergeSort.mp hb)
  obtain ⟨hi, rfl⟩ := List.getElem?_eq_some_iff.mp hgeti
  obtain ⟨hj, rfl⟩ := List.getElem?_eq_some_iff.mp hgetj
  exact hdeclared i j hi hj hij

end Node

/-! ### One property -/

/-- An attribute contributes all its entries to its own property and none to another. -/
theorem filter_prop_attributeEntries (name prop : String) (v : Value) :
    (attributeEntries name v).filter (fun e => e.prop = prop) =
      if name = prop then attributeEntries name v else [] := by
  have hprop : ∀ e ∈ attributeEntries name v, e.prop = name :=
    fun e he => ((mem_attributeEntries _ _ _).mp he).2.1
  split
  · rename_i hname
    rw [List.filter_eq_self]
    intro e he
    simp [hprop e he, hname]
  · rename_i hname
    rw [List.filter_eq_nil_iff]
    intro e he
    simp [hprop e he, hname]

/-- The entries of a property in a list of attributes with distinct names. -/
theorem filter_prop_flatMap {attrs : List (String × Value)} (h : (attrs.map (·.1)).Nodup)
    (prop : String) :
    (attrs.flatMap fun p => attributeEntries p.1 p.2).filter (fun e => e.prop = prop) =
      ((Fields.get? attrs prop).map (attributeEntries prop)).getD [] := by
  induction attrs with
  | nil => rfl
  | cons p rest ih =>
    obtain ⟨name, v⟩ := p
    rw [List.map_cons, List.nodup_cons] at h
    rw [List.flatMap_cons, List.filter_append, filter_prop_attributeEntries, ih h.2, Fields.get?]
    by_cases hname : name = prop
    · -- the name does not come again, so the rest has nothing to add
      subst hname
      rw [Fields.get?_eq_none_of_notMem h.1]
      simp
    · simp [hname]

/-- **One property.**  With distinct names, the entries of a property are those of the one
    attribute of that name. -/
theorem Node.filter_prop_entries {n : Node} (h : n.Distinct) (prop : String) :
    n.entries.filter (fun e => e.prop = prop) =
      ((Fields.get? n.attributes prop).map (attributeEntries prop)).getD [] :=
  filter_prop_flatMap h prop

/-- Sorting keeps the entries of a property together. -/
theorem Node.filter_prop_children {n : Node} (h : n.Distinct) (prop : String) :
    (n.children.filter fun e => e.prop = prop).Perm
      (((Fields.get? n.attributes prop).map (attributeEntries prop)).getD []) := by
  rw [← Node.filter_prop_entries h]
  exact n.children_perm.filter _

end SymbolTags.Syntax
