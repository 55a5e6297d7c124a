import SymbolTags.Proofs.Children
import SymbolTags.Syntax.Tree

namespace SymbolTags.Syntax

/-!
# Layout — the arena while it is built

`expand` takes pending occurrences from a stack and lays the children of each out at the end
of the arena, so the indices follow neither pre-order nor levels.  What holds all the way is
local to an occurrence and its children:

* `settle` — the arena after one round of the loop, with its reading lemmas;
* `Settled` — the children of an occurrence are laid out side by side, behind it, each with
  the node and the link that its entry asks for;
* `Laying` — the invariant of the loop: every occurrence is pending or settled;
* `Laying.settle` — one round keeps it, hence `Laying.expand` a whole run;
* `Tree.Layout` — what is left of it when nothing is pending, and `Tree.ofRoot_layout`.
-/

/-! ### One round -/

/-- The occurrence that an entry becomes when it is laid out. -/
def Entry.occurrence (e : Entry) (parent index : Nat) : Occurrence :=
  { index := index, node := e.node, link := some ⟨parent, e.prop, e.position⟩ }

/-- Entries are laid out one after the other. -/
theorem getElem?_childOccurrences (parent first : Nat) (es : List Entry) (k : Nat) :
    (childOccurrences parent first es)[k]? = es[k]?.map (·.occurrence parent (first + k)) := by
  induction es generalizing first k with
  | nil => rfl
  | cons e rest ih =>
    cases k with
    | zero => rfl
    | succ k =>
      rw [childOccurrences, List.getElem?_cons_succ, List.getElem?_cons_succ, ih]
      rw [Nat.add_right_comm, Nat.add_assoc]

/-- The indices of the children are the next free ones. -/
theorem map_index_childOccurrences (parent first : Nat) (es : List Entry) :
    (childOccurrences parent first es).map (·.index) = List.range' first es.length := by
  induction es generalizing first with
  | nil => rfl
  | cons e rest ih =>
    rw [childOccurrences, List.map_cons, ih, List.length_cons, List.range'_succ]

/-- Every entry becomes one occurrence. -/
theorem length_childOccurrences (parent first : Nat) (es : List Entry) :
    (childOccurrences parent first es).length = es.length := by
  have h := congrArg List.length (map_index_childOccurrences parent first es)
  rwa [List.length_map, List.length_range'] at h

/-- The arena after an occurrence got its children. -/
def settle (arena : Array Occurrence) (o : Occurrence) : Array Occurrence :=
  let added := childOccurrences o.index arena.size o.node.children
  (arena.modify o.index fun o => { o with children := added.map (·.index) }) ++ added

/-- One round of the loop. -/
theorem expand_cons (o : Occurrence) (rest : List Occurrence) (arena : Array Occurrence) :
    expand (o :: rest) arena =
      expand ((childOccurrences o.index arena.size o.node.children).reverse ++ rest)
        (settle arena o) := by
  rw [expand]
  rfl

/-- The list form of a round. -/
theorem toList_settle (arena : Array Occurrence) (o : Occurrence) :
    (settle arena o).toList =
      arena.toList.modify o.index
          (fun p => { p with children := List.range' arena.size o.node.children.length }) ++
        childOccurrences o.index arena.size o.node.children := by
  simp only [settle, map_index_childOccurrences, Array.toList_appendList, Array.toList_modify]

/-- A round grows the arena by the children. -/
theorem size_settle (arena : Array Occurrence) (o : Occurrence) :
    (settle arena o).size = arena.size + o.node.children.length := by
  rw [← Array.length_toList, toList_settle, List.length_append, List.length_modify,
    length_childOccurrences, Array.length_toList]

/-- What stood in the arena stays, but for the children of the occurrence itself. -/
theorem getElem?_settle_of_lt {arena : Array Occurrence} {i : Nat} (o : Occurrence)
    (h : i < arena.size) :
    (settle arena o)[i]? = arena[i]?.map fun p =>
      if o.index = i then
        { p with children := List.range' arena.size o.node.children.length }
      else p := by
  rw [← Array.getElem?_toList, toList_settle, List.getElem?_append_left (by simpa using h),
    List.getElem?_modify, Array.getElem?_toList]
  by_cases hi : o.index = i
  · simp [hi]
  · simp [hi]

/-- Behind the old arena stand the children. -/
theorem getElem?_settle_add (arena : Array Occurrence) (o : Occurrence) (k : Nat) :
    (settle arena o)[arena.size + k]? =
      o.node.children[k]?.map (·.occurrence o.index (arena.size + k)) := by
  rw [← Array.getElem?_toList, toList_settle, List.getElem?_append_right (by simp),
    getElem?_childOccurrences]
  simp

/-- **What a round does.**  Whatever stands in the arena after a round stood there before, is
    the occurrence that got its children, or is one of these children. -/
theorem settle_cases {arena : Array Occurrence} {o q : Occurrence} {i : Nat}
    (h : (settle arena o)[i]? = some q) :
    (arena[i]? = some q ∧ o.index ≠ i) ∨
      (∃ p, arena[i]? = some p ∧ o.index = i ∧
        q = { p with children := List.range' arena.size o.node.children.length }) ∨
      ∃ k e, i = arena.size + k ∧ o.node.children[k]? = some e ∧ q = e.occurrence o.index i := by
  by_cases hi : i < arena.size
  · rw [getElem?_settle_of_lt o hi, Option.map_eq_some_iff] at h
    obtain ⟨p, hp, rfl⟩ := h
    by_cases ho : o.index = i
    · exact .inr (.inl ⟨p, hp, ho, by rw [if_pos ho]⟩)
    · exact .inl ⟨by rw [if_neg ho]; exact hp, ho⟩
  · obtain ⟨k, rfl⟩ := Nat.exists_eq_add_of_le (not_lt.mp hi)
    rw [getElem?_settle_add, Option.map_eq_some_iff] at h
    obtain ⟨e, he, rfl⟩ := h
    exact .inr (.inr ⟨k, e, rfl, he, rfl⟩)

/-- Occurrences other than the one that got its children stay as they are. -/
theorem getElem?_settle_of_ne {arena : Array Occurrence} {o p : Occurrence} {i : Nat}
    (h : arena[i]? = some p) (hne : o.index ≠ i) : (settle arena o)[i]? = some p := by
  have hi : i < arena.size := (Array.getElem?_eq_some_iff.mp h).1
  rw [getElem?_settle_of_lt o hi, h, Option.map_some, if_neg hne]

/-- The occurrence that got its children keeps its place. -/
theorem getElem?_settle_self {arena : Array Occurrence} {o : Occurrence}
    (h : arena[o.index]? = some o) :
    (settle arena o)[o.index]? =
      some { o with children := List.range' arena.size o.node.children.length } := by
  have hi : o.index < arena.size := (Array.getElem?_eq_some_iff.mp h).1
  rw [getElem?_settle_of_lt o hi, h, Option.map_some, if_pos rfl]

/-! ### The invariant -/

/-- An index holds the occurrence that an entry of a parent becomes. -/
def Hangs (arena : Array Occurrence) (parent i : Nat) (e : Entry) : Prop :=
  ∃ o, arena[i]? = some o ∧ o.node = e.node ∧ o.link = some ⟨parent, e.prop, e.position⟩

/-- The children of an occurrence are laid out side by side, behind it. -/
def Settled (arena : Array Occurrence) (o : Occurrence) : Prop :=
  ∃ first, o.index < first ∧ o.children = List.range' first o.node.children.length ∧
    ∀ k e, o.node.children[k]? = some e → Hangs arena o.index (first + k) e

/-- The state of the loop that lays out a root: every occurrence of the arena is settled, or
    is pending and has no children yet. -/
structure Laying (root : Node) (pending : List Occurrence) (arena : Array Occurrence) :
    Prop where
  /-- Every occurrence stands at its own index. -/
  index_eq : ∀ {i : Nat} {o : Occurrence}, arena[i]? = some o → o.index = i
  /-- The root stands first and hangs on nothing. -/
  root_get : ∃ o, arena[0]? = some o ∧ o.node = root ∧ o.link = none
  /-- Everything else hangs on an earlier occurrence, which knows it as a child. -/
  linked : ∀ {i : Nat} {o : Occurrence}, arena[i]? = some o → i ≠ 0 →
    ∃ l p, o.link = some l ∧ l.parent < i ∧ arena[l.parent]? = some p ∧ i ∈ p.children
  /-- Pending occurrences stand in the arena. -/
  pending_get : ∀ {o : Occurrence}, o ∈ pending → arena[o.index]? = some o
  /-- No occurrence is pending twice. -/
  pending_nodup : (pending.map (·.index)).Nodup
  /-- Pending occurrences have no children yet. -/
  pending_children : ∀ {o : Occurrence}, o ∈ pending → o.children = []
  /-- All others have all of theirs. -/
  settled : ∀ {i : Nat} {o : Occurrence}, arena[i]? = some o → o ∈ pending ∨ Settled arena o

/-- What hangs somewhere keeps hanging there. -/
theorem Hangs.settle {arena : Array Occurrence} {parent i : Nat} {e : Entry} (o : Occurrence)
    (h : Hangs arena parent i e) : Hangs (settle arena o) parent i e := by
  obtain ⟨p, hp, hnode, hlink⟩ := h
  have hi : i < arena.size := (Array.getElem?_eq_some_iff.mp hp).1
  refine ⟨_, by rw [getElem?_settle_of_lt o hi, hp, Option.map_some], ?_, ?_⟩
  · rw [← hnode]; split <;> rfl
  · rw [← hlink]; split <;> rfl

/-- What is settled stays settled. -/
theorem Settled.settle {arena : Array Occurrence} {p : Occurrence} (o : Occurrence)
    (h : Settled arena p) : Settled (settle arena o) p := by
  obtain ⟨first, hlt, hchildren, hhangs⟩ := h
  exact ⟨first, hlt, hchildren, fun k e he => (hhangs k e he).settle o⟩

/-- The occurrence that got its children is settled. -/
theorem settled_settle {arena : Array Occurrence} {o : Occurrence} (ho : o.index < arena.size) :
    Settled (settle arena o)
      { o with children := List.range' arena.size o.node.children.length } := by
  refine ⟨arena.size, ho, rfl, fun k e he => ?_⟩
  exact ⟨_, by rw [getElem?_settle_add, he, Option.map_some], rfl, rfl⟩

/-- The loop starts with the root pending. -/
theorem Laying.start (root : Node) :
    Laying root [{ index := 0, node := root, link := none }]
      #[{ index := 0, node := root, link := none }] where
  index_eq := by
    intro i o h
    obtain ⟨hi, rfl⟩ := Array.getElem?_eq_some_iff.mp h
    simp at hi
    simp [hi]
  root_get := ⟨_, rfl, rfl, rfl⟩
  linked := by
    intro i o h hne
    obtain ⟨hi, -⟩ := Array.getElem?_eq_some_iff.mp h
    simp at hi
    exact absurd hi hne
  pending_get := by
    intro o h
    rw [List.mem_singleton] at h
    subst h
    rfl
  pending_nodup := by simp
  pending_children := by
    intro o h
    rw [List.mem_singleton] at h
    subst h
    rfl
  settled := by
    intro i o h
    obtain ⟨hi, rfl⟩ := Array.getElem?_eq_some_iff.mp h
    simp at hi
    exact .inl (by simp [hi])

/-- The occurrences that a round adds. -/
theorem mem_childOccurrences {parent first : Nat} {es : List Entry} {q : Occurrence} :
    q ∈ childOccurrences parent first es ↔
      ∃ (k : Nat) (e : Entry), es[k]? = some e ∧ q = e.occurrence parent (first + k) := by
  rw [List.mem_iff_getElem?]
  constructor
  · rintro ⟨k, hk⟩
    rw [getElem?_childOccurrences, Option.map_eq_some_iff] at hk
    obtain ⟨e, he, rfl⟩ := hk
    exact ⟨k, e, he, rfl⟩
  · rintro ⟨k, e, he, rfl⟩
    exact ⟨k, by rw [getElem?_childOccurrences, he, Option.map_some]⟩

namespace Laying

variable {root : Node} {o : Occurrence} {pending rest : List Occurrence}
  {arena : Array Occurrence}

/-- The occurrence at the index of a pending one is that one. -/
theorem eq_of_pending (h : Laying root pending arena) (ho : o ∈ pending) {p : Occurrence}
    (hp : arena[o.index]? = some p) : p = o := by
  rw [h.pending_get ho] at hp
  exact (Option.some.inj hp).symm

/-- Pending occurrences lie inside the arena. -/
theorem index_lt (h : Laying root pending arena) (ho : o ∈ pending) : o.index < arena.size :=
  (Array.getElem?_eq_some_iff.mp (h.pending_get ho)).1

/-- The pending occurrences below the top of the stack have other indices. -/
theorem index_ne (h : Laying root (o :: rest) arena) {q : Occurrence} (hq : q ∈ rest) :
    o.index ≠ q.index := by
  have hnodup := h.pending_nodup
  rw [List.map_cons, List.nodup_cons] at hnodup
  exact fun heq => hnodup.1 (heq ▸ List.mem_map_of_mem hq)

/-- A round leaves everything but the root hanging on something. -/
theorem linked_settle (h : Laying root (o :: rest) arena) {i : Nat} {q : Occurrence}
    (hq : (settle arena o)[i]? = some q) (hi : i ≠ 0) :
    ∃ l p, q.link = some l ∧ l.parent < i ∧ (settle arena o)[l.parent]? = some p ∧
      i ∈ p.children := by
  have hoget : arena[o.index]? = some o := h.pending_get (by simp)
  obtain ⟨hold, -⟩ | ⟨p, hp, rfl, rfl⟩ | ⟨k, e, rfl, he, rfl⟩ := settle_cases hq
  · obtain ⟨l, p, hlink, hlt, hp, hmem⟩ := h.linked hold hi
    -- the parent is not the occurrence that gets its children, which had none
    have hne : o.index ≠ l.parent := by
      intro heq
      rw [← heq] at hp
      rw [h.eq_of_pending (by simp) hp, h.pending_children (by simp)] at hmem
      simp at hmem
    exact ⟨l, p, hlink, hlt, getElem?_settle_of_ne hp hne, hmem⟩
  · -- the occurrence itself keeps its link, and its parent stands before it
    obtain ⟨l, p', hlink, hlt, hp', hmem⟩ := h.linked hp hi
    exact ⟨l, p', hlink, hlt, getElem?_settle_of_ne hp' (by omega), hmem⟩
  · -- a new occurrence hangs on the one that was taken off the stack
    have hk : k < o.node.children.length := (List.getElem?_eq_some_iff.mp he).1
    refine ⟨_, _, rfl, ?_, getElem?_settle_self hoget, ?_⟩
    · have := h.index_lt (o := o) (by simp)
      show o.index < arena.size + k
      omega
    · show arena.size + k ∈ List.range' arena.size o.node.children.length
      rw [List.mem_range'_1]
      omega

/-- **Step.**  One round of the loop keeps the invariant. -/
theorem settle (h : Laying root (o :: rest) arena) :
    Laying root ((childOccurrences o.index arena.size o.node.children).reverse ++ rest)
      (settle arena o) where
  index_eq := by
    intro i q hq
    obtain ⟨hold, -⟩ | ⟨p, hp, rfl, rfl⟩ | ⟨k, e, rfl, he, rfl⟩ := settle_cases hq
    · exact h.index_eq hold
    · show p.index = o.index
      exact h.index_eq hp
    · rfl
  root_get := by
    obtain ⟨r, hr, hnode, hlink⟩ := h.root_get
    have hsize : 0 < arena.size := (Array.getElem?_eq_some_iff.mp hr).1
    refine ⟨_, by rw [getElem?_settle_of_lt o hsize, hr, Option.map_some], ?_, ?_⟩
    · rw [← hnode]; split <;> rfl
    · rw [← hlink]; split <;> rfl
  linked := h.linked_settle
  pending_get := by
    intro q hq
    rw [List.mem_append, List.mem_reverse, mem_childOccurrences] at hq
    rcases hq with ⟨k, e, he, rfl⟩ | hq
    · show (Syntax.settle arena o)[arena.size + k]? = _
      rw [getElem?_settle_add, he, Option.map_some]
    · exact getElem?_settle_of_ne (h.pending_get (List.mem_cons_of_mem _ hq)) (h.index_ne hq)
  pending_nodup := by
    rw [List.map_append, List.map_reverse, map_index_childOccurrences, List.nodup_append]
    refine ⟨List.nodup_reverse.mpr List.nodup_range', ?_, ?_⟩
    · have hnodup := h.pending_nodup
      rw [List.map_cons, List.nodup_cons] at hnodup
      exact hnodup.2
    · -- new indices lie behind the arena, pending ones inside
      intro i hi j hj
      obtain ⟨q, hq, rfl⟩ := List.mem_map.mp hj
      rw [List.mem_reverse, List.mem_range'_1] at hi
      have := h.index_lt (List.mem_cons_of_mem o hq)
      omega
  pending_children := by
    intro q hq
    rw [List.mem_append, List.mem_reverse, mem_childOccurrences] at hq
    rcases hq with ⟨k, e, he, rfl⟩ | hq
    · rfl
    · exact h.pending_children (List.mem_cons_of_mem _ hq)
  settled := by
    intro i q hq
    obtain ⟨hold, hne⟩ | ⟨p, hp, rfl, rfl⟩ | ⟨k, e, rfl, he, rfl⟩ := settle_cases hq
    · rcases h.settled hold with hmem | hset
      · -- only the top of the stack stops being pending, and it does not stand here
        rcases List.mem_cons.mp hmem with rfl | hmem
        · exact absurd (h.index_eq hold) hne
        · exact .inl (List.mem_append_right _ hmem)
      · exact .inr (hset.settle o)
    · obtain rfl := h.eq_of_pending (by simp) hp
      exact .inr (settled_settle (h.index_lt (by simp)))
    · left
      rw [List.mem_append, List.mem_reverse, mem_childOccurrences]
      exact .inl ⟨k, e, he, rfl⟩

/-- **Run.**  The loop keeps the invariant until nothing is pending. -/
theorem expand (h : Laying root pending arena) : Laying root [] (expand pending arena) := by
  fun_induction Syntax.expand pending arena with
  | case1 arena => exact h
  | case2 arena o rest added indices settled ih => exact ih h.settle

end Laying

/-! ### The finished arena -/

namespace Tree

/-- The arena of a root: the root stands first, everything else hangs on an earlier
    occurrence, and the children of every occurrence are laid out. -/
structure Layout (t : Tree) (root : Node) : Prop where
  /-- Every occurrence stands at its own index. -/
  index_eq : ∀ {i : Nat} {o : Occurrence}, t.get? i = some o → o.index = i
  /-- The root stands first and hangs on nothing. -/
  root_get : ∃ o, t.get? 0 = some o ∧ o.node = root ∧ o.link = none
  /-- Everything else hangs on an earlier occurrence, which knows it as a child. -/
  linked : ∀ {i : Nat} {o : Occurrence}, t.get? i = some o → i ≠ 0 →
    ∃ l p, o.link = some l ∧ l.parent < i ∧ t.get? l.parent = some p ∧ i ∈ p.children
  /-- The children of every occurrence are laid out. -/
  settled : ∀ {i : Nat} {o : Occurrence}, t.get? i = some o → Settled t.occurrences o

/-- The arena of a root is laid out. -/
theorem ofRoot_layout (root : Node) : (ofRoot root).Layout root := by
  have h := (Laying.start root).expand
  exact ⟨h.index_eq, h.root_get, h.linked, fun ho => (h.settled ho).resolve_left (by simp)⟩

namespace Layout

variable {t : Tree} {root : Node}

/-- The indices of the arena are counted up from 0. -/
theorem map_index_occurrences (h : t.Layout root) :
    t.occurrences.toList.map (·.index) = List.range t.size := by
  apply List.ext_getElem
  · rw [List.length_map, List.length_range]
    exact Array.length_toList
  · intro i hi hi'
    rw [List.getElem_map, List.getElem_range]
    rw [List.length_range] at hi'
    exact h.index_eq (Array.getElem?_eq_getElem hi')

/-- No occurrence stands in the arena twice. -/
theorem nodup_occurrences (h : t.Layout root) : t.occurrences.toList.Nodup := by
  apply List.Nodup.of_map (·.index)
  rw [h.map_index_occurrences]
  exact List.nodup_range

/-- The children of an occurrence answer to the entries of its node, one by one. -/
theorem forall₂_children (h : t.Layout root) {i : Nat} {o : Occurrence} (ho : t.get? i = some o) :
    List.Forall₂ (Hangs t.occurrences i) o.children o.node.children := by
  obtain ⟨first, -, hchildren, hhangs⟩ := h.settled ho
  rw [hchildren, List.forall₂_iff_get]
  refine ⟨List.length_range', fun k hk hk' => ?_⟩
  rw [← h.index_eq ho]
  simp only [List.get_eq_getElem, List.getElem_range', Nat.one_mul]
  exact hhangs k _ (List.getElem?_eq_getElem hk')

/-- A child stands behind its parent and its link names the parent. -/
theorem of_mem_children (h : t.Layout root) {i c : Nat} {o : Occurrence}
    (ho : t.get? i = some o) (hc : c ∈ o.children) :
    i < c ∧ ∃ k l, t.get? c = some k ∧ k.link = some l ∧ l.parent = i := by
  obtain ⟨first, hlt, hchildren, hhangs⟩ := h.settled ho
  rw [hchildren, List.mem_range'_1] at hc
  have hindex := h.index_eq ho
  have hlen : c - first < o.node.children.length := by omega
  obtain ⟨k, hk, -, hlink⟩ := hhangs (c - first) _ (List.getElem?_eq_getElem hlen)
  refine ⟨by omega, k, _, ?_, hlink, hindex⟩
  rwa [Nat.add_sub_cancel' hc.1] at hk

end Layout

end Tree

end SymbolTags.Syntax
