import Mathlib.Algebra.Ring.Nat
import Mathlib.Data.List.Perm.Subperm
import SymbolTags.Proofs.Layout

namespace SymbolTags.Syntax

/-!
# Unfolding — pre-order without an arena

The unfolding of a root has one spot for each way down from it, so a node object that is
reused has a spot for each of its uses.  `Node.unfold` lists the spots by plain recursion over
the children.  The walk over the arena goes by a stack of indices instead, and this file
shows that both meet the same spots in the same order:

* `Tree.spot` — the spot that an occurrence stands for, read off its links;
* `Tree.Layout.ancestors_eq` — the climb to the root never runs out of steps;
* `Tree.Traverses` — the recursion that the stack of a walk goes through, and
  `Tree.Traverses.visit_eq`, which says so;
* `Tree.Layout.exists_traverses` — the recursion follows the unfolding;
* `Tree.size_ofRoot` — there are as many occurrences as spots, so the steps that the walk is
  given are the steps that it takes.
-/

/-- One step down: the node that is left, the property and, in a list, the position. -/
structure Step where
  parent : Node
  prop : String
  position : Option Nat

/-- A place in the unfolding of a root: a node and the steps that lead to it, the last one
    first. -/
structure Spot where
  node : Node
  above : List Step

/-- The step from a node to one of its entries. -/
def Entry.step (e : Entry) (parent : Node) : Step :=
  ⟨parent, e.prop, e.position⟩

/-- The spots at and below a node in pre-order, given the steps that lead to the node. -/
def Node.unfold (n : Node) (above : List Step) : List Spot :=
  ⟨n, above⟩ :: n.children.attach.flatMap fun e => e.1.node.unfold (e.1.step n :: above)
termination_by sizeOf n
decreasing_by exact Node.sizeOf_lt_of_mem_children e.2

/-- The unfolding of a node is the node, followed by the unfoldings of its children. -/
theorem Node.unfold_eq (n : Node) (above : List Step) :
    n.unfold above =
      ⟨n, above⟩ :: n.children.flatMap fun e => e.node.unfold (e.step n :: above) := by
  rw [Node.unfold]
  congr 1
  conv_rhs => rw [← List.attach_map_subtype_val n.children, List.flatMap_map]

/-- A property of all spots at and below a node, one node at a time.  The order of the children
    does not matter for it. -/
theorem Node.forall_mem_unfold {P : Spot → Prop} (n : Node) (above : List Step) :
    (∀ s ∈ n.unfold above, P s) ↔
      P ⟨n, above⟩ ∧ ∀ e ∈ n.entries, ∀ s ∈ e.node.unfold (e.step n :: above), P s := by
  rw [Node.unfold_eq, List.forall_mem_cons]
  refine and_congr_right fun _ => ?_
  constructor
  · intro h e he s hs
    exact h s (List.mem_flatMap.mpr ⟨e, n.children_perm.mem_iff.mpr he, hs⟩)
  · intro h s hs
    obtain ⟨e, he, hs⟩ := List.mem_flatMap.mp hs
    exact h e (n.children_perm.mem_iff.mp he) s hs

/-- A spot seen from further above. -/
def Spot.under (outer : List Step) (s : Spot) : Spot :=
  ⟨s.node, s.above ++ outer⟩

/-- What lies below a node does not depend on what lies above it. -/
theorem Node.unfold_append (n : Node) (inner outer : List Step) :
    n.unfold (inner ++ outer) = (n.unfold inner).map (Spot.under outer) := by
  induction n using Node.inductionOnChildren generalizing inner with
  | step n ih =>
    rw [Node.unfold_eq, Node.unfold_eq, List.map_cons, List.map_flatMap]
    refine congrArg₂ List.cons rfl (List.flatMap_congr fun e he => ?_)
    rw [← List.cons_append, ih e he]

/-- The nodes at and below a node in pre-order. -/
def Node.nodes (n : Node) : List Node :=
  (n.unfold []).map (·.node)

theorem Node.map_node_unfold (n : Node) (above : List Step) :
    (n.unfold above).map (·.node) = n.nodes := by
  have h := n.unfold_append [] above
  rw [List.nil_append] at h
  rw [h, List.map_map]
  rfl

/-- The pre-order of a node is the node, followed by the pre-orders of its children. -/
theorem Node.nodes_eq (n : Node) :
    n.nodes = n :: n.children.flatMap fun e => e.node.nodes := by
  rw [nodes, unfold_eq, List.map_cons, List.map_flatMap]
  simp only [map_node_unfold]

/-- A property of all nodes at and below a node, one node at a time. -/
theorem Node.forall_mem_nodes {P : Node → Prop} (n : Node) :
    (∀ m ∈ n.nodes, P m) ↔ P n ∧ ∀ e ∈ n.entries, ∀ m ∈ e.node.nodes, P m := by
  rw [nodes_eq, List.forall_mem_cons]
  simp only [List.mem_flatMap, n.children_perm.mem_iff]
  refine and_congr_right fun _ => ⟨fun h e he m hm => h m ⟨e, he, hm⟩, ?_⟩
  rintro h m ⟨e, he, hm⟩
  exact h e he m hm

/-- The number of spots at and below a node. -/
def Node.count (n : Node) : Nat :=
  (n.unfold []).length

theorem Node.length_unfold (n : Node) (above : List Step) : (n.unfold above).length = n.count := by
  have h := congrArg List.length (n.map_node_unfold above)
  rwa [Node.nodes, List.length_map, List.length_map] at h

/-- A node counts itself and what its children count. -/
theorem Node.count_eq (n : Node) :
    n.count = 1 + (n.children.map fun e => e.node.count).sum := by
  rw [Node.count, Node.unfold_eq, List.length_cons, List.length_flatMap, Nat.add_comm]
  congr 2
  exact List.map_congr_left fun e _ => e.node.length_unfold _

/-! ### The way up -/

namespace Tree

/-- The spot that an occurrence stands for. -/
def spot (t : Tree) (o : Occurrence) : Spot :=
  ⟨o.node, (t.ancestors o).map fun a => ⟨a.2.node, a.1.prop, a.1.position⟩⟩

namespace Layout

variable {t : Tree} {root : Node}

/-- An occurrence at an index above 0 has a parent. -/
theorem exists_parent (h : t.Layout root) {i : Nat} {o : Occurrence} {l : Link}
    (ho : t.get? i = some o) (hl : o.link = some l) :
    l.parent < i ∧ ∃ p, t.get? l.parent = some p ∧ i ∈ p.children := by
  have hi : i ≠ 0 := by
    rintro rfl
    obtain ⟨r, hr, -, hlink⟩ := h.root_get
    rw [hr, Option.some.injEq] at ho
    subst ho
    rw [hlink] at hl
    simp at hl
  obtain ⟨l', p, hl', hlt, hp, hmem⟩ := h.linked ho hi
  rw [hl', Option.some.injEq] at hl
  subst hl
  exact ⟨hlt, p, hp, hmem⟩

/-- The index of an occurrence bounds the climb: more steps do not lead further. -/
theorem climb_eq (h : t.Layout root) {i : Nat} {o : Occurrence} (ho : t.get? i = some o)
    {steps : Nat} (hsteps : i ≤ steps) : t.climb steps o.link = t.climb i o.link := by
  induction i using Nat.strong_induction_on generalizing o steps with
  | _ i ih =>
    cases hl : o.link with
    | none => rw [climb, climb]
    | some l =>
      obtain ⟨hlt, p, hp, -⟩ := h.exists_parent ho hl
      obtain ⟨steps, rfl⟩ := Nat.exists_eq_succ_of_ne_zero (show steps ≠ 0 by omega)
      obtain ⟨j, rfl⟩ := Nat.exists_eq_succ_of_ne_zero (show i ≠ 0 by omega)
      -- both climbs reach the parent with enough steps left for it
      simp only [climb, hp]
      rw [ih l.parent hlt hp (show l.parent ≤ steps by omega),
        ih l.parent hlt hp (show l.parent ≤ j by omega)]

/-- The climb from an occurrence starts at its parent and goes on from there. -/
theorem ancestors_eq (h : t.Layout root) {i : Nat} {o p : Occurrence} {l : Link}
    (ho : t.get? i = some o) (hl : o.link = some l) (hp : t.get? l.parent = some p) :
    t.ancestors o = (l, p) :: t.ancestors p := by
  have hlt : l.parent < i := (h.exists_parent ho hl).1
  have hi := h.index_eq ho
  have hpi := h.index_eq hp
  obtain ⟨j, rfl⟩ := Nat.exists_eq_succ_of_ne_zero (show i ≠ 0 by omega)
  unfold ancestors
  rw [hi, hl]
  simp only [climb, hp]
  rw [hpi, h.climb_eq hp (show l.parent ≤ j by omega)]

/-- The spot of an occurrence is one step below that of its parent. -/
theorem spot_eq (h : t.Layout root) {i : Nat} {o p : Occurrence} {l : Link}
    (ho : t.get? i = some o) (hl : o.link = some l) (hp : t.get? l.parent = some p) :
    t.spot o = ⟨o.node, ⟨p.node, l.prop, l.position⟩ :: (t.spot p).above⟩ := by
  unfold spot
  rw [h.ancestors_eq ho hl hp]
  rfl

end Layout

/-- An occurrence without a link stands at the top. -/
theorem spot_of_link_none (t : Tree) {o : Occurrence} (h : o.link = none) :
    t.spot o = ⟨o.node, []⟩ := by
  unfold spot ancestors
  rw [h]
  cases o.index <;> rfl

/-! ### The walk -/

/-- The recursion behind a walk: the occurrences at and below pending indices, in pre-order. -/
inductive Traverses (t : Tree) : List Nat → List Occurrence → Prop
  | nil : Traverses t [] []
  | cons {i : Nat} {o : Occurrence} {rest : List Nat} {below after : List Occurrence} :
      t.get? i = some o → Traverses t o.children below → Traverses t rest after →
      Traverses t (i :: rest) (o :: (below ++ after))

namespace Traverses

variable {t : Tree} {pending more : List Nat} {os os' : List Occurrence}

theorem append (h : t.Traverses pending os) (h' : t.Traverses more os') :
    t.Traverses (pending ++ more) (os ++ os') := by
  induction h with
  | nil => exact h'
  | cons ho hbelow _ _ ih =>
    rw [List.cons_append, List.cons_append, List.append_assoc]
    exact .cons ho hbelow ih

/-- A walk with a step for each occurrence goes through the recursion and no further. -/
theorem visit_eq (h : t.Traverses pending os) (steps : Nat) (rest : List Nat) :
    t.visit (os.length + steps) (pending ++ rest) = os ++ t.visit steps rest := by
  induction h generalizing steps rest with
  | nil => simp
  | @cons i o pending below after ho _ _ ihbelow ihafter =>
    -- one step is for the occurrence itself, the others are for what is below and behind it
    have hlength : (o :: (below ++ after)).length + steps
        = below.length + (after.length + steps) + 1 := by
      simp only [List.length_cons, List.length_append]
      omega
    rw [hlength, List.cons_append, visit, ho]
    show o :: t.visit _ (o.children ++ (pending ++ rest)) = _
    rw [ihbelow, ihafter, List.cons_append, List.append_assoc]

/-- What is met comes from the arena. -/
theorem get?_of_mem (h : t.Traverses pending os) {o : Occurrence} (ho : o ∈ os) :
    ∃ i, t.get? i = some o := by
  induction h with
  | nil => simp at ho
  | cons hget _ _ ihbelow ihafter =>
    rcases List.mem_cons.mp ho with rfl | ho
    · exact ⟨_, hget⟩
    · rcases List.mem_append.mp ho with ho | ho
      · exact ihbelow ho
      · exact ihafter ho

/-- Pending indices are met. -/
theorem mem_of_pending (h : t.Traverses pending os) {i : Nat} (hi : i ∈ pending) :
    ∃ o ∈ os, t.get? i = some o := by
  induction h with
  | nil => simp at hi
  | cons hget _ _ _ ihafter =>
    rcases List.mem_cons.mp hi with rfl | hi
    · exact ⟨_, by simp, hget⟩
    · obtain ⟨o, ho, hget'⟩ := ihafter hi
      exact ⟨o, by simp [ho], hget'⟩

/-- With an occurrence its children are met. -/
theorem mem_of_children (h : t.Traverses pending os) {o : Occurrence} (ho : o ∈ os) {c : Nat}
    (hc : c ∈ o.children) : ∃ k ∈ os, t.get? c = some k := by
  induction h with
  | nil => simp at ho
  | cons hget hbelow _ ihbelow ihafter =>
    rcases List.mem_cons.mp ho with rfl | ho
    · obtain ⟨k, hk, hget'⟩ := hbelow.mem_of_pending hc
      exact ⟨k, by simp [hk], hget'⟩
    · rcases List.mem_append.mp ho with ho | ho
      · obtain ⟨k, hk, hget'⟩ := ihbelow ho
        exact ⟨k, by simp [hk], hget'⟩
      · obtain ⟨k, hk, hget'⟩ := ihafter ho
        exact ⟨k, by simp [hk], hget'⟩

end Traverses

namespace Layout

variable {t : Tree} {root : Node}

/-- The recursion from children follows the unfoldings of their entries, once it does so
    below each of them. -/
theorem exists_traverses_of_forall₂ (h : t.Layout root) {i : Nat} {o : Occurrence}
    (ho : t.get? i = some o) {cs : List Nat} {es : List Entry}
    (hcs : List.Forall₂ (Hangs t.occurrences i) cs es)
    (hes : ∀ e ∈ es, ∀ c k, t.get? c = some k → k.node = e.node →
      ∃ os, t.Traverses [c] os ∧ os.map t.spot = e.node.unfold (t.spot k).above) :
    ∃ os, t.Traverses cs os ∧
      os.map t.spot = es.flatMap fun e => e.node.unfold (e.step o.node :: (t.spot o).above) := by
  induction hcs with
  | nil => exact ⟨[], .nil, rfl⟩
  | @cons c e cs es hc _ ih =>
    obtain ⟨k, hk, hnode, hlink⟩ := hc
    obtain ⟨below, hbelow, hspots⟩ := hes e (by simp) c k hk hnode
    obtain ⟨after, hafter, hspots'⟩ := ih fun e' he' => hes e' (by simp [he'])
    -- the way to a child is the way to its parent and one more step
    rw [h.spot_eq hk hlink ho] at hspots
    refine ⟨below ++ after, hbelow.append hafter, ?_⟩
    rw [List.map_append, hspots, hspots', List.flatMap_cons]
    rfl

/-- **Recursion and unfolding.**  The recursion from an occurrence meets the spots at and
    below its own, in pre-order. -/
theorem exists_traverses (h : t.Layout root) {i : Nat} {o : Occurrence} (ho : t.get? i = some o) :
    ∃ os, t.Traverses [i] os ∧ os.map t.spot = o.node.unfold (t.spot o).above := by
  generalize hn : o.node = n
  induction n using Node.inductionOnChildren generalizing i o with
  | step n ih =>
    subst hn
    obtain ⟨below, hbelow, hspots⟩ :=
      h.exists_traverses_of_forall₂ ho (h.forall₂_children ho) fun e he c k hk hnode =>
        ih e he hk hnode
    refine ⟨o :: (below ++ []), .cons ho hbelow .nil, ?_⟩
    rw [List.append_nil, List.map_cons, hspots, Node.unfold_eq]
    rfl

end Layout

end Tree

/-! ### One occurrence for each spot -/

/-- The loop adds one occurrence for each spot strictly below a pending one. -/
theorem size_expand (pending : List Occurrence) (arena : Array Occurrence) :
    (expand pending arena).size + pending.length
      = arena.size + (pending.map fun o => o.node.count).sum := by
  induction pending, arena using expand.induct with
  | case1 arena => rw [expand]; rfl
  | case2 arena o rest added indices settled ih =>
    -- the occurrence leaves the stack and its children enter it
    have hcount : (added.map fun o => o.node.count).sum + 1 = o.node.count := by
      have hmap : added.map (fun o => o.node.count)
          = o.node.children.map fun e => e.node.count := by
        have := congrArg (List.map Node.count)
          (map_node_childOccurrences o.index arena.size o.node.children)
        rwa [List.map_map, List.map_map] at this
      rw [hmap, Node.count_eq o.node, Nat.add_comm]
    have hlength : added.length = o.node.children.length := length_childOccurrences _ _ _
    rw [expand_cons]
    change (expand (added.reverse ++ rest) (settle arena o)).size + _ = _
    rw [show settled ++ added = settle arena o from rfl, size_settle] at ih
    simp only [List.length_append, List.length_reverse, List.map_append, List.map_reverse,
      List.sum_append, List.sum_reverse, List.length_cons, List.map_cons, List.sum_cons] at ih ⊢
    omega

namespace Tree

/-- The arena of a root has as many occurrences as the unfolding has spots. -/
theorem size_ofRoot (root : Node) : (ofRoot root).size = root.count := by
  have h := size_expand [{ index := 0, node := root, link := none }]
    #[{ index := 0, node := root, link := none }]
  simp only [List.length_singleton, List.map_singleton, List.sum_singleton, List.size_toArray] at h
  have hsize : (ofRoot root).size + 1 = 1 + root.count := h
  omega

/-- **Walk.**  The walk over the arena of a root goes through the recursion from the root, and
    meets the spots of the unfolding. -/
theorem traverses_walk (root : Node) :
    (ofRoot root).Traverses [0] (ofRoot root).walk ∧
      (ofRoot root).walk.map (ofRoot root).spot = root.unfold [] := by
  have h := ofRoot_layout root
  obtain ⟨r, hr, hnode, hlink⟩ := h.root_get
  obtain ⟨os, hos, hspots⟩ := h.exists_traverses hr
  rw [spot_of_link_none _ hlink, hnode] at hspots
  have hlength : os.length = (ofRoot root).size := by
    rw [size_ofRoot, Node.count, ← hspots, List.length_map]
  have hwalk : (ofRoot root).walk = os := by
    have := hos.visit_eq 0 []
    rw [hlength] at this
    simpa [walk, visit] using this
  rw [hwalk]
  exact ⟨hos, hspots⟩

/-- The walk meets every occurrence of the arena. -/
theorem mem_walk (root : Node) {i : Nat} {o : Occurrence} (ho : (ofRoot root).get? i = some o) :
    o ∈ (ofRoot root).walk := by
  have h := ofRoot_layout root
  have hwalk := (traverses_walk root).1
  induction i using Nat.strong_induction_on generalizing o with
  | _ i ih =>
    suffices hmem : ∃ k ∈ (ofRoot root).walk, (ofRoot root).get? i = some k by
      obtain ⟨k, hk, hget⟩ := hmem
      rw [ho, Option.some.injEq] at hget
      rwa [hget]
    by_cases hi : i = 0
    · exact hwalk.mem_of_pending (by simp [hi])
    · -- the parent is met, and with it its children
      obtain ⟨l, p, -, hlt, hp, hmem⟩ := h.linked ho hi
      exact hwalk.mem_of_children (ih l.parent hlt hp) hmem

/-- The walk meets every occurrence exactly once. -/
theorem walk_perm (root : Node) : (ofRoot root).walk.Perm (ofRoot root).occurrences.toList := by
  have hnodup := (ofRoot_layout root).nodup_occurrences
  have hsub : (ofRoot root).occurrences.toList ⊆ (ofRoot root).walk := by
    intro o ho
    obtain ⟨i, hi⟩ := List.mem_iff_getElem?.mp ho
    rw [Array.getElem?_toList] at hi
    exact mem_walk root hi
  -- the walk misses none and is not longer than the arena
  refine ((List.subperm_of_subset hnodup hsub).perm_of_length_le ?_).symm
  have hlength := congrArg List.length (traverses_walk root).2
  rw [List.length_map] at hlength
  rw [hlength, Array.length_toList]
  exact (size_ofRoot root).ge

/-- No name is listed twice. -/
theorem nodup_identifiers (root : Node) : (ofRoot root).identifiers.Nodup :=
  ((walk_perm root).nodup_iff.mpr (ofRoot_layout root).nodup_occurrences).filter _

/-- An occurrence of the arena stands for a spot of the unfolding. -/
theorem spot_mem_unfold (root : Node) {i : Nat} {o : Occurrence}
    (ho : (ofRoot root).get? i = some o) : (ofRoot root).spot o ∈ root.unfold [] := by
  rw [← (traverses_walk root).2]
  exact List.mem_map_of_mem (mem_walk root ho)

/-- The names of the arena stand for the spots of the unfolding that are names, in the same
    order. -/
theorem identifiers_map_spot (root : Node) :
    (ofRoot root).identifiers.map (ofRoot root).spot
      = (root.unfold []).filter fun s => s.node.isIdentifier := by
  rw [← (traverses_walk root).2, List.filter_map]
  rfl

/-- A name stands in the arena. -/
theorem get?_of_mem_identifiers (root : Node) {o : Occurrence}
    (ho : o ∈ (ofRoot root).identifiers) : (ofRoot root).get? o.index = some o := by
  obtain ⟨i, hi⟩ := (traverses_walk root).1.get?_of_mem (List.mem_filter.mp ho).1
  rw [(ofRoot_layout root).index_eq hi]
  exact hi

/-- **Pre-order.**  The walk over the arena of a root ends by itself, lists the spots of the
    unfolding in pre-order, each with its node and the steps that lead to it, and meets every
    occurrence once.  At each spot the children are the nodes that attributes outside of the
    structural ones hold directly or as items of a list.  They are ordered by line and column,
    those with equal location by the declaration order of their property and then by their
    position in its list. -/
theorem walk_lists_unfolding (root : Node) :
    (∀ steps, (ofRoot root).size ≤ steps →
      (ofRoot root).visit steps [0] = (ofRoot root).walk) ∧
    (ofRoot root).walk.map (ofRoot root).spot = root.unfold [] ∧
    (ofRoot root).walk.Perm (ofRoot root).occurrences.toList ∧
    ∀ s ∈ root.unfold [],
      s.node.children.Perm s.node.entries ∧
      (∀ e : Entry, e ∈ s.node.entries ↔
        ∃ v, (e.prop, v) ∈ s.node.attributes ∧ e.prop ∉ structuralNames ∧ e.LiesIn v) ∧
      (s.node.Distinct →
        s.node.children.Pairwise fun a b => s.node.sourceKey a < s.node.sourceKey b) := by
  obtain ⟨htraverses, hspots⟩ := traverses_walk root
  refine ⟨fun steps hsteps => ?_, hspots, walk_perm root, fun s _ => ?_⟩
  · obtain ⟨more, rfl⟩ := Nat.exists_eq_add_of_le hsteps
    have hvisit := htraverses.visit_eq more []
    have hsize : (ofRoot root).size = (ofRoot root).walk.length := by
      rw [(walk_perm root).length_eq]
      exact Array.length_toList.symm
    rw [hsize]
    rw [List.append_nil] at hvisit
    rw [hvisit]
    cases more <;> simp [visit]
  · exact ⟨s.node.children_perm, s.node.mem_entries, Node.children_pairwise_sourceKey⟩

end Tree

end SymbolTags.Syntax
