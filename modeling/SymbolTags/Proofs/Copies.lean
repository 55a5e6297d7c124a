import Mathlib.Data.List.Flatten
import Mathlib.Logic.Equiv.List
import SymbolTags.Proofs.Lookup
import SymbolTags.Proofs.Relabelling

namespace SymbolTags.Syntax

/-!
# Copies — trees that differ in their objects alone

A node object that is reused carries one identity at all its places.  This file takes identities
away and hands out new ones:

* `Node.anonymous` erases all identities, so that trees are copies of each other when they are
  equal without them;
* `relabelling_anonymous` — laying out does not look at identities, so the arena of an anonymous
  root is the anonymous arena;
* `Occurrence.LooksLike` — what an occurrence shows besides its objects, which copies have in
  common by `Tree.looksLike_of_copy`;
* `Node.separated` — the copy in which every occurrence is an object of its own, and
  `Node.nodup_identities_separated`, which says so.
-/

/-! ### Erasing identities -/

mutual

/-- A value without identities. -/
def Value.anonymous : Value → Value
  | .list _ items => .list 0 (anonymousItems items)
  | .node n => .node n.anonymous
  | .object _ entries => .object 0 (anonymousEntries entries)
  | .dictionary _ entries => .dictionary 0 (anonymousEntries entries)
  | .record _ entries => .record 0 (anonymousEntries entries)
  | .fault _ f => .fault 0 f
  | v => v

/-- A node without identities. -/
def Node.anonymous : Node → Node
  | ⟨type, _, loc, range, attributes⟩ => ⟨type, 0, loc, range, anonymousEntries attributes⟩

/-- List items without identities. -/
def anonymousItems : List Value → List Value
  | [] => []
  | v :: rest => v.anonymous :: anonymousItems rest

/-- Named values without identities. -/
def anonymousEntries : List (String × Value) → List (String × Value)
  | [] => []
  | (name, v) :: rest => (name, v.anonymous) :: anonymousEntries rest

end

/-- Reading a named value commutes with erasing. -/
theorem get?_anonymousEntries (entries : List (String × Value)) (name : String) :
    Fields.get? (anonymousEntries entries) name
      = (Fields.get? entries name).map Value.anonymous := by
  induction entries with
  | nil => rfl
  | cons p rest ih =>
    obtain ⟨k, v⟩ := p
    simp only [anonymousEntries, Fields.get?]
    split_ifs
    · rfl
    · exact ih

namespace Node

/-- Erasing keeps the type. -/
@[simp] theorem type_anonymous (n : Node) : n.anonymous.type = n.type := by cases n; rfl

/-- It keeps the location. -/
@[simp] theorem loc_anonymous (n : Node) : n.anonymous.loc = n.loc := by cases n; rfl

/-- It keeps the offsets. -/
@[simp] theorem range_anonymous (n : Node) : n.anonymous.range = n.range := by cases n; rfl

/-- It goes through the attributes one by one. -/
@[simp] theorem attributes_anonymous (n : Node) :
    n.anonymous.attributes = anonymousEntries n.attributes := by cases n; rfl

/-- The kind comes from the type. -/
@[simp] theorem kind_anonymous (n : Node) : n.anonymous.kind = n.kind := by
  rw [kind, type_anonymous]
  rfl

/-- The position comes from the location. -/
@[simp] theorem position_anonymous (n : Node) : n.anonymous.position = n.position := by
  rw [position, loc_anonymous]
  rfl

/-- The start comes from the offsets. -/
@[simp] theorem start_anonymous (n : Node) : n.anonymous.start = n.start := by
  rw [start, range_anonymous]
  rfl

/-- So does the end. -/
@[simp] theorem stop_anonymous (n : Node) : n.anonymous.stop = n.stop := by
  rw [stop, range_anonymous]
  rfl

end Node

/-- Integers have no identity. -/
theorem anonymousItems_map_int (ns : List Int) :
    anonymousItems (ns.map .int) = ns.map .int := by
  induction ns with
  | nil => rfl
  | cons n rest ih =>
    rw [List.map_cons, anonymousItems, ih]
    rfl

/-- Reading an attribute of an anonymous node. -/
theorem Node.attr_anonymous (n : Node) (name : String) :
    n.anonymous.attr name = (n.attr name).anonymous := by
  unfold Node.attr
  -- Forgetting identities commutes with every way an attribute is read.
  rw [type_anonymous, loc_anonymous, range_anonymous, attributes_anonymous, get?_anonymousEntries]
  split_ifs
  · cases n.type <;> rfl
  · cases n.loc <;> rfl
  · cases n.range with
    | none => rfl
    | some bounds =>
      show Value.list 0 _ = Value.list 0 (anonymousItems _)
      rw [anonymousItems_map_int]
  all_goals cases Fields.get? n.attributes name <;> rfl

/-- The name of a node is an attribute of names. -/
theorem Node.name_anonymous (n : Node) : n.anonymous.name = n.name.anonymous := by
  unfold Node.name Node.isIdentifier
  rw [kind_anonymous, attr_anonymous]
  split_ifs <;> rfl

mutual

/-- Erasing changes the nodes of a value and nothing that shows in a shape. -/
theorem Value.relabelled_anonymous (v : Value) : v.Relabelled Node.anonymous v.anonymous := by
  match v with
  | .null => exact .null
  | .list identity items => exact .list identity 0 (forall₂_anonymousItems items)
  | .node n => exact .node n
  | .bool _ | .int _ | .str _ | .object _ _ | .dictionary _ _ | .record _ _ | .fault _ _ =>
    exact .plain trivial trivial

/-- The same for list items. -/
theorem forall₂_anonymousItems (items : List Value) :
    List.Forall₂ (Value.Relabelled Node.anonymous) items (anonymousItems items) := by
  match items with
  | [] => exact .nil
  | v :: rest => exact .cons v.relabelled_anonymous (forall₂_anonymousItems rest)

end

/-- The same for attributes. -/
theorem forall₂_anonymousEntries (entries : List (String × Value)) :
    List.Forall₂ (AttributeRelabelled Node.anonymous) entries (anonymousEntries entries) := by
  induction entries with
  | nil => exact .nil
  | cons p rest ih => exact .cons ⟨rfl, p.2.relabelled_anonymous⟩ ih

/-- **Identities do not show** in the shape of a tree. -/
theorem relabelling_anonymous : Relabelling Node.anonymous where
  type_eq := Node.type_anonymous
  loc_eq := Node.loc_anonymous
  attributes n := by
    rw [Node.attributes_anonymous]
    exact forall₂_anonymousEntries n.attributes

/-! ### Arenas -/

/-- An occurrence without identities. -/
def Occurrence.anonymous (o : Occurrence) : Occurrence :=
  { o with node := o.node.anonymous }

/-- Laying out does not look at identities. -/
theorem Tree.occurrences_ofRoot_anonymous (root : Node) :
    (ofRoot root.anonymous).occurrences
      = (ofRoot root).occurrences.map Occurrence.anonymous :=
  relabelling_anonymous.occurrences_ofRoot root

/-! ### What an occurrence shows -/

namespace Occurrence

/-- The slots of an occurrence do not tell which objects it has. -/
theorem slot?_anonymous (o : Occurrence) (prop : String) :
    o.anonymous.slot? prop = o.slot? prop :=
  relabelling_anonymous.slot?_mapNode o prop

/-- All slots together do not tell it either. -/
theorem slots_anonymous (o : Occurrence) : o.anonymous.slots = o.slots :=
  relabelling_anonymous.slots_mapNode o

/-- Two occurrences show the same besides their objects.  Names are the same when they are
    texts; of other values the objects in them may differ. -/
structure LooksLike (o o' : Occurrence) : Prop where
  index : o.index = o'.index
  kind : o.kind = o'.kind
  position : o.position = o'.position
  start : o.node.start = o'.node.start
  stop : o.node.stop = o'.node.stop
  name : o.name.anonymous = o'.name.anonymous
  text : o.name.str? = o'.name.str?
  link : o.link = o'.link
  children : o.children = o'.children
  slot? : ∀ prop, o.slot? prop = o'.slot? prop
  slots : o.slots = o'.slots

end Occurrence

/-- Texts have no identity. -/
theorem Value.str?_anonymous (v : Value) : v.anonymous.str? = v.str? := by
  cases v <;> rfl

/-- Occurrences that are equal without identities show the same. -/
theorem Occurrence.looksLike_of_anonymous_eq {o o' : Occurrence}
    (h : o.anonymous = o'.anonymous) : o.LooksLike o' := by
  have hnode : o.node.anonymous = o'.node.anonymous := congrArg Occurrence.node h
  have hname : o.name.anonymous = o'.name.anonymous := by
    show o.node.name.anonymous = o'.node.name.anonymous
    rw [← Node.name_anonymous, ← Node.name_anonymous, hnode]
  exact
    { index := (congrArg Occurrence.index h :)
      kind := by
        show o.node.kind = o'.node.kind
        rw [← Node.kind_anonymous, hnode, Node.kind_anonymous]
      position := by
        show o.node.position = o'.node.position
        rw [← Node.position_anonymous, hnode, Node.position_anonymous]
      start := by rw [← Node.start_anonymous, hnode, Node.start_anonymous]
      stop := by rw [← Node.stop_anonymous, hnode, Node.stop_anonymous]
      name := hname
      text := by rw [← Value.str?_anonymous, hname, Value.str?_anonymous]
      link := (congrArg Occurrence.link h :)
      children := (congrArg Occurrence.children h :)
      slot? := fun prop => by rw [← slot?_anonymous, h, slot?_anonymous]
      slots := by rw [← slots_anonymous, h, slots_anonymous] }

/-- **Copies.**  Roots that are equal without identities have arenas that show the same,
    occurrence by occurrence. -/
theorem Tree.looksLike_of_copy {copy root : Node} (h : copy.anonymous = root.anonymous) :
    List.Forall₂ Occurrence.LooksLike (ofRoot copy).occurrences.toList
      (ofRoot root).occurrences.toList := by
  -- Both arenas are the arena of the anonymous tree, once identities are forgotten.
  have harena : (ofRoot copy).occurrences.map Occurrence.anonymous
      = (ofRoot root).occurrences.map Occurrence.anonymous := by
    rw [← occurrences_ofRoot_anonymous, ← occurrences_ofRoot_anonymous, h]
  have hlist := congrArg Array.toList harena
  rw [Array.toList_map, Array.toList_map, ← List.forall₂_eq_eq_eq, List.forall₂_map_left_iff,
    List.forall₂_map_right_iff] at hlist
  exact hlist.imp fun _ _ => Occurrence.looksLike_of_anonymous_eq

/-! ### Separate copies -/

mutual

/-- A value at a path whose nodes are objects of their own.  What lies in objects, dictionaries
    and records hangs nowhere and stays. -/
def Value.separate (path : List Nat) : Value → Value
  | .list identity items => .list identity (separateItems path 0 items)
  | .node n => .node (n.separate path)
  | v => v

/-- A node at a path with an identity that no other path gives, and so on below it. -/
def Node.separate (path : List Nat) : Node → Node
  | ⟨type, _, loc, range, attributes⟩ =>
    ⟨type, Encodable.encode path, loc, range, separateEntries path 0 attributes⟩

/-- List items, each one step below the path of the list. -/
def separateItems (path : List Nat) : Nat → List Value → List Value
  | _, [] => []
  | k, v :: rest => v.separate (k :: path) :: separateItems path (k + 1) rest

/-- Attributes, each one step below the path of the node. -/
def separateEntries (path : List Nat) : Nat → List (String × Value) → List (String × Value)
  | _, [] => []
  | k, (name, v) :: rest =>
    (name, v.separate (k :: path)) :: separateEntries path (k + 1) rest

end

/-- The copy of a root in which every occurrence is an object of its own. -/
def Node.separated (root : Node) : Node :=
  root.separate []

mutual

/-- Separating changes nothing but the identities in a value. -/
theorem Value.anonymous_separate (path : List Nat) (v : Value) :
    (v.separate path).anonymous = v.anonymous := by
  match v with
  | .list identity items =>
    rw [Value.separate, Value.anonymous, anonymousItems_separate path 0 items]
    rfl
  | .node n =>
    rw [Value.separate, Value.anonymous, Node.anonymous_separate path n]
    rfl
  | .null | .bool _ | .int _ | .str _ | .object _ _ | .dictionary _ _ | .record _ _
  | .fault _ _ => rfl

/-- The separated copy is a copy. -/
theorem Node.anonymous_separate (path : List Nat) (n : Node) :
    (n.separate path).anonymous = n.anonymous := by
  match n with
  | ⟨type, identity, loc, range, attributes⟩ =>
    rw [Node.separate, Node.anonymous, anonymousEntries_separate path 0 attributes]
    rfl

/-- The same for list items. -/
theorem anonymousItems_separate (path : List Nat) (k : Nat) (items : List Value) :
    anonymousItems (separateItems path k items) = anonymousItems items := by
  match items with
  | [] => rfl
  | v :: rest =>
    rw [separateItems, anonymousItems, anonymousItems, Value.anonymous_separate (k :: path) v,
      anonymousItems_separate path (k + 1) rest]

/-- The same for attributes. -/
theorem anonymousEntries_separate (path : List Nat) (k : Nat)
    (entries : List (String × Value)) :
    anonymousEntries (separateEntries path k entries) = anonymousEntries entries := by
  match entries with
  | [] => rfl
  | (name, v) :: rest =>
    rw [separateEntries, anonymousEntries, anonymousEntries,
      Value.anonymous_separate (k :: path) v, anonymousEntries_separate path (k + 1) rest]

end

/-- The identities at and below a node, in pre-order. -/
def Node.identities (n : Node) : List Nat :=
  (n.unfold []).map (·.node.identity)

/-- A node has its own identity and those of its entries. -/
theorem Node.identities_perm (n : Node) :
    n.identities.Perm (n.identity :: n.entries.flatMap fun e => e.node.identities) := by
  have hnodes : ∀ m : Node, m.identities = m.nodes.map (·.identity) := by
    intro m
    rw [Node.nodes, List.map_map]
    rfl
  rw [hnodes, Node.nodes_eq, List.map_cons, List.map_flatMap]
  simp only [← hnodes]
  exact (n.children_perm.flatMap_right _).cons _

/-- Identities that were given to different paths at or below a path. -/
def Traced (path ids : List Nat) : Prop :=
  ids.Nodup ∧ ∀ i ∈ ids, ∃ p, path <:+ p ∧ i = Encodable.encode p

/-- Identities that were given to different paths that leave a path through a step from `first`
    on. -/
def TracedFrom (path : List Nat) (first : Nat) (ids : List Nat) : Prop :=
  ids.Nodup ∧ ∀ i ∈ ids, ∃ k p, first ≤ k ∧ k :: path <:+ p ∧ i = Encodable.encode p

/-- No identities are traced to anything. -/
theorem Traced.nil (path : List Nat) : Traced path [] :=
  ⟨.nil, fun _ h => absurd h List.not_mem_nil⟩

/-- The order of identities does not matter. -/
theorem Traced.perm {path ids ids' : List Nat} (h : Traced path ids) (hperm : ids'.Perm ids) :
    Traced path ids' :=
  ⟨hperm.nodup_iff.mpr h.1, fun i hi => h.2 i (hperm.mem_iff.mp hi)⟩

namespace TracedFrom

variable {path ids more : List Nat} {first : Nat}

/-- No step is left through. -/
theorem nil : TracedFrom path first [] :=
  ⟨.nil, fun _ h => absurd h List.not_mem_nil⟩

/-- What lies below one step and what lies below the later ones. -/
theorem append (h : Traced (first :: path) ids) (hmore : TracedFrom path (first + 1) more) :
    TracedFrom path first (ids ++ more) := by
  refine ⟨h.1.append hmore.1 fun i hi hi' => ?_, fun i hi => ?_⟩
  · obtain ⟨p, hp, rfl⟩ := h.2 i hi
    obtain ⟨k, q, hk, hq, heq⟩ := hmore.2 _ hi'
    -- one path does not leave through two steps
    obtain rfl := Encodable.encode_injective heq
    have hsteps := (List.suffix_of_suffix_length_le hp hq (by simp)).eq_of_length (by simp)
    have hfirst : first = k := (List.cons.inj hsteps).1
    omega
  · rcases List.mem_append.mp hi with hi | hi
    · obtain ⟨p, hp, rfl⟩ := h.2 i hi
      exact ⟨first, p, le_rfl, hp, rfl⟩
    · obtain ⟨k, p, hk, hp, rfl⟩ := hmore.2 i hi
      exact ⟨k, p, by omega, hp, rfl⟩

/-- A step below which there is nothing. -/
theorem skip (h : TracedFrom path (first + 1) ids) : TracedFrom path first ids :=
  append (.nil _) h

/-- Paths that leave a path lie below it. -/
theorem traced (h : TracedFrom path first ids) : Traced path ids := by
  refine ⟨h.1, fun i hi => ?_⟩
  obtain ⟨k, p, -, hp, rfl⟩ := h.2 i hi
  exact ⟨p, (List.suffix_cons k path).trans hp, rfl⟩

/-- The path itself comes before all that leave it. -/
theorem cons (h : TracedFrom path first ids) : Traced path (Encodable.encode path :: ids) := by
  refine ⟨List.nodup_cons.mpr ⟨fun hmem => ?_, h.1⟩, List.forall_mem_cons.mpr ⟨?_, h.traced.2⟩⟩
  · obtain ⟨k, p, -, hp, heq⟩ := h.2 _ hmem
    obtain rfl := Encodable.encode_injective heq
    have hlength := hp.length_le
    rw [List.length_cons] at hlength
    omega
  · exact ⟨path, List.suffix_rfl, rfl⟩

end TracedFrom

mutual

/-- The entries of a separated value have identities of their own. -/
theorem Value.traced_separate (prop : String) (path : List Nat) (v : Value) :
    Traced path
      ((attributeEntries prop (v.separate path)).flatMap fun e => e.node.identities) := by
  unfold attributeEntries
  split_ifs
  · exact Traced.nil path
  · match v with
    | .list identity items => exact (tracedFrom_separateItems prop 0 path 0 items).traced
    | .node n =>
      -- a node is the only entry of its attribute
      have h := Node.traced_separate path n
      rw [← List.append_nil (n.separate path).identities] at h
      exact h
    | .null | .bool _ | .int _ | .str _ | .object _ _ | .dictionary _ _ | .record _ _
    | .fault _ _ => exact Traced.nil path

/-- So have a separated node and everything below it. -/
theorem Node.traced_separate (path : List Nat) (n : Node) :
    Traced path (n.separate path).identities := by
  match n with
  | ⟨type, identity, loc, range, attributes⟩ =>
    exact (tracedFrom_separateEntries path 0 attributes).cons.perm (Node.identities_perm _)

/-- Items leave the path of their list, each through its own step. -/
theorem tracedFrom_separateItems (prop : String) (j : Nat) (path : List Nat) (k : Nat)
    (items : List Value) :
    TracedFrom path k
      ((listEntries prop j (separateItems path k items)).flatMap fun e => e.node.identities) := by
  match items with
  | [] => exact .nil
  | .node n :: rest =>
    exact .append (Node.traced_separate (k :: path) n)
      (tracedFrom_separateItems prop (j + 1) path (k + 1) rest)
  | .null :: rest | .bool _ :: rest | .int _ :: rest | .str _ :: rest | .list _ _ :: rest
  | .object _ _ :: rest | .dictionary _ _ :: rest | .record _ _ :: rest | .fault _ _ :: rest =>
    -- an item that is no node takes a position and has no identities
    exact .skip (tracedFrom_separateItems prop (j + 1) path (k + 1) rest)

/-- Attributes leave the path of their node in the same way. -/
theorem tracedFrom_separateEntries (path : List Nat) (k : Nat)
    (attributes : List (String × Value)) :
    TracedFrom path k
      (((separateEntries path k attributes).flatMap fun p => attributeEntries p.1 p.2).flatMap
        fun e => e.node.identities) := by
  match attributes with
  | [] => exact .nil
  | (name, v) :: rest =>
    rw [separateEntries, List.flatMap_cons, List.flatMap_append]
    exact .append (Value.traced_separate name (k :: path) v)
      (tracedFrom_separateEntries path (k + 1) rest)

end

/-- **Separate objects.**  No two occurrences of the separated copy are one object. -/
theorem Node.nodup_identities_separated (root : Node) : root.separated.identities.Nodup :=
  (root.traced_separate []).1

end SymbolTags.Syntax
