import SymbolTags.Syntax.Node

namespace SymbolTags.Syntax

/-!
# Trees — an arena of node occurrences

A `Tree` lists every occurrence of a node below a root.  An `Occurrence` knows its index
in the arena, the node it was made from, the `Link` to the place where it hangs, and the
indices of its children:

* `Tree.ofRoot` lays out the unfolding of a root: a node object that is reused at several
  places gets one occurrence for each of them;
* `Tree.walk` lists the occurrences in pre-order, `Tree.identifiers` those of names;
* `Occurrence.slot?`, `Tree.child?` and `Tree.childrenOf` read the children of a property;
* `Tree.ancestors` climbs from an occurrence to the root, and `Tree.nearestAncestor?` and
  `Tree.structuralPath` are read off that climb;
* `Tree.repeats` lists the occurrences whose node object was met before.
-/

/-- Where an occurrence hangs: the index of its parent, the property and, when the
    property holds a list, the position in it. -/
structure Link where
  parent : Nat
  prop : String
  position : Option Nat
deriving DecidableEq, Repr, Inhabited

/-- The segment of a path that leads through a link of a parent of the given kind. -/
def Link.segment (l : Link) (parentKind : String) : String :=
  match l.position with
  | none => parentKind ++ "." ++ l.prop
  | some k => parentKind ++ "." ++ l.prop ++ "[" ++ toString k ++ "]"

/-- One occurrence of a node. -/
structure Occurrence where
  index : Nat
  node : Node
  link : Option Link
  /-- The indices of the children in source order. -/
  children : List Nat := []
deriving Inhabited

namespace Occurrence

/-- The kind of the node. -/
def kind (o : Occurrence) : String := o.node.kind

/-- Where the node starts. -/
def position (o : Occurrence) : Position := o.node.position

/-- The name of the identifier; null for other nodes. -/
def name (o : Occurrence) : Value := o.node.name

/-- The occurrence is that of a name. -/
def isIdentifier (o : Occurrence) : Bool := o.node.isIdentifier

end Occurrence

/-- The arena of a syntax tree; the root has index 0. -/
structure Tree where
  occurrences : Array Occurrence
deriving Inhabited

/-! ### Layout -/

/-- The occurrences of children that are laid out from index `first` on. -/
def childOccurrences (parent : Nat) : Nat → List Entry → List Occurrence
  | _, [] => []
  | first, e :: rest =>
    { index := first, node := e.node, link := some ⟨parent, e.prop, e.position⟩ } ::
      childOccurrences parent (first + 1) rest

/-- Laying children out keeps their nodes and their order. -/
theorem map_node_childOccurrences (parent first : Nat) (es : List Entry) :
    (childOccurrences parent first es).map (·.node) = es.map (·.node) := by
  induction es generalizing first with
  | nil => rfl
  | cons e rest ih => simp [childOccurrences, ih]

/-- Takes the pending occurrences one by one, last in first out: each gets all its
    children laid out at the end of the arena, and these become pending. -/
def expand (pending : List Occurrence) (arena : Array Occurrence) : Array Occurrence :=
  match pending with
  | [] => arena
  | o :: rest =>
    let added := childOccurrences o.index arena.size o.node.children
    let indices := added.map (·.index)
    let settled := arena.modify o.index fun o => { o with children := indices }
    expand (added.reverse ++ rest) (settled ++ added)
termination_by Node.totalSize (pending.map (·.node))
decreasing_by
  have hchildren := o.node.totalSize_children
  rw [← map_node_childOccurrences o.index arena.size] at hchildren
  rw [List.map_append, List.map_reverse, Node.totalSize_append,
    Node.totalSize_perm (List.reverse_perm _), List.map_cons, Node.totalSize]
  exact Nat.add_lt_add_right hchildren _

namespace Tree

/-- The arena of everything below a root. -/
def ofRoot (root : Node) : Tree :=
  let top : Occurrence := { index := 0, node := root, link := none }
  ⟨expand [top] #[top]⟩

/-- The number of occurrences. -/
def size (t : Tree) : Nat := t.occurrences.size

/-- The occurrence at an index. -/
def get? (t : Tree) (i : Nat) : Option Occurrence := t.occurrences[i]?

/-- The occurrence at an index, a negative one counting from the end. -/
def at? (t : Tree) (i : Int) : Option Occurrence :=
  if i < 0 then (if -i ≤ t.size then t.get? (i + t.size).toNat else none) else t.get? i.toNat

/-- The text of the refusal of an index at which there is no occurrence; indices are words of
    64 bits. -/
def indexMessage (i : Int) : String :=
  if -Int.pow 2 63 ≤ i ∧ i < Int.pow 2 63 then "list index out of range"
  else "cannot fit 'int' into an index-sized integer"

/-! ### Walking -/

/-- The pending indices in order, each followed by everything below it; every occurrence
    is visited at most once, so the number of occurrences bounds the steps. -/
def visit (t : Tree) : Nat → List Nat → List Occurrence
  | 0, _ => []
  | _ + 1, [] => []
  | steps + 1, i :: rest =>
    match t.get? i with
    | none => visit t steps rest
    | some o => o :: visit t steps (o.children ++ rest)

/-- All occurrences in pre-order, children in source order. -/
def walk (t : Tree) : List Occurrence :=
  t.visit t.size [0]

/-- The occurrences of names in pre-order. -/
def identifiers (t : Tree) : List Occurrence :=
  t.walk.filter (·.isIdentifier)

end Tree

/-! ### Properties -/

/-- What a property of an occurrence holds, as far as children are concerned. -/
inductive Slot where
  | empty
  | one (index : Nat)
  | many (indices : List Nat)
deriving DecidableEq, Repr

namespace Occurrence

/-- The indices of the children that hang on a property, in source order. -/
def childrenAt (o : Occurrence) (prop : String) : List Nat :=
  (o.node.children.zip o.children).filterMap fun p => if p.1.prop = prop then some p.2 else none

/-- The slot of a property: empty for null, one child for a node, a list of children for a
    list that holds nodes or nothing.  Other values and structural attributes have none. -/
def slot? (o : Occurrence) (prop : String) : Option Slot :=
  if prop ∈ structuralNames then none
  else
    match Fields.get? o.node.attributes prop with
    | some .null => some .empty
    | some (.node _) => (o.childrenAt prop).head?.map .one
    | some (.list _ []) => some (.many [])
    | some (.list _ _) =>
      let found := o.childrenAt prop
      if found.isEmpty then none else some (.many found)
    | _ => none

/-- All properties that have a slot. -/
def slots (o : Occurrence) : Fields Slot :=
  o.node.attributes.filterMap fun p => (o.slot? p.1).map fun s => (p.1, s)

end Occurrence

namespace Tree

/-- The single child that a property holds directly. -/
def child? (t : Tree) (o : Occurrence) (prop : String) : Option Occurrence :=
  match o.slot? prop with
  | some (.one i) => t.get? i
  | _ => none

/-- The children that a property holds, directly or in a list. -/
def childrenOf (t : Tree) (o : Occurrence) (prop : String) : List Occurrence :=
  match o.slot? prop with
  | some (.one i) => (t.get? i).toList
  | some (.many is) => is.filterMap t.get?
  | _ => []

/-! ### Ancestors -/

/-- Follows links upwards, at most the given number of times. -/
def climb (t : Tree) : Nat → Option Link → List (Link × Occurrence)
  | _, none => []
  | 0, _ => []
  | steps + 1, some l =>
    match t.get? l.parent with
    | none => []
    | some p => (l, p) :: climb t steps p.link

/-- The strict ancestors of an occurrence, nearest first, each with the link through which
    the climb reaches it.  A parent's index is smaller than its child's, so the index of
    the occurrence bounds their number. -/
def ancestors (t : Tree) (o : Occurrence) : List (Link × Occurrence) :=
  t.climb o.index o.link

/-- The occurrence that an occurrence hangs on. -/
def parent? (t : Tree) (o : Occurrence) : Option Occurrence :=
  o.link.bind fun l => t.get? l.parent

/-- The nearest strict ancestor of a kind, with the property of that ancestor through
    which the way down to the occurrence leads. -/
def nearestAncestor? (t : Tree) (o : Occurrence) (kind : String) : Option (Occurrence × String) :=
  ((t.ancestors o).find? fun a => a.2.kind == kind).map fun a => (a.2, a.1.prop)

/-- The segments of the way from the root down to an occurrence. -/
def structuralPath (t : Tree) (o : Occurrence) : List String :=
  ((t.ancestors o).map fun a => a.1.segment a.2.kind).reverse

/-! ### Shared nodes -/

/-- The occurrences whose identity is among `seen` or that of an earlier one. -/
def repeatsAfter : List Nat → List Occurrence → List Occurrence
  | _, [] => []
  | seen, o :: rest =>
    if o.node.identity ∈ seen then o :: repeatsAfter seen rest
    else repeatsAfter (o.node.identity :: seen) rest

/-- The occurrences, in the order of the arena, of node objects that occurred before. -/
def repeats (t : Tree) : List Occurrence :=
  repeatsAfter [] t.occurrences.toList

/-- How many occurrences repeat a node object. -/
def sharedCount (t : Tree) : Nat := t.repeats.length

end Tree

end SymbolTags.Syntax
