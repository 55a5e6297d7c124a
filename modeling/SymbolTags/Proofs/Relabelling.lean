import SymbolTags.Proofs.Layout

namespace SymbolTags.Syntax

/-!
# Relabelling — trees that differ inside of their nodes

The shape of an arena comes from the locations of nodes and from the attributes that hold nodes.
A change of nodes that leaves both alone puts other nodes into the arena and does nothing else:

* `Relabelling f` — `f` keeps types and locations, and attributes hold after it what they held
  before it, with the nodes changed by `f`;
* `Relabelling.children_eq` — the children of a changed node are the changed children;
* `Relabelling.expand_map` — so the loop lays them out at the same indices, and
  `Relabelling.get?_ofRoot` reads the arena of a changed root;
* `Relabelling.identifiers_ofRoot`, `Relabelling.child?_ofRoot` and the like — what is found in
  one arena is found, changed, in the other.
-/

/-! ### Changed values -/

/-- A value that holds no children and does not count as empty. -/
def Value.IsPlain : Value → Prop
  | .null | .node _ | .list _ _ => False
  | _ => True

/-- A value after its nodes were changed by `f`.  What lies in plain values hangs nowhere, so
    they are free. -/
inductive Value.Relabelled (f : Node → Node) : Value → Value → Prop
  | null : Value.Relabelled f .null .null
  | node (n : Node) : Value.Relabelled f (.node n) (.node (f n))
  | list (i i' : Nat) {items items' : List Value} :
      List.Forall₂ (Value.Relabelled f) items items' →
      Value.Relabelled f (.list i items) (.list i' items')
  | plain {v v' : Value} : v.IsPlain → v'.IsPlain → Value.Relabelled f v v'

/-- An attribute after the nodes in it were changed. -/
def AttributeRelabelled (f : Node → Node) (p p' : String × Value) : Prop :=
  p.1 = p'.1 ∧ p.2.Relabelled f p'.2

/-- A change of nodes that does not show in the shape of a tree. -/
structure Relabelling (f : Node → Node) : Prop where
  type_eq : ∀ n, (f n).type = n.type
  loc_eq : ∀ n, (f n).loc = n.loc
  attributes : ∀ n, List.Forall₂ (AttributeRelabelled f) n.attributes (f n).attributes

/-- An entry with its node changed. -/
def Entry.mapNode (f : Node → Node) (e : Entry) : Entry :=
  { e with node := f e.node }

/-- An occurrence with its node changed. -/
def Occurrence.mapNode (f : Node → Node) (o : Occurrence) : Occurrence :=
  { o with node := f o.node }

/-! ### Entries -/

/-- A plain item takes a position and makes no entry. -/
theorem listEntries_cons_of_isPlain (prop : String) (first : Nat) {v : Value} (h : v.IsPlain)
    (rest : List Value) :
    listEntries prop first (v :: rest) = listEntries prop (first + 1) rest := by
  cases v with
  | node n => exact h.elim
  | _ => rfl

/-- A plain attribute makes no entries. -/
theorem attributeEntries_of_isPlain (prop : String) {v : Value} (h : v.IsPlain) :
    attributeEntries prop v = [] := by
  unfold attributeEntries
  split_ifs
  · rfl
  · cases v with
    | node n => exact h.elim
    | list i items => exact h.elim
    | _ => rfl

/-- A property that holds a plain value has no slot. -/
theorem Occurrence.slot?_of_isPlain {o : Occurrence} {prop : String} {v : Value}
    (hget : Fields.get? o.node.attributes prop = some v) (h : v.IsPlain) :
    o.slot? prop = none := by
  unfold slot?
  split_ifs
  · rfl
  · rw [hget]
    cases v with
    | null => exact h.elim
    | node n => exact h.elim
    | list i items => exact h.elim
    | _ => rfl

section

variable {f : Node → Node}

/-- The entries of a changed list are the changed ones. -/
theorem listEntries_of_forall₂ (prop : String) (first : Nat) {items items' : List Value}
    (h : List.Forall₂ (Value.Relabelled f) items items') :
    listEntries prop first items' = (listEntries prop first items).map (Entry.mapNode f) := by
  induction h generalizing first with
  | nil => rfl
  | cons hv _ ih =>
    cases hv with
    | null => exact ih (first + 1)
    | node n =>
      rw [listEntries, listEntries, List.map_cons, ih]
      rfl
    | list i i' _ => exact ih (first + 1)
    | plain hplain hplain' =>
      -- neither of the two items is a node, whatever they are
      rw [listEntries_cons_of_isPlain prop first hplain,
        listEntries_cons_of_isPlain prop first hplain', ih]

/-- So are those of a changed attribute. -/
theorem attributeEntries_of_relabelled (prop : String) {v v' : Value} (h : v.Relabelled f v') :
    attributeEntries prop v' = (attributeEntries prop v).map (Entry.mapNode f) := by
  cases h with
  | plain hplain hplain' =>
    rw [attributeEntries_of_isPlain prop hplain, attributeEntries_of_isPlain prop hplain']
    rfl
  | null =>
    unfold attributeEntries
    split_ifs <;> rfl
  | node n =>
    unfold attributeEntries
    split_ifs <;> rfl
  | list i i' hitems =>
    unfold attributeEntries
    split_ifs
    · rfl
    · exact listEntries_of_forall₂ prop 0 hitems

/-- Values that are read under a name are changed values. -/
theorem get?_of_forall₂ {entries entries' : List (String × Value)}
    (h : List.Forall₂ (AttributeRelabelled f) entries entries') (name : String) :
    Option.Rel (Value.Relabelled f) (Fields.get? entries name) (Fields.get? entries' name) := by
  induction h with
  | nil => exact .none
  | @cons p p' _ _ hattribute _ ih =>
    obtain ⟨k, v⟩ := p
    obtain ⟨k', v'⟩ := p'
    obtain ⟨rfl, hv⟩ := hattribute
    simp only [Fields.get?]
    split_ifs
    · exact .some hv
    · exact ih

end

namespace Relabelling

variable {f : Node → Node} (h : Relabelling f)

include h

/-- The kind comes from the type. -/
theorem kind_eq (n : Node) : (f n).kind = n.kind := by
  rw [Node.kind, Node.kind, h.type_eq]

/-- Names stay names. -/
theorem isIdentifier_eq (n : Node) : (f n).isIdentifier = n.isIdentifier := by
  rw [Node.isIdentifier, Node.isIdentifier, h.kind_eq]

/-- The position comes from the location. -/
theorem position_eq (n : Node) : (f n).position = n.position := by
  rw [Node.position, Node.position, h.loc_eq]

/-- The entries of a changed node are the changed ones, attribute by attribute. -/
theorem entries_eq (n : Node) : (f n).entries = n.entries.map (Entry.mapNode f) := by
  have hattributes := h.attributes n
  unfold Node.entries
  -- by induction on the attributes side by side
  generalize n.attributes = ps, (f n).attributes = ps' at hattributes
  induction hattributes with
  | nil => rfl
  | cons hp _ ih =>
    rw [List.flatMap_cons, List.flatMap_cons, List.map_append, ih, ← hp.1,
      attributeEntries_of_relabelled _ hp.2]

/-- **Children.**  Sorting goes by location, so the changed children come in the same order. -/
theorem children_eq (n : Node) : (f n).children = n.children.map (Entry.mapNode f) := by
  unfold Node.children
  rw [h.entries_eq]
  refine (List.map_mergeSort fun a _ b _ => ?_).symm
  simp only [Entry.le, Entry.mapNode, h.position_eq]

/-! ### Arenas -/

omit h in
/-- Changed entries are laid out as changed occurrences. -/
theorem childOccurrences_map (f : Node → Node) (parent first : Nat) (es : List Entry) :
    childOccurrences parent first (es.map (Entry.mapNode f))
      = (childOccurrences parent first es).map (Occurrence.mapNode f) := by
  induction es generalizing first with
  | nil => rfl
  | cons e rest ih =>
    rw [List.map_cons, childOccurrences, ih]
    rfl

/-- **Step.**  One round of the loop on a changed arena. -/
theorem settle_map (arena : Array Occurrence) (o : Occurrence) :
    settle (arena.map (Occurrence.mapNode f)) (o.mapNode f)
      = (settle arena o).map (Occurrence.mapNode f) := by
  have hchildren : (o.mapNode f).node.children = o.node.children.map (Entry.mapNode f) :=
    h.children_eq o.node
  apply Array.toList_inj.mp
  rw [Array.toList_map, toList_settle, toList_settle, Array.toList_map, Array.size_map,
    List.map_append, ← childOccurrences_map, hchildren, List.length_map]
  congr 1
  -- the children are written into the same occurrence
  refine List.ext_getElem? fun i => ?_
  show ((arena.toList.map (Occurrence.mapNode f)).modify o.index _)[i]? = _
  rw [List.getElem?_modify, List.getElem?_map, List.getElem?_map, List.getElem?_modify]
  cases arena.toList[i]? with
  | none => rfl
  | some p =>
    show some (ite (o.index = i) _ _) = some (Occurrence.mapNode f (ite (o.index = i) _ _))
    split_ifs <;> rfl

/-- **Run.**  The loop on a changed arena. -/
theorem expand_map (pending : List Occurrence) (arena : Array Occurrence) :
    expand (pending.map (Occurrence.mapNode f)) (arena.map (Occurrence.mapNode f))
      = (expand pending arena).map (Occurrence.mapNode f) := by
  induction pending, arena using expand.induct with
  | case1 arena => rw [List.map_nil, expand, expand]
  | case2 arena o rest added indices settled ih =>
    rw [show settled ++ added = settle arena o from rfl, ← h.settle_map] at ih
    -- what becomes pending is the same but for the change
    have hadded : added.map (Occurrence.mapNode f)
        = childOccurrences (o.mapNode f).index (arena.map (Occurrence.mapNode f)).size
            (o.mapNode f).node.children := by
      rw [← childOccurrences_map, Array.size_map]
      exact congrArg _ (h.children_eq o.node).symm
    rw [List.map_append, List.map_reverse, hadded] at ih
    rw [List.map_cons, expand_cons, expand_cons, ih]

/-- The arena of a changed root is the changed arena. -/
theorem occurrences_ofRoot (root : Node) :
    (Tree.ofRoot (f root)).occurrences
      = (Tree.ofRoot root).occurrences.map (Occurrence.mapNode f) := by
  have hrun := h.expand_map [{ index := 0, node := root, link := none }]
    #[{ index := 0, node := root, link := none }]
  rw [List.map_toArray] at hrun
  exact hrun

/-- What stands at an index of it. -/
theorem get?_ofRoot (root : Node) (i : Nat) :
    (Tree.ofRoot (f root)).get? i = ((Tree.ofRoot root).get? i).map (Occurrence.mapNode f) := by
  rw [Tree.get?, Tree.get?, h.occurrences_ofRoot, Array.getElem?_map]

/-- It has as many occurrences. -/
theorem size_ofRoot (root : Node) : (Tree.ofRoot (f root)).size = (Tree.ofRoot root).size := by
  rw [Tree.size, Tree.size, h.occurrences_ofRoot, Array.size_map]

/-! ### Walks -/

/-- The same indices are pending all along, so the walk meets the changed occurrences. -/
theorem visit_ofRoot (root : Node) (steps : Nat) (pending : List Nat) :
    (Tree.ofRoot (f root)).visit steps pending
      = ((Tree.ofRoot root).visit steps pending).map (Occurrence.mapNode f) := by
  induction steps generalizing pending with
  | zero => rfl
  | succ steps ih =>
    cases pending with
    | nil => rfl
    | cons i rest =>
      rw [Tree.visit, Tree.visit, h.get?_ofRoot]
      cases (Tree.ofRoot root).get? i with
      | none => exact ih rest
      | some o =>
        show _ :: Tree.visit _ steps (o.children ++ rest) = _
        rw [ih]
        rfl

/-- The names of a changed root are its changed names, in the same order. -/
theorem identifiers_ofRoot (root : Node) :
    (Tree.ofRoot (f root)).identifiers
      = (Tree.ofRoot root).identifiers.map (Occurrence.mapNode f) := by
  rw [Tree.identifiers, Tree.identifiers, Tree.walk, Tree.walk, h.visit_ofRoot, h.size_ofRoot,
    List.filter_map]
  refine congrArg _ (List.filter_congr fun o _ => ?_)
  exact h.isIdentifier_eq o.node

/-! ### Properties -/

/-- The children of a property stand where they stood. -/
theorem childrenAt_mapNode (o : Occurrence) (prop : String) :
    (o.mapNode f).childrenAt prop = o.childrenAt prop := by
  unfold Occurrence.childrenAt
  have hchildren : (o.mapNode f).node.children = o.node.children.map (Entry.mapNode f) :=
    h.children_eq o.node
  rw [hchildren, List.zip_map_left, List.filterMap_map]
  rfl

/-- A property of a changed occurrence has the slot that it had before. -/
theorem slot?_mapNode (o : Occurrence) (prop : String) :
    (o.mapNode f).slot? prop = o.slot? prop := by
  have hget : Option.Rel (Value.Relabelled f) (Fields.get? o.node.attributes prop)
      (Fields.get? (o.mapNode f).node.attributes prop) :=
    get?_of_forall₂ (h.attributes o.node) prop
  generalize hx : Fields.get? o.node.attributes prop = x,
    hx' : Fields.get? (o.mapNode f).node.attributes prop = x' at hget
  cases hget with
  | none => rw [Occurrence.slot?, Occurrence.slot?, hx, hx']
  | some hv =>
    cases hv with
    | plain hplain hplain' =>
      rw [Occurrence.slot?_of_isPlain hx hplain, Occurrence.slot?_of_isPlain hx' hplain']
    | null => rw [Occurrence.slot?, Occurrence.slot?, hx, hx']
    | node n => rw [Occurrence.slot?, Occurrence.slot?, hx, hx', h.childrenAt_mapNode]
    | list i i' hitems =>
      rw [Occurrence.slot?, Occurrence.slot?, hx, hx', h.childrenAt_mapNode]
      -- a slot tells empty lists from others, and both lists are empty or neither
      cases hitems <;> rfl

/-- All slots stay. -/
theorem slots_mapNode (o : Occurrence) : (o.mapNode f).slots = o.slots := by
  unfold Occurrence.slots
  simp only [h.slot?_mapNode]
  have hattributes : List.Forall₂ (AttributeRelabelled f) o.node.attributes
    (o.mapNode f).node.attributes := h.attributes o.node
  generalize o.node.attributes = ps, (o.mapNode f).node.attributes = ps' at hattributes
  induction hattributes with
  | nil => rfl
  | cons hp _ ih => rw [List.filterMap_cons, List.filterMap_cons, ih, hp.1]

/-! ### Lookups -/

/-- The single child of a property, after the change. -/
theorem child?_ofRoot (root : Node) (o : Occurrence) (prop : String) :
    (Tree.ofRoot (f root)).child? (o.mapNode f) prop
      = ((Tree.ofRoot root).child? o prop).map (Occurrence.mapNode f) := by
  rw [Tree.child?, Tree.child?, h.slot?_mapNode]
  split
  · exact h.get?_ofRoot root _
  · rfl

/-- All children of a property, after the change. -/
theorem childrenOf_ofRoot (root : Node) (o : Occurrence) (prop : String) :
    (Tree.ofRoot (f root)).childrenOf (o.mapNode f) prop
      = ((Tree.ofRoot root).childrenOf o prop).map (Occurrence.mapNode f) := by
  rw [Tree.childrenOf, Tree.childrenOf, h.slot?_mapNode]
  split
  · rw [h.get?_ofRoot]
    cases (Tree.ofRoot root).get? _ <;> rfl
  · rw [List.map_filterMap]
    simp only [h.get?_ofRoot]
  · rfl

end Relabelling

end SymbolTags.Syntax
