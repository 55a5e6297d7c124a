import SymbolTags.Data

namespace SymbolTags.Syntax

/-!
# Nodes — the syntax tree as a parser hands it over

* `Value` is what an attribute of a node can hold; `Node` is a syntax node with its
  attributes in declaration order;
* objects, lists and dictionaries are told apart by their `identity`, so a node that hangs at
  several places of a tree carries the same identity at each of them.  A value may lie inside
  of itself; then it is unfolded as far as it is looked at;
* `Node.entries` lists the traversable children in declaration order, and
  `Node.children` lists them in source order: by line and column, children with equal
  location staying in declaration order.

A child is a node that is the value of a non-structural attribute, or an item of a list
that is such a value.  Nodes inside nested lists, objects and dictionaries are not
children.
-/

/-- A line and a column, both as the parser counts them. -/
structure Position where
  line : Int
  column : Int
deriving DecidableEq, Repr, Inhabited

/-- Reading order: by line, then by column. -/
def Position.le (p q : Position) : Bool :=
  p.line < q.line || (p.line == q.line && p.column ≤ q.column)

/-- What a parser says about source text that it does not accept. -/
structure Fault where
  message : Option String
  line : Option Int := none
  description : Option String := none
deriving DecidableEq, Repr, Inhabited

/-- The text of a fault, which is that of its message. -/
def Fault.text (f : Fault) : String :=
  f.message.getD Data.nullText

mutual

/-- What an attribute can hold. -/
inductive Value where
  | null
  | bool (b : Bool)
  | int (n : Int)
  | str (s : String)
  | list (identity : Nat) (items : List Value)
  | node (n : Node)
  /-- An object on which every attribute can be read; one it does not hold is null. -/
  | object (identity : Nat) (entries : List (String × Value))
  /-- A dictionary: it has entries and no attributes. -/
  | dictionary (identity : Nat) (entries : List (String × Value))
  /-- An object that has the attributes it holds and no others. -/
  | record (identity : Nat) (entries : List (String × Value))
  | fault (identity : Nat) (f : Fault)

/-- A syntax node. -/
structure Node where
  /-- The grammar's name for the node, if it has one. -/
  type : Option String
  /-- The number of the node object; all its occurrences carry the same. -/
  identity : Nat := 0
  /-- The location record: absent, present without a start, or with a start. -/
  loc : Option (Option Position) := none
  /-- Start and end offsets; an empty list gives none. -/
  range : Option (List Int) := none
  /-- The remaining attributes in declaration order. -/
  attributes : List (String × Value) := []

end

instance : Inhabited Value := ⟨.null⟩
instance : Inhabited Node := ⟨{ type := none }⟩

/-! ### Reading values -/

namespace Value

/-- The text of a text value. -/
def str? : Value → Option String
  | str s => some s
  | _ => none

/-- Null, false, zero, the empty text, the empty list and the empty dictionary count as
    not set. -/
def isTruthy : Value → Bool
  | null => false
  | bool b => b
  | int n => n != 0
  | str s => s != ""
  | list _ items => !items.isEmpty
  | dictionary _ entries => !entries.isEmpty
  | _ => true

end Value

/-! ### Reading nodes -/

/-- Attributes that describe a node instead of holding its children. -/
def structuralNames : List String :=
  ["type", "loc", "range", "errors", "tokens", "comments", "leadingComments",
    "trailingComments", "innerComments"]

/-- The kind of a node that has no type. -/
def Node.untyped : String := "Node"

/-- The kind of the nodes that are classified. -/
def Node.identifierKind : String := "Identifier"

namespace Node

/-- What every node can do besides holding attributes. -/
def abilities : List String :=
  ["items", "keys", "toDict", "__class__", "__delattr__", "__dict__", "__dir__", "__eq__",
   "__format__", "__ge__", "__getattr__", "__getattribute__", "__getstate__", "__gt__", "__hash__",
   "__init__", "__init_subclass__", "__iter__", "__le__", "__lt__", "__ne__", "__new__",
   "__reduce__", "__reduce_ex__", "__repr__", "__setattr__", "__sizeof__", "__str__",
   "__subclasshook__"]

/-- The name under which every node tells where it comes from. -/
def originName : String := "__module__"

/-- Where nodes come from. -/
def origin : String := "esprima.nodes"

/-- The attribute of a name.  A name that the node holds nothing under is null, unless it is
    that of its origin or of an ability. -/
def attr (n : Node) (name : String) : Value :=
  if name = "type" then n.type.elim .null .str
  else if name = "loc" then n.loc.elim .null fun _ => .object 0 []
  else if name = "range" then n.range.elim .null fun bounds => .list 0 (bounds.map .int)
  else
    match Fields.get? n.attributes name with
    | some v => v
    | none =>
      if name = originName then .str origin
      else if name ∈ abilities then .object 0 []
      else .null

/-- The type of a node, or `untyped` when it has none or an empty one. -/
def kind (n : Node) : String :=
  match n.type with
  | none => untyped
  | some t => if t = "" then untyped else t

/-- An occurrence of a name. -/
def isIdentifier (n : Node) : Bool :=
  n.kind == identifierKind

/-- The name of an identifier, which a parser may leave out; other nodes have none. -/
def name (n : Node) : Value :=
  if n.isIdentifier then n.attr "name" else .null

/-- Where a node starts; line 0 and column 0 when nothing is known. -/
def position (n : Node) : Position :=
  (n.loc.bind id).getD ⟨0, 0⟩

/-- The offset at which the text of a node starts. -/
def start (n : Node) : Option Int :=
  match n.range with
  | some (a :: _ :: _) => some a
  | _ => none

/-- The offset at which the text of a node ends. -/
def stop (n : Node) : Option Int :=
  match n.range with
  | some (_ :: b :: _) => some b
  | _ => none

end Node

/-- The attribute that can be read off a value under a name, if there is any. -/
def Value.attr? : Value → String → Option Value
  | .node n, name => some (n.attr name)
  | .object _ entries, name => some ((Fields.get? entries name).getD .null)
  | .record _ entries, name => Fields.get? entries name
  | .fault _ f, name =>
    if name = "message" then some (f.message.elim .null .str)
    else if name = "lineNumber" then some (f.line.elim .null .int)
    else if name = "description" then f.description.map .str
    else none
  | _, _ => none

/-! ### Children -/

/-- A child with the property it hangs on, and its position when the property holds a
    list. -/
structure Entry where
  prop : String
  position : Option Nat
  node : Node

/-- The node items of a list, each with its position; other items are holes. -/
def listEntries (prop : String) : Nat → List Value → List Entry
  | _, [] => []
  | k, .node n :: rest => ⟨prop, some k, n⟩ :: listEntries prop (k + 1) rest
  | k, _ :: rest => listEntries prop (k + 1) rest

/-- The children that an attribute holds. -/
def attributeEntries (prop : String) (v : Value) : List Entry :=
  if prop ∈ structuralNames then []
  else
    match v with
    | .node n => [⟨prop, none, n⟩]
    | .list _ items => listEntries prop 0 items
    | _ => []

/-- One child is not located after another. -/
def Entry.le (a b : Entry) : Bool :=
  a.node.position.le b.node.position

namespace Node

/-- The children in declaration order. -/
def entries (n : Node) : List Entry :=
  n.attributes.flatMap fun p => attributeEntries p.1 p.2

/-- The children in source order.  The sort is stable, so children with equal location
    keep the declaration order of their properties and the order of their lists. -/
def children (n : Node) : List Entry :=
  n.entries.mergeSort Entry.le

end Node

/-! ### Sizes -/

namespace Node

/-- The sizes of nodes taken together. -/
noncomputable def totalSize : List Node → Nat
  | [] => 0
  | n :: rest => sizeOf n + totalSize rest

theorem totalSize_append (ms ns : List Node) :
    totalSize (ms ++ ns) = totalSize ms + totalSize ns := by
  induction ms with
  | nil => simp [totalSize]
  | cons m rest ih => simp [totalSize, ih, Nat.add_assoc]

/-- The order of the nodes does not matter. -/
theorem totalSize_perm {ms ns : List Node} (h : ms.Perm ns) : totalSize ms = totalSize ns := by
  induction h with
  | nil => rfl
  | cons m _ ih => simp [totalSize, ih]
  | swap m n rest => simp only [totalSize]; omega
  | trans _ _ ih ih' => exact ih.trans ih'

end Node

/-- The node items of a list are together not larger than the list. -/
theorem totalSize_listEntries (prop : String) (k : Nat) (items : List Value) :
    Node.totalSize ((listEntries prop k items).map (·.node)) ≤ sizeOf items := by
  fun_induction listEntries prop k items with
  | case1 => simp [Node.totalSize]
  | case2 k n rest ih => simp [Node.totalSize]; omega
  | case3 k v rest _ ih => simp; omega

/-- The children that a value holds are together not larger than the value. -/
theorem totalSize_attributeEntries (prop : String) (v : Value) :
    Node.totalSize ((attributeEntries prop v).map (·.node)) ≤ sizeOf v := by
  unfold attributeEntries
  split
  · simp [Node.totalSize]
  · split
    · simp [Node.totalSize]
    · rename_i items
      have := totalSize_listEntries prop 0 items
      simp only [Value.list.sizeOf_spec]; omega
    · simp [Node.totalSize]

/-- The children that attributes hold are together not larger than the attributes. -/
theorem totalSize_flatMap_attributeEntries (attrs : List (String × Value)) :
    Node.totalSize ((attrs.flatMap fun p => attributeEntries p.1 p.2).map (·.node))
      ≤ sizeOf attrs := by
  induction attrs with
  | nil => simp [Node.totalSize]
  | cons p rest ih =>
    obtain ⟨prop, v⟩ := p
    have := totalSize_attributeEntries prop v
    simp only [List.flatMap_cons, List.map_append, Node.totalSize_append, List.cons.sizeOf_spec,
      Prod.mk.sizeOf_spec]
    omega

/-- The children of a node are together smaller than the node. -/
theorem Node.totalSize_children (n : Node) : totalSize (n.children.map (·.node)) < sizeOf n := by
  have hperm : (n.children.map (·.node)).Perm (n.entries.map (·.node)) :=
    (List.mergeSort_perm _ _).map _
  have hsize := totalSize_flatMap_attributeEntries n.attributes
  have hlt : sizeOf n.attributes < sizeOf n := by
    cases n
    simp only [Node.mk.sizeOf_spec]
    omega
  rw [totalSize_perm hperm]
  exact Nat.lt_of_le_of_lt hsize hlt

end SymbolTags.Syntax
