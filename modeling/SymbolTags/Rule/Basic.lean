import SymbolTags.Syntax.IllTyped
import SymbolTags.Syntax.Tree
import SymbolTags.Verdict

namespace SymbolTags

open Syntax

/-!
# Rules — verdicts by place

The verdict for a name depends on where it hangs: on the kind of its parent and the
property it is attached through.  Most places have one verdict; a few look one step
further:

* `exportedName`, `importedBinding` and `propertyKey` compare with a sibling name;
* `methodName` leaves constructors out;
* `declaredName` leaves the bindings of loop headers out;
* `loopScoped` hides the uses of a loop's own variables inside its header;
* `custom` leaves the verdict to a function that is given from outside.

`Rule.apply` gives the verdict of a rule.  Looking a name up among the variables of a loop
fails when one of the names cannot be looked up at all, and `Rule.fault?` tells so.
-/

/-- What decides the verdict at a place. -/
inductive Rule where
  | always (verdict : Verdict)
  | exportedName
  | importedBinding
  | methodName
  | propertyKey
  | declaredName
  | loopScoped
  /-- A function of the tree, the occurrence and its parent. -/
  | custom (judge : Tree → Occurrence → Occurrence → Verdict)
deriving Inhabited

/-- A place: the kind of the parent and the property. -/
structure Place where
  kind : String
  prop : String
deriving DecidableEq, Repr, Inhabited

/-- The place at which an occurrence hangs; the root has none. -/
def placeOf? (t : Tree) (o : Occurrence) : Option Place :=
  o.link.bind fun l => (t.get? l.parent).map fun p => ⟨p.kind, l.prop⟩

namespace Rule

/-- Both are identifiers and have the same name. -/
def sameName (a : Occurrence) (b : Option Occurrence) : Bool :=
  match b with
  | none => false
  | some b => a.isIdentifier && b.isIdentifier && a.name.same b.name

/-- Places at which a declaration binds the variables of a loop. -/
def loopBindingPlaces : List Place :=
  [⟨"ForInStatement", "left"⟩, ⟨"ForStatement", "init"⟩]

/-- The parts of a loop header. -/
def loopHeaderProps : List String := ["init", "test", "update"]

/-- The names that the header of a loop declares by plain declarators. -/
def loopDeclaredNames (t : Tree) (loop : Occurrence) : List Value :=
  match t.child? loop "init" with
  | none => []
  | some init =>
    if init.kind == "VariableDeclaration" then
      (t.childrenOf init "declarations").filterMap fun d =>
        ((t.child? d "id").map (·.name)).filter Value.isTruthy
    else []

/-- The loop in whose header an occurrence stands, if the nearest loop above it is entered
    there. -/
def headerOf? (t : Tree) (o : Occurrence) : Option Occurrence :=
  (t.nearestAncestor? o "ForStatement").bind fun p =>
    if p.2 ∈ loopHeaderProps then some p.1 else none

/-- A declaration in a loop header, where its names count as loop variables. -/
def bindsLoop (t : Tree) (declaration : Occurrence) : Bool :=
  declaration.kind == "VariableDeclaration" &&
    (placeOf? t declaration).any fun p => p ∈ loopBindingPlaces

/-- The verdict of a rule for an occurrence below the given parent. -/
def apply (t : Tree) (o parent : Occurrence) : Rule → Verdict
  | always v => v
  | exportedName => if sameName o (t.child? parent "local") then .ignore else .definition
  | importedBinding => if sameName o (t.child? parent "imported") then .reference else .definition
  | methodName => if o.name.isText "constructor" then .ignore else .definition
  | propertyKey =>
    if (parent.node.attr "shorthand").isTruthy then .ignore
    else
      let same := sameName o (t.child? parent "value")
      match t.nearestAncestor? o "VariableDeclarator" with
      | some (_, side) =>
        if side == "init" && !same then .definition
        else if side == "id" && same then .definition
        else .reference
      | none => .reference
  | declaredName => if (t.parent? parent).any (bindsLoop t) then .ignore else .definition
  | loopScoped =>
    match headerOf? t o with
    | some loop =>
      if (loopDeclaredNames t loop).any (o.name.same ·) then .ignore else .reference
    | none => .reference
  | custom judge => judge t o parent

/-- Why a rule cannot be applied to an occurrence: the names of the loop are collected
    first, and the name of the occurrence is looked up among them. -/
def fault? (t : Tree) (o : Occurrence) : Rule → Option IllTyped
  | loopScoped =>
    (headerOf? t o).bind fun loop =>
      (loopDeclaredNames t loop ++ [o.name]).findSome? Value.keyFault?
  | _ => none

end Rule

end SymbolTags
