import SymbolTags.Policy.ModuleStem
import SymbolTags.Rule.Basic

namespace SymbolTags

open Syntax

/-!
# Policies — revising verdicts

A `Policy` may replace the verdict that the rules gave:

* `Policy.require` treats a variable that binds a module under the module's own name as a
  use of that module;
* `Policy.remap` replaces verdicts one by one.
-/

/-- A layer over the rules that may revise a verdict. -/
structure Policy where
  adjust : Tree → Occurrence → Verdict → Verdict

namespace Policy

/-- The function that loads a module. -/
def loaderName : String := "require"

/-- The specifier of the module that a declarator binds: its initialiser calls the loader
    with exactly one argument, a text literal. -/
def requiredModule? (t : Tree) (declarator : Occurrence) : Option String := do
  let call ← t.child? declarator "init"
  guard (call.kind == "CallExpression")
  let callee ← t.child? call "callee"
  guard (callee.name.isText loaderName)
  match t.childrenOf call "arguments" with
  | [argument] =>
    guard (argument.kind == "Literal")
    (argument.node.attr "value").str?
  | _ => none

/-- The declarator whose own name an occurrence is. -/
def declaratorOf? (t : Tree) (o : Occurrence) : Option Occurrence := do
  let link ← o.link
  guard (link.prop == "id")
  let declarator ← t.get? link.parent
  guard (declarator.kind == "VariableDeclarator")
  return declarator

/-- The name of a declarator that binds a module under its stem. -/
def bindsOwnModule (t : Tree) (o : Occurrence) : Bool :=
  match (declaratorOf? t o).bind (requiredModule? t) with
  | some specifier => o.name.isText (moduleStem specifier)
  | none => false

/-- Binding a module under its own name is a use of the module. -/
def require : Policy where
  adjust t o v := if v == .definition && bindsOwnModule t o then .reference else v

/-- Replaces verdicts by a function. -/
def remap (f : Verdict → Verdict) : Policy where
  adjust _ _ v := f v

end Policy

end SymbolTags
