import SymbolTags.Syntax.Value

namespace SymbolTags.Syntax

/-!
# Ill-typed values

A parser is free in what it puts into attributes, and some of them have to be of a certain
type.  A value of another type ends the work on its tree, and `IllTyped` tells why:

* `Value.asText` reads a value that has to be a text;
* `Value.elements` lists the elements of a value that has to have some;
* `Value.keyFault?` refuses a value that cannot be looked up in a set, because what it holds
  can change.
-/

/-- Why a value cannot be used. -/
inductive IllTyped where
  | notText (type : String)
  | notIterable (type : String)
  | noIterator (type : String)
  | unhashable (type : String)
deriving DecidableEq, Repr, Inhabited

/-- The text of the refusal. -/
def IllTyped.message : IllTyped → String
  | notText type => "expected string or bytes-like object, got " ++ Text.quoted type
  | notIterable type => Text.quoted type ++ " object is not iterable"
  | noIterator type => "iter() returned non-iterator of type " ++ Text.quoted type
  | unhashable type => "unhashable type: " ++ Text.quoted type

namespace Value

/-- The name of the type of a value. -/
def typeName : Value → String
  | null => "NoneType"
  | bool _ => "bool"
  | int _ => "int"
  | str _ => "str"
  | list _ _ => "list"
  | node _ => "Node"
  | object _ _ => "Object"
  | dictionary _ _ => "dict"
  | record _ _ => "types.SimpleNamespace"
  | fault _ _ => "Error"

/-- The text of a value that has to be one; a value that is not set is the empty text. -/
def asText (v : Value) : Except IllTyped String :=
  if v.isTruthy then
    match v with
    | str s => .ok s
    | v => .error (.notText v.typeName)
  else .ok ""

/-- The elements of a value: the items of a list, the characters of a text and the keys of a
    dictionary.  A value that is not set has none. -/
def elements (v : Value) : Except IllTyped (List Value) :=
  if v.isTruthy then
    match v with
    | list _ items => .ok items
    | str s => .ok (s.toList.map fun c => str (String.singleton c))
    | dictionary _ entries => .ok (entries.map fun p => str p.1)
    | node _ => .error (.noIterator "method")
    | v => .error (.notIterable v.typeName)
  else .ok []

/-- Why a value cannot be looked up in a set, if it cannot. -/
def keyFault? : Value → Option IllTyped
  | list i items => some (.unhashable (list i items).typeName)
  | dictionary i entries => some (.unhashable (dictionary i entries).typeName)
  | record i entries => some (.unhashable (record i entries).typeName)
  | _ => none

end Value

end SymbolTags.Syntax
