import SymbolTags.Syntax.Node
import SymbolTags.Text.JsonString

namespace SymbolTags.Syntax

/-!
# Values — comparing and writing attributes

* `Value.same` tells whether two values are equal.  Objects, nodes and faults are equal to
  themselves alone; lists, dictionaries and records are compared by what they hold, and a
  truth value equals the integer it counts for;
* `Value.quoted` writes a value with its texts in quotes, and nodes and objects over several
  lines; what lies inside of itself is hinted at.  `Value.text` writes a bare text as it is, and
  `Value.isWritable` says whether the numbers in it are short enough for that;
* `Value.toData` makes plain data of a value.
-/

namespace Value

/-! ### Equality -/

/-- The integer that a truth value counts for. -/
def countOf (b : Bool) : Int := if b then 1 else 0

mutual

/-- The values are equal. -/
def same : Value → Value → Bool
  | null, null => true
  | bool a, bool b => a == b
  | bool a, int n => countOf a == n
  | int n, bool b => n == countOf b
  | int m, int n => m == n
  | str s, str t => s == t
  | list _ xs, list _ ys => sameItems xs ys
  | node m, node n => m.identity == n.identity
  | object i _, object j _ => i == j
  | dictionary _ xs, dictionary _ ys => xs.length == ys.length && sameEntries xs ys
  | record _ xs, record _ ys => xs.length == ys.length && sameEntries xs ys
  | fault i _, fault j _ => i == j
  | _, _ => false

/-- The lists hold equal items in the same order. -/
def sameItems : List Value → List Value → Bool
  | [], [] => true
  | v :: vs, w :: ws => same v w && sameItems vs ws
  | _, _ => false

/-- Every entry of the first list has an equal one in the second. -/
def sameEntries : List (String × Value) → List (String × Value) → Bool
  | [], _ => true
  | (k, v) :: rest, ys =>
    (match Fields.get? ys k with
      | some w => same v w
      | none => false) && sameEntries rest ys

end

/-- A value is a given text. -/
def isText (v : Value) (s : String) : Bool :=
  v.str? == some s

/-! ### Written forms -/

/-- The blanks before a line at a depth. -/
def margin (depth : Nat) : String :=
  String.ofList (List.replicate (4 * depth) ' ')

/-- Parts between brackets, each on a line of its own one step further in. -/
def block (depth : Nat) (opening closing : String) (parts : List String) : String :=
  if parts.isEmpty then opening ++ closing
  else
    let inner := "\n" ++ margin (depth + 1)
    opening ++ inner ++ ("," ++ inner).intercalate parts ++ "\n" ++ margin depth ++ closing

/-- Stands for a node or an object inside of itself. -/
def hint : String := "..."

/-- Parts between braces, each on a line of its own. -/
def braced (depth : Nat) (parts : List String) : String :=
  block depth "\x7b" "\x7d" parts

/-- The location of a node as one of its attributes. -/
def locationParts (depth : Nat) : Option (Option Position) → List String
  | none => []
  | some none => ["loc: " ++ braced depth []]
  | some (some p) =>
    let start := braced (depth + 1) ["line: " ++ toString p.line, "column: " ++ toString p.column]
    ["loc: " ++ braced depth ["start: " ++ start]]

/-- The offsets of a node as one of its attributes. -/
def rangeParts (depth : Nat) : Option (List Int) → List String
  | none => []
  | some bounds => ["range: " ++ block depth "[" "]" (bounds.map toString)]

/-- The type of a node as one of its attributes. -/
def typeParts : Option String → List String
  | none => []
  | some type => ["type: " ++ Text.asciiJsonString type]

mutual

/-- The written form of a value outside of nodes and objects.  A list, dictionary or record that
    is open already is only hinted at. -/
def quotedIn (opened : List Nat) : Value → String
  | null => Data.nullText
  | bool b => Data.boolText b
  | int n => toString n
  | str s => Text.quoted s
  | list i items =>
    if items.isEmpty then "[]"
    else if i ∈ opened then "[...]"
    else "[" ++ ", ".intercalate (quotedItems (i :: opened) items) ++ "]"
  | dictionary i entries =>
    if entries.isEmpty then "\x7b\x7d"
    else if i ∈ opened then "\x7b...\x7d"
    else "\x7b" ++ ", ".intercalate (quotedEntries (i :: opened) entries) ++ "\x7d"
  | record i entries =>
    if i ∈ opened then "namespace(...)"
    else "namespace(" ++ ", ".intercalate (quotedMembers (i :: opened) entries) ++ ")"
  | node ⟨type, i, loc, range, attributes⟩ =>
    let parts := (writtenAttributes opened 1 [i] attributes).1
    braced 0 (typeParts type ++ parts ++ locationParts 1 loc ++ rangeParts 1 range)
  | object i entries => braced 0 (writtenAttributes opened 1 [i] entries).1
  | fault _ f => Data.quotedFault f.message

/-- The written forms of list items. -/
def quotedItems (opened : List Nat) : List Value → List String
  | [] => []
  | v :: rest => quotedIn opened v :: quotedItems opened rest

/-- The written forms of dictionary entries. -/
def quotedEntries (opened : List Nat) : List (String × Value) → List String
  | [] => []
  | (k, v) :: rest => (Text.quoted k ++ ": " ++ quotedIn opened v) :: quotedEntries opened rest

/-- The written forms of record members; one without a name is left out. -/
def quotedMembers (opened : List Nat) : List (String × Value) → List String
  | [] => []
  | (k, v) :: rest =>
    if k = "" then quotedMembers opened rest
    else (k ++ "=" ++ quotedIn opened v) :: quotedMembers opened rest

/-- The written form of a value inside of a node or an object, at a depth: texts are JSON
    strings, and what holds something takes several lines.  A node or an object that has been
    begun is only hinted at, and counts as not begun from there on; which ones have been begun
    is told along with the text. -/
def written (opened : List Nat) (depth : Nat) (begun : List Nat) : Value → String × List Nat
  | str s => (Text.asciiJsonString s, begun)
  | list _ items =>
    let (parts, begun) := writtenItems opened (depth + 1) begun items
    (block depth "[" "]" parts, begun)
  | dictionary _ entries =>
    let (parts, begun) := writtenAttributes opened (depth + 1) begun entries
    (braced depth parts, begun)
  | object i entries =>
    if i ∈ begun then (hint, begun.erase i)
    else
      let (parts, begun) := writtenAttributes opened (depth + 1) (i :: begun) entries
      (braced depth parts, begun.erase i)
  | node ⟨type, i, loc, range, attributes⟩ =>
    if i ∈ begun then (hint, begun.erase i)
    else
      let inner := depth + 1
      let (parts, begun) := writtenAttributes opened inner (i :: begun) attributes
      (braced depth (typeParts type ++ parts ++ locationParts inner loc ++ rangeParts inner range),
        begun.erase i)
  | record i entries =>
    if i ∈ opened then ("namespace(...)", begun)
    else
      ("namespace(" ++ ", ".intercalate (quotedMembers (i :: opened) entries) ++ ")", begun)
  | null => (Data.nullText, begun)
  | bool b => (Data.boolText b, begun)
  | int n => (toString n, begun)
  | fault _ f => (Data.quotedFault f.message, begun)

/-- The written forms of list items inside of a node or an object. -/
def writtenItems (opened : List Nat) (depth : Nat) (begun : List Nat) :
    List Value → List String × List Nat
  | [] => ([], begun)
  | v :: rest =>
    let (part, begun) := written opened depth begun v
    let (parts, begun) := writtenItems opened depth begun rest
    (part :: parts, begun)

/-- The written forms of attributes; private ones and those that are null are left out. -/
def writtenAttributes (opened : List Nat) (depth : Nat) (begun : List Nat) :
    List (String × Value) → List String × List Nat
  | [] => ([], begun)
  | (_, null) :: rest => writtenAttributes opened depth begun rest
  | (k, v) :: rest =>
    if k.toList.head? = some '_' then writtenAttributes opened depth begun rest
    else
      let (part, begun) := written opened depth begun v
      let (parts, begun) := writtenAttributes opened depth begun rest
      ((k ++ ": " ++ part) :: parts, begun)

end

/-- The written form of a value by itself. -/
def quoted (v : Value) : String :=
  quotedIn [] v

/-- The text of a value: a text itself, the message of a fault, anything else in its
    written form. -/
def text : Value → String
  | str s => s
  | fault _ f => f.text
  | v => quoted v

mutual

/-- The numbers in the written form of a value have few enough digits.  Inside of nodes and
    objects private entries do not count, since they are left out there.  What is only hinted at
    is written elsewhere in the same text, so it is looked at like everything else. -/
def isWritableIn (inside : Bool) : Value → Bool
  | int n => Text.isWritable n
  | list _ items => areWritable inside items
  | dictionary _ entries => haveWritable inside entries
  | record _ entries => membersWritable entries
  | node ⟨_, _, loc, range, attributes⟩ =>
    (loc.bind id).all (fun p => Text.isWritable p.line && Text.isWritable p.column) &&
      range.all (fun bounds => bounds.all Text.isWritable) && haveWritable true attributes
  | object _ entries => haveWritable true entries
  | _ => true

/-- The same for all items of a list. -/
def areWritable (inside : Bool) : List Value → Bool
  | [] => true
  | v :: rest => isWritableIn inside v && areWritable inside rest

/-- The same for the values of all entries. -/
def haveWritable (inside : Bool) : List (String × Value) → Bool
  | [] => true
  | (k, v) :: rest =>
    (inside && k.toList.head? == some '_' || isWritableIn inside v) && haveWritable inside rest

/-- The same for the values of record members; one without a name is left out. -/
def membersWritable : List (String × Value) → Bool
  | [] => true
  | (k, v) :: rest => (k == "" || isWritableIn false v) && membersWritable rest

end

/-- The numbers in the text of a value have few enough digits for it to be written. -/
def isWritable (v : Value) : Bool :=
  isWritableIn false v

/-! ### Plain parts -/

mutual

/-- A value as plain data; what is no plain value keeps its written form. -/
def toData : Value → Data
  | null => .null
  | bool b => .bool b
  | int n => .int n
  | str s => .str s
  | list _ items => .list (itemsToData items)
  | dictionary _ entries => .table (entriesToData entries)
  | fault _ f => .fault f.message
  | node n => .object "Node" (quoted (node n))
  | object i entries => .object "Object" (quoted (object i entries))
  | record i entries => .object Data.recordType (quoted (record i entries))

/-- List items as plain data. -/
def itemsToData : List Value → List Data
  | [] => []
  | v :: rest => toData v :: itemsToData rest

/-- Named values as plain data. -/
def entriesToData : List (String × Value) → List (String × Data)
  | [] => []
  | (k, v) :: rest => (k, toData v) :: entriesToData rest

end

end Value

end SymbolTags.Syntax
