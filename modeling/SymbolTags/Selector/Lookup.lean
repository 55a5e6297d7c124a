import SymbolTags.Classifier.Basic
import SymbolTags.Selector.Scan
import SymbolTags.Text.Lines

namespace SymbolTags.Selector

open Syntax

/-!
# Lookups — names inside the argument of a lookup call

`document.getElementById("login")` names an element that other files define.  A lookup
call is a call of a member with one of five names; its first argument is scanned when it
is a text literal or a template:

* `Lookup.ofName?` tells the lookup functions and how their argument is scanned;
* `argument?` is the argument of the lookup call that an identifier names, the `literal?` of a
  reference;
* `pieces` are the parts of a literal that hold text, `segments` their texts, and
  `references` the names in these;
* `scan` finds the names as well, and refuses values that are not of the right type.
-/

/-- How the argument of a lookup function is read. -/
inductive Lookup where
  | words
  | selectors
deriving DecidableEq, Repr, Inhabited

/-- The lookup functions. -/
def Lookup.ofName? (name : String) : Option Lookup :=
  if name ∈ ["getElementById", "getElementsByClassName", "getElementsByName"] then some .words
  else if name ∈ ["querySelector", "querySelectorAll"] then some .selectors
  else none

/-- The names in a text. -/
def Lookup.scan : Lookup → List Char → List Found
  | words => scanWords
  | selectors => scanSelectors

/-- A name inside a literal, at its position in the source. -/
structure Reference where
  name : String
  position : Position
deriving DecidableEq, Repr, Inhabited

/-- A piece of source text with its position. -/
structure Segment where
  text : List Char
  position : Position
deriving DecidableEq, Repr, Inhabited

/-- A literal whose text is scanned: a template, or a literal with a text value. -/
def isScannable (o : Occurrence) : Bool :=
  o.kind == "TemplateLiteral" ||
    (o.kind == "Literal" && (o.node.attr "value").str?.isSome)

/-- The first argument of the call of a member, from the property of that member on, if it is a
    literal that can be scanned. -/
def literal? (t : Tree) (o : Occurrence) : Option Occurrence := do
  let link ← o.link
  guard (link.prop == "property")
  let member ← t.get? link.parent
  guard (member.kind == "MemberExpression")
  let memberLink ← member.link
  guard (memberLink.prop == "callee")
  let call ← t.get? memberLink.parent
  guard (call.kind == "CallExpression")
  let first ← (t.childrenOf call "arguments").head?
  guard (isScannable first)
  return first

/-- The scanned argument of the lookup call whose function an identifier names.  The
    identifier has to be a reference and the property of the called member. -/
def argument? (c : Classifier) (o : Occurrence) : Option Occurrence := do
  guard (c.verdict o == .reference)
  literal? c.tree o

/-- The value in which a parser keeps the raw form of a template part. -/
def templateRaw (n : Node) : Value :=
  let raw :=
    match n.attr "value" with
    | .dictionary _ entries => Fields.get? entries "raw"
    | v => v.attr? "raw"
  raw.getD .null

/-- The parts of a literal that hold text, each with the value of its raw form.  Of a template
    only the fixed parts count, because its expressions are tagged on their own. -/
def pieces (t : Tree) (literal : Occurrence) : List (Occurrence × Value) :=
  if literal.kind == "Literal" then [(literal, literal.node.attr "raw")]
  else (t.childrenOf literal "quasis").map fun q => (q, templateRaw q.node)

/-- The source text of a node, or its raw form when its offsets are not known. -/
def sourceText (source : List Char) (n : Node) (raw : Value) : Except IllTyped (List Char) :=
  match n.start, n.stop with
  | some a, some b => .ok (Text.slice source a b)
  | _, _ => raw.asText.map String.toList

/-- The pieces of text of a literal. -/
def segments (t : Tree) (source : List Char) (literal : Occurrence) : List Segment :=
  (pieces t literal).map fun p =>
    ⟨(sourceText source p.1.node p.2).toOption.getD [], p.1.position⟩

/-- Why a piece of a literal has no text. -/
def pieceFault? (source : List Char) (p : Occurrence × Value) : Option IllTyped :=
  match sourceText source p.1.node p.2 with
  | .ok _ => none
  | .error e => some e

/-- The names that a lookup finds in a piece of text. -/
def Segment.references (s : Segment) (lookup : Lookup) : List Reference :=
  (lookup.scan s.text).map fun f =>
    ⟨String.ofList f.name, Text.locate s.text s.position f.offset⟩

/-- The lookup function that an identifier names. -/
def lookupOf? (o : Occurrence) : Option Lookup :=
  o.name.str?.bind Lookup.ofName?

/-- The names inside the argument of the lookup call that an identifier names. -/
def references (c : Classifier) (source : List Char) (o : Occurrence) : List Reference :=
  match lookupOf? o, argument? c o with
  | some lookup, some literal =>
    (segments c.tree source literal).flatMap (·.references lookup)
  | _, _ => []

/-- Why the names cannot be found: the name of the identifier is looked up among the lookup
    functions, its verdict is asked for, and then the pieces of the argument are read. -/
def fault? (c : Classifier) (source : List Char) (o : Occurrence) : Option IllTyped :=
  o.name.keyFault? <|>
    (lookupOf? o).bind fun _ =>
      c.fault? o <|>
        (argument? c o).bind fun literal =>
          (pieces c.tree literal).findSome? (pieceFault? source)

/-- The names inside the argument of the lookup call that an identifier names, if all that is
    read on the way is of the right type. -/
def scan (c : Classifier) (source : List Char) (o : Occurrence) :
    Except IllTyped (List Reference) :=
  match fault? c source o with
  | some e => .error e
  | none => .ok (references c source o)

end SymbolTags.Selector
