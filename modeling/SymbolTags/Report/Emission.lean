import SymbolTags.Log.Event
import SymbolTags.Report.Tag
import SymbolTags.Selector.Lookup

namespace SymbolTags

open Syntax

/-!
# Emission — the tag stream of a tree

An `Emission` is a classified tree together with its source text, its path and the offsets
that are added to every reported position.  Names are reported in pre-order:

* a definition or reference yields its own tag;
* a lookup call yields reference tags for the names in its argument, right behind the tag
  of the function;
* an unknown place yields a diagnostic and an event.

A name that cannot be classified or scanned ends the report: `report` covers the names before
it, and `fault?` tells what is wrong.  Offsets move positions only; the text of a line always
comes from the source at hand.
-/

/-- A classified tree with all that its report needs. -/
structure Emission where
  classifier : Classifier
  source : List Char
  path : String
  lineOffset : Int := 0
  columnOffset : Int := 0

namespace Emission

/-- The mark for a name that has no place. -/
def rootMark : String := "<root>"

/-- The lines of the source. -/
def sourceLines (e : Emission) : Array (List Char) :=
  (Text.lines e.source).toArray

/-- A tag for a name at a position, moved by the offsets. -/
def tagAt (e : Emission) (ls : Array (List Char)) (kind : TagKind) (name : Data)
    (p : Position) : Tag where
  kind := kind
  name := name
  path := e.path
  line := p.line + e.lineOffset
  column := p.column + e.columnOffset
  sourceLine := Text.lineText ls p.line

/-- The name under which an occurrence is reported; a name that is not set is empty. -/
def shownName (o : Occurrence) : Data :=
  if o.name.isTruthy then o.name.toData else .str ""

/-- The tag of an occurrence itself. -/
def ownTag? (e : Emission) (ls : Array (List Char)) (o : Occurrence) : Option Tag :=
  (TagKind.ofVerdict? (e.classifier.verdict o)).map fun kind =>
    e.tagAt ls kind (shownName o) o.position

/-- The tags for the names in the argument of a lookup call. -/
def selectorTags (e : Emission) (ls : Array (List Char)) (o : Occurrence) : List Tag :=
  (Selector.references e.classifier e.source o).map fun r =>
    e.tagAt ls .reference (.str r.name) r.position

/-- All tags of an occurrence, its own first. -/
def tagsOf (e : Emission) (ls : Array (List Char)) (o : Occurrence) : List Tag :=
  (e.ownTag? ls o).toList ++ e.selectorTags ls o

/-- The text for the place of an occurrence. -/
def placeText (e : Emission) (o : Occurrence) : String :=
  match placeOf? e.classifier.tree o with
  | some p => p.kind ++ "." ++ p.prop
  | none => rootMark

/-- What is told about an occurrence at an unknown place. -/
def diagnosticOf (e : Emission) (ls : Array (List Char)) (o : Occurrence) : Diagnostic where
  name := shownName o
  path := e.path
  line := o.position.line + e.lineOffset
  column := o.position.column + e.columnOffset
  place := e.placeText o
  trace := e.classifier.tree.structuralPath o
  sourceLine := Text.lineText ls o.position.line

/-- The diagnostic of an occurrence at an unknown place. -/
def diagnostic? (e : Emission) (ls : Array (List Char)) (o : Occurrence) : Option Diagnostic :=
  if e.classifier.verdict o = .unknown then some (e.diagnosticOf ls o) else none

/-- Why an occurrence cannot be reported: it is classified first and scanned then. -/
def faultOf? (e : Emission) (o : Occurrence) : Option IllTyped :=
  e.classifier.fault? o <|> Selector.fault? e.classifier e.source o

/-- What ends the report before all names are reported. -/
def fault? (e : Emission) : Option IllTyped :=
  e.classifier.tree.identifiers.findSome? e.faultOf?

/-- The names that are reported: all that stand before one that cannot be. -/
def reported (e : Emission) : List Occurrence :=
  e.classifier.tree.identifiers.takeWhile fun o => (e.faultOf? o).isNone

/-- The report on the names of the tree. -/
def report (e : Emission) : Report :=
  let ls := e.sourceLines
  let names := e.reported
  { path := e.path
    tags := names.flatMap (e.tagsOf ls)
    diagnostics := names.filterMap (e.diagnostic? ls) }

end Emission

/-- The event that goes with a diagnostic. -/
def Diagnostic.event (d : Diagnostic) : Log.Event where
  level := .warning
  name := "unknown-identifier"
  fields :=
    [("name", d.name), ("line", .int d.line), ("column", .int (d.column + 1)),
     ("structure", .str d.place), ("trace", .str (" > ".intercalate d.trace))]

end SymbolTags
