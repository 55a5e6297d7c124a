import SymbolTags.File.Path
import SymbolTags.Report.Emission
import SymbolTags.Tagging.Parse

namespace SymbolTags

open Syntax

/-!
# Tagging a source text

`tagSource` parses a source, lays out its tree, classifies its names and emits the report.
It refuses an empty source and an empty path before it parses anything, and otherwise
fails only when parsing does, when a value of the tree is ill-typed, or when an event that is to
be written has a number with too many digits.  Which events are written is up to a sink.
-/

/-- Why a source has no report. -/
inductive TagError where
  | emptySource
  | emptyPath
  | unreadable (path reason : String)
  /-- The path holds a null character. -/
  | nullInPath
  /-- The codec fails in a way of its own. -/
  | codec (message : String)
  | syntaxFailure (failure : SyntaxFailure)
  | illTyped (e : IllTyped)
  /-- A number has too many digits to be written. -/
  | tooManyDigits
deriving DecidableEq, Repr, Inhabited

/-- The text of an error. -/
def TagError.message : TagError → String
  | emptySource => "source text must not be empty"
  | emptyPath => "path must not be empty"
  | unreadable path reason => "Cannot read " ++ path ++ ": " ++ reason
  | nullInPath => File.nullMessage
  | codec message => message
  | syntaxFailure f => f.message
  | illTyped e => e.message
  | tooManyDigits => WriteError.tooManyDigits.message

/-- The error of a source that cannot be parsed. -/
def TagError.ofParseError : ParseError → TagError
  | .refused f => .syntaxFailure f
  | .illTyped e => .illTyped e
  | .tooManyDigits => .tooManyDigits

/-- Where a fragment starts in the document it was cut out of. -/
structure Offsets where
  line : Int := 0
  column : Int := 0
deriving DecidableEq, Repr, Inhabited

/-- The outcome of tagging, with the parser calls and events that led to it. -/
structure TagRun where
  result : Except TagError Report
  calls : List ParserCall := []
  events : List Log.Event := []

/-- The policies that the settings ask for. -/
def Settings.policies (s : Settings) : List Policy :=
  if s.requirePolicy then [Policy.require] else []

/-- The event of an occurrence whose node object a tree has met before. -/
def sharingEvent (t : Tree) (o : Occurrence) : Log.Event where
  level := .debug
  name := "shared-node-cloned"
  fields :=
    [("kind", o.node.type.elim .null .str),
     ("parent", ((t.parent? o).map (·.kind)).elim .null .str),
     ("prop", (o.link.map (·.prop)).elim .null .str)]

/-- The events of the node objects that a tree meets again. -/
def sharingEvents (t : Tree) : List Log.Event :=
  t.repeats.map (sharingEvent t)

/-- The closing event of a run. -/
def taggedEvent (grammar : Grammar) (r : Report) (t : Tree) : Log.Event where
  level := .debug
  name := "tagged"
  fields :=
    [("source_type", .str grammar.label), ("tags", .int r.tags.length),
     ("unknown", .int r.diagnostics.length), ("shared_nodes", .int t.sharedCount)]

/-- The emission of a parsed program. -/
def emissionOf (settings : Settings) (t : Tree) (source path : String) (offsets : Offsets) :
    Emission where
  classifier := { tree := t, policies := settings.policies }
  source := source.toList
  path := path
  lineOffset := offsets.line
  columnOffset := offsets.column

/-- The report on a parsed program, with the events of its making. -/
def reportOn (settings : Settings) (parsed : Parsed) (source path : String) (offsets : Offsets) :
    Except IllTyped Report × List Log.Event :=
  let t := Tree.ofRoot parsed.program
  let e := emissionOf settings t source path offsets
  let r := e.report
  let events := sharingEvents t ++ r.diagnostics.map Diagnostic.event
  match e.fault? with
  | some fault => (.error fault, events)
  | none =>
    (.ok { r with warnings := parsed.warnings }, events ++ [taggedEvent parsed.grammar r t])

/-- Tags a source text that is known under a path.  The events of a report are raised one by one,
    and the first that has to be written and cannot be ends the run. -/
def tagSource (parser : Parser) (settings : Settings) (source : String) (path : Option String)
    (offsets : Offsets := {}) (sink : Log.Sink := .library) : TagRun :=
  let path := path.getD ""
  if source = "" then { result := .error .emptySource }
  else if path = "" then { result := .error .emptyPath }
  else
    let run := parse parser settings source path sink
    match run.result with
    | .error e => { result := .error (.ofParseError e), calls := run.calls, events := run.events }
    | .ok parsed =>
      let (r, events) := reportOn settings parsed source path offsets
      { result := if events.all sink.takes then r.mapError .illTyped else .error .tooManyDigits
        calls := run.calls
        events := run.events ++ events.takeWhile sink.takes }

end SymbolTags
