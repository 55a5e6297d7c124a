import SymbolTags.Data.Json
import SymbolTags.Log.Sink

namespace SymbolTags.Log

/-!
# Log rows — what is written of an event

A `Logger` has a name and fields that are bound to it; a context adds fields to all events
inside a block.  For one event the fields of the call come before those of the logger, and
these before those of the context:

* `Event.record` is the row of a log file, with the name and level of the event, and
  `Event.messageRecord` is that of a message that comes from elsewhere;
* `Event.text` is the line that is written when no logging is set up: the event, the bound
  fields, the fields of the call and what the context adds, each in its own order.
-/

/-- A source of events. -/
structure Logger where
  name : String
  bound : Fields Data := []
deriving Repr, Inhabited

/-- The fields that are bound to a logger must leave the names of the parameters alone by
    which it is made. -/
def Logger.fault? (l : Logger) : Option CallError :=
  (takenName? "get_logger" ["name"] l.bound).or
    (takenName? "BoundLoggerLazyProxy.bind" ["self"] l.bound)

/-- The full name of a method. -/
def methodName (method : String) : String :=
  "BoundLogger." ++ method

/-- What a logger holds besides its methods, by name, with the types of the values. -/
def Logger.attributeTypes : Fields String :=
  [("name", "str"), ("level", "int"), ("propagate", "bool"), ("handlers", "list"),
   ("disabled", "bool")]

/-- Takes the bound field of a name off a logger, with nothing to say about it if it is not
    `strict`; that takes no fields. -/
def Logger.unbind (l : Logger) (method name : String) (strict : Bool) (fields : Fields Data) :
    Except CallError (Option Event) :=
  match fields with
  | [] =>
    if strict && (Fields.get? l.bound name).isNone then .error (.missingKey name)
    else .ok none
  | (k, _) :: _ =>
    .error ((takenName? (methodName method) ["self"] [(k, .null)]).getD
      (.unknownParameter (methodName method) k))

/-- What becomes of a call of a logger's method with a name and fields: an event, or nothing.
    Methods that do not log mostly cannot be called like this. -/
def Logger.call (l : Logger) (method name : String) (fields : Fields Data) :
    Except CallError (Option Event) :=
  match l.fault?, Fields.get? attributeTypes method with
  | some e, _ => .error e
  | none, some type => .error (.notCallable type)
  | none, none =>
    let taken (parameters : List String) := takenName? (methodName method) parameters fields
    if method = "log" then .error ((taken ["self", "level"]).getD (.missingKey name))
    else if method = "bind" || method = "new" then
      .error ((taken ["self"]).getD (.tooManyArguments (methodName method)))
    else if method = "unbind" then l.unbind method name true fields
    else if method = "try_unbind" then l.unbind method name false fields
    else some <$> Event.ofCall method name fields

/-- A logger is the one of a name, or stands below it: names have parts divided by dots. -/
def Logger.isBelow (l : Logger) (name : String) : Bool :=
  l.name == name || (name ++ ".").toList.isPrefixOf l.name.toList

/-- The context inside a block that adds fields. -/
def enterContext (context fields : Fields Data) : Fields Data :=
  Fields.overlay context fields

/-- Adds the fields of the context whose names are not in use. -/
def addContext (fields context : Fields Data) : Fields Data :=
  fields ++ context.filter fun p => (Fields.get? fields p.1).isNone

/-- The fields of an event: bound fields, overwritten in place by those of the call, then
    those of the context. -/
def Event.allFields (e : Event) (bound context : Fields Data) : Fields Data :=
  addContext (Fields.overlay bound e.fields) context

/-- Fields that ask for more to be told than there is to tell. -/
def requestFields : List String :=
  [errorField, stackField]

/-- The field for the time of writing. -/
def timeField : String := "timestamp"

/-- Fields of an event that are not written: the time of writing comes in place of the one, and
    the writer uses the names of the others for itself. -/
def unwrittenFields : List String :=
  [timeField, "_record", "_from_structlog"]

/-- A row of a log file. -/
abbrev LogRow := Fields Data

mutual

/-- What is written of a value: settings, errors and records are texts. -/
def rowValue : Data → Data
  | .settings s => .str (Data.quotedSettings s)
  | .fault message => .str (Data.quotedFault message)
  | .object type written =>
    if type = Data.recordType then .str written else .object type written
  | .list items => .list (rowItems items)
  | .table entries => .table (rowEntries entries)
  | d => d

/-- What is written of the items of a list. -/
def rowItems : List Data → List Data
  | [] => []
  | d :: rest => rowValue d :: rowItems rest

/-- What is written of the entries of a table. -/
def rowEntries : List (String × Data) → List (String × Data)
  | [] => []
  | (k, d) :: rest => (k, rowValue d) :: rowEntries rest

end

/-- The row of a log file with given fields, without the time of writing. -/
def Event.rowOf (e : Event) (fields : Fields Data) : LogRow :=
  let fields := Fields.set (Fields.set fields "event" (.str e.name)) "level" (.str e.level.label)
  rowEntries (unwrittenFields.foldl Fields.erase fields)

/-- The row of an event; its requests have been answered by then. -/
def Event.record (e : Event) (bound context : Fields Data) : LogRow :=
  e.rowOf (requestFields.foldl Fields.erase (e.allFields bound context))

/-- The row of a message that comes from elsewhere, of which nothing is taken off. -/
def Event.messageRecord (e : Event) (context : Fields Data) : LogRow :=
  e.rowOf (e.allFields [] context)

/-- A row with an object in it that is no record cannot be written. -/
def canWrite (row : LogRow) : Bool :=
  (Data.table row).foreignType?.isNone

/-- Fields that the console shows as they are, below the event. -/
def shownFields : List String :=
  ["stack", "exception"]

/-- The console can show texts, and leaves out what is null. -/
def consoleFault? (fields : Fields Data) : Option CallError :=
  shownFields.findSome? fun name =>
    match (Fields.get? fields name).getD .null with
    | .null | .str _ => none
    | d => some (.notText d.typeName)

/-- The line that is written when no logging is set up. -/
def Event.text (e : Event) (bound context : Fields Data) : String :=
  let fields := Fields.erase (e.allFields bound context) "event"
  " ".intercalate ((("event", Data.str e.name) :: fields).map fun p => p.1 ++ "=" ++ p.2.quoted)

/-- A line with its level and the name of its logger. -/
structure Line where
  level : Level
  logger : String
  message : String
deriving DecidableEq, Repr, Inhabited

/-- The lines that a logger set to a level writes of events when no logging is set up.  An
    event that cannot be written ends the writing. -/
def linesOf (level : Level) (logger : Logger) (context : Fields Data) (events : List Event) :
    List Line :=
  let sink := Sink.library level
  ((events.takeWhile sink.takes).filter fun e => sink.admits e.level).map fun e =>
    ⟨e.level, logger.name, e.text logger.bound context⟩

end SymbolTags.Log
