import SymbolTags.Data

namespace SymbolTags.Log

/-!
# Log events

An `Event` has a level, a name and fields.  What becomes of it is decided by the sink that
receives it; the code that works on sources only lists the events that it raises.
`Event.ofCall` makes the event that a call of a logger's method stands for.
-/

/-- How serious an event is. -/
inductive Level where
  | notset
  | debug
  | info
  | warning
  | error
  | critical
deriving DecidableEq, Repr, Inhabited

namespace Level

/-- The number by which levels are compared. -/
def severity : Level → Nat
  | notset => 0
  | debug => 10
  | info => 20
  | warning => 30
  | error => 40
  | critical => 50

/-- The name of a level in lower case. -/
def label : Level → String
  | notset => "notset"
  | debug => "debug"
  | info => "info"
  | warning => "warning"
  | error => "error"
  | critical => "critical"

/-- The name of a level in upper case. -/
def title : Level → String
  | notset => "NOTSET"
  | debug => "DEBUG"
  | info => "INFO"
  | warning => "WARNING"
  | error => "ERROR"
  | critical => "CRITICAL"

/-- The level that an upper case name stands for; two levels have a second name. -/
def ofTitle? (s : String) : Option Level :=
  if s = "FATAL" then some critical
  else if s = "WARN" then some warning
  else [notset, debug, info, warning, error, critical].find? fun l => l.title == s

/-- Every level can be read back from its name. -/
@[simp] theorem ofTitle?_title (l : Level) : ofTitle? l.title = some l := by
  cases l <;> decide

end Level

/-- Something worth recording. -/
structure Event where
  level : Level
  name : String
  fields : Fields Data := []
deriving Repr, Inhabited, BEq

/-- The numbers in the fields of an event have few enough digits to be written. -/
def Event.isWritable (e : Event) : Bool :=
  e.fields.all fun p => p.2.isWritable

/-- The field that asks for the error at hand to be told. -/
def errorField : String := "exc_info"

/-- The field that asks for the way to the call to be told. -/
def stackField : String := "stack_info"

/-- The levels by the names of the methods that log at them. -/
def Level.ofMethod? (method : String) : Option Level :=
  if method = "fatal" then some .critical
  else if method = "warn" then some .warning
  else if method = "exception" then some .error
  else [Level.debug, .info, .warning, .error, .critical].find? fun l => l.label == method

/-! ### Calls -/

/-- Why a call of a logger is refused. -/
inductive CallError where
  /-- A field has the name of a parameter that the call has given a value already. -/
  | takenName (callee parameter : String)
  | noMethod (method : String)
  /-- A text is asked for, and a value of the given type found. -/
  | notText (type : String)
  /-- A method takes nothing but fields. -/
  | tooManyArguments (callee : String)
  | unknownParameter (callee parameter : String)
  /-- A name is looked for in vain. -/
  | missingKey (name : String)
  /-- A value of the given type is called like a method. -/
  | notCallable (type : String)
  /-- A name stands for something that is no level. -/
  | notLevel
  | noLevel (name : String)
deriving DecidableEq, Repr, Inhabited

/-- The text of an error. -/
def CallError.message : CallError → String
  | takenName callee parameter =>
    callee ++ "() got multiple values for argument " ++ Text.quoted parameter
  | noMethod method => "'BoundLogger' object has no attribute " ++ Text.quoted method
  | tooManyArguments callee => callee ++ "() takes 1 positional argument but 2 were given"
  | unknownParameter callee parameter =>
    callee ++ "() got an unexpected keyword argument " ++ Text.quoted parameter
  | missingKey name => Text.quoted name
  | notCallable type => Text.quoted type ++ " object is not callable"
  | notLevel => "level must be an integer"
  | noLevel name => "module 'logging' has no attribute " ++ Text.quoted name
  | notText type => "can only concatenate str (not \"" ++ type ++ "\") to str"

/-- The first field whose name a callee has taken for its parameters. -/
def takenName? (callee : String) (parameters : List String) (fields : Fields Data) :
    Option CallError :=
  (fields.find? fun p => parameters.contains p.1).map fun p => .takenName callee p.1

/-- The name under which a method tells of itself; a second name tells the first. -/
def methodTitle (method : String) : String :=
  if method = "warn" then "warning" else method

/-- The fields of a call must leave the names of the parameters of its method alone, and that
    of the parameter under which the method is passed on. -/
def callFault? (method : String) (fields : Fields Data) : Option CallError :=
  (takenName? ("BoundLogger." ++ methodTitle method) ["self", "event"] fields).or
    (takenName? "BoundLogger._proxy_to_logger" ["method_name"] fields)

/-- Reads the level of a message that comes from elsewhere; the names of the functions that log
    are no levels. -/
def Level.ofMessage (name : String) : Except CallError Level :=
  match Level.ofTitle? name with
  | some level => .ok level
  | none =>
    .error (if name = "log" || (Level.ofMethod? name).isSome then .notLevel else .noLevel name)

/-- The event of a call of a method.  The method for exceptions asks for the error at hand,
    unless the call says otherwise. -/
def Event.ofCall (method name : String) (fields : Fields Data) : Except CallError Event :=
  match Level.ofMethod? method, callFault? method fields with
  | none, _ => .error (.noMethod method)
  | some _, some e => .error e
  | some level, none =>
    let asks := method = "exception" ∧ (Fields.get? fields errorField).isNone
    .ok ⟨level, name, if asks then fields ++ [(errorField, .bool true)] else fields⟩

end SymbolTags.Log
