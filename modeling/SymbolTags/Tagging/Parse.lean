import SymbolTags.Log.Sink
import SymbolTags.Syntax.IllTyped
import SymbolTags.Text.Word

namespace SymbolTags

open Syntax

/-!
# Parsing — one grammar, then the other

A `Parser` is given from outside.  `parse` tries the script grammar first and, if the
settings allow it, the module grammar after a failure:

* `ParseRun` lists the calls of the parser and the events along with the outcome;
* `Value.describe` words a parse error: its description if it has one, else its message
  without a leading line number;
* `toleratedErrors` words the errors that a parser recorded and went on from.

A record of errors that is not of the right type makes parsing fail as well, and so does a number
that has to be written and has too many digits.
-/

/-- The two grammars of the language. -/
inductive Grammar where
  | script
  | module
deriving DecidableEq, Repr, Inhabited

/-- The word for a grammar. -/
def Grammar.label : Grammar → String
  | script => "script"
  | module => "module"

/-- What a parser is asked for besides locations, offsets and tolerance. -/
structure ParserOptions where
  jsx : Bool := false
deriving DecidableEq, Repr, Inhabited

/-- The options that are switched on. -/
def ParserOptions.enabled (o : ParserOptions) : List String :=
  ["loc", "range", "tolerant"] ++ if o.jsx then ["jsx"] else []

/-- A parser for both grammars. -/
abbrev Parser := Grammar → ParserOptions → String → Except Fault Node

/-- One call of the parser. -/
structure ParserCall where
  grammar : Grammar
  options : ParserOptions
deriving DecidableEq, Repr, Inhabited

/-- Neither permitted grammar accepts a source. -/
structure SyntaxFailure where
  path : String
  line : Option Int
  description : String
deriving DecidableEq, Repr, Inhabited

/-- The text of a number that may be missing. -/
def lineWord (line : Option Int) : String :=
  (line.elim Data.null Data.int).text

/-- The text of a failure. -/
def SyntaxFailure.message (f : SyntaxFailure) : String :=
  "Syntax Error: " ++ f.path ++ " at line " ++ lineWord f.line ++ " : " ++ f.description

/-- Why parsing fails. -/
inductive ParseError where
  | refused (f : SyntaxFailure)
  | illTyped (e : IllTyped)
  /-- A number has too many digits to be written. -/
  | tooManyDigits
deriving DecidableEq, Repr, Inhabited

/-- A program with the grammar that accepted it. -/
structure Parsed where
  program : Node
  grammar : Grammar
  warnings : List String := []

/-- The outcome of parsing, with the calls and events that led to it. -/
structure ParseRun where
  result : Except ParseError Parsed
  calls : List ParserCall := []
  events : List Log.Event := []

/-! ### Wording of errors -/

/-- The word before a line number in a parser message. -/
def linePrefix : List Char := "Line ".toList

/-- Drops a leading `Line N: `. -/
def dropLinePrefix (cs : List Char) : List Char :=
  if linePrefix.isPrefixOf cs then
    let rest := cs.drop linePrefix.length
    let digits := rest.takeWhile Text.isDecimalDigit
    match rest.dropWhile Text.isDecimalDigit with
    | ':' :: ' ' :: tail => if digits.isEmpty then cs else tail
    | _ => cs
  else cs

/-- A set attribute of a value. -/
def Syntax.Value.setAttr? (v : Value) (name : String) : Option Value :=
  (v.attr? name).filter Value.isTruthy

/-- The text of a value, if the numbers in it can be written. -/
def Syntax.Value.format (v : Value) : Except ParseError String :=
  if v.isWritable then .ok v.text else .error .tooManyDigits

/-- The wording of an error: its description, or else its message, or else its text, the
    last two without a leading line number.  A message has to be a text. -/
def Syntax.Value.describe (v : Value) : Except ParseError String :=
  match v.setAttr? "description" with
  | some d => d.format
  | none =>
    let message : Except ParseError String :=
      match v.setAttr? "message" with
      | some m => m.asText.mapError .illTyped
      | none => v.format
    message.map fun m => String.ofList (dropLinePrefix m.toList)

/-- The wording of a parser's failure; its text is its message, if it has one. -/
def Syntax.Fault.describe (f : Fault) : String :=
  match f.description.filter (· != "") with
  | some d => d
  | none => String.ofList (dropLinePrefix f.text.toList)

/-- A tolerated error with its line, or with a question mark when it has no line to read. -/
def toleratedError (v : Value) : Except ParseError String := do
  let line ← ((v.attr? "lineNumber").getD (.str "?")).format
  let words ← v.describe
  return "line " ++ line ++ ": " ++ words

/-- The errors that the parser recorded in a program. -/
def toleratedErrors (program : Node) : Except ParseError (List String) := do
  let errors ← (program.attr "errors").elements.mapError .illTyped
  errors.mapM toleratedError

/-! ### Parsing -/

/-- The failure of a source that a parser refused. -/
def SyntaxFailure.ofFault (path : String) (f : Fault) : SyntaxFailure :=
  ⟨path, f.line, f.describe⟩

/-- Why parsing fails when a parser refused the source.  The text of a failure tells the line, so
    it has to be short enough. -/
def ParseError.ofFault (path : String) (f : Fault) : ParseError :=
  if f.line.all Text.isWritable then .refused (.ofFault path f) else .tooManyDigits

/-- The event of going on to the module grammar. -/
def retryEvent (f : Fault) : Log.Event where
  level := .debug
  name := "parse-retry-module"
  fields := [("line", f.line.elim .null .int), ("description", .str f.describe)]

/-- The event of an error that the parser tolerated. -/
def toleratedEvent (warning : String) : Log.Event where
  level := .warning
  name := "parse-tolerated-error"
  fields := [("detail", .str warning)]

/-- Accepts a program and, if asked for, raises an event for each tolerated error. -/
def acceptProgram (settings : Settings) (grammar : Grammar) (program : Node)
    (calls : List ParserCall) (events : List Log.Event) : ParseRun :=
  match toleratedErrors program with
  | .error e => { result := .error e, calls, events }
  | .ok warnings =>
    { result := .ok { program, grammar, warnings }
      calls
      events := events ++ if settings.verbose then warnings.map toleratedEvent else [] }

/-- Parses a source as a script and, if that fails and the settings allow it, as a
    module.  The event between the two may end the parsing. -/
def parse (parser : Parser) (settings : Settings) (source path : String)
    (sink : Log.Sink := .library) : ParseRun :=
  let options : ParserOptions := { jsx := settings.jsx }
  let scriptCall : ParserCall := ⟨.script, options⟩
  match parser .script options source with
  | .ok program => acceptProgram settings .script program [scriptCall] []
  | .error f =>
    if settings.moduleRetry then
      if sink.takes (retryEvent f) then
        let calls := [scriptCall, ⟨.module, options⟩]
        let events := [retryEvent f]
        match parser .module options source with
        | .ok program => acceptProgram settings .module program calls events
        | .error g => { result := .error (.ofFault path g), calls, events }
      else { result := .error .tooManyDigits, calls := [scriptCall] }
    else { result := .error (.ofFault path f), calls := [scriptCall] }

end SymbolTags
