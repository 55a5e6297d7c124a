import SymbolTags.Config.Issue
import SymbolTags.Log.LevelName

namespace SymbolTags

/-!
# Checked configurations

A `Config` is made from a table of plain values:

* `Settings.ofTable` checks every field and reports all issues, `Config.ofTable` does so
  for a whole configuration;
* unknown names are passed over and missing ones take their defaults;
* texts are trimmed of white space, names of levels are stored in upper case and names of
  encodings in lower case.
-/

/-- A checked configuration. -/
structure Config where
  logLevel : String := "WARNING"
  settings : Settings := {}
deriving DecidableEq, Repr, Inhabited

/-- The location of the settings inside a configuration. -/
def settingsName : String := "tagger"

/-- The location of the level inside a configuration. -/
def levelName : String := "log_level"

/-! ### Single values -/

/-- Words for true. -/
def trueWords : List String := ["1", "on", "t", "true", "y", "yes"]

/-- Words for false. -/
def falseWords : List String := ["0", "off", "f", "false", "n", "no"]

/-- The numbers from this one on, and those below its negative, are too large to be looked
    at. -/
def numberBound : Int := Int.pow 2 63

/-- A truth value given as a number; what other numbers are is told by `other`. -/
def boolOfNumber (n : Int) (other : IssueKind) : Except IssueKind Bool :=
  if n = 0 then .ok false else if n = 1 then .ok true else .error other

/-- A truth value, also given as 0, 1 or a word in any letter case. -/
def checkBool : Data → Except IssueKind Bool
  | .bool b => .ok b
  | .int n =>
    boolOfNumber n (if -numberBound ≤ n ∧ n < numberBound then .boolParsing else .boolType)
  | .decimal d =>
    match d.integer? with
    | some n =>
      boolOfNumber n (if -numberBound < n ∧ n < numberBound then .boolParsing else .boolType)
    | none => .error .boolType
  | .str s =>
    let word := String.ofList (s.toList.map Char.toLower)
    if word ∈ trueWords then .ok true
    else if word ∈ falseWords then .ok false
    else .error .boolParsing
  | _ => .error .boolType

/-- A trimmed text that passes a check. -/
def checkText (check : String → Except String String) : Data → Except IssueKind String
  | .str s => (check (Text.trimSpace s)).mapError .valueError
  | _ => .error .stringType

/-- The name of an encoding: not blank, stored in lower case. -/
def checkEncoding : Data → Except IssueKind String :=
  checkText fun s => if s = "" then .error "Encoding cannot be blank." else .ok (Text.lower s)

/-- The name of a level, stored in upper case. -/
def checkLogLevel : Data → Except IssueKind String :=
  checkText fun s =>
    match Log.readLevel s with
    | .ok _ => .ok (Text.upper s)
    | .error e => .error e.message

/-! ### Tables -/

/-- The checked value of a name, or its default when the table has no such name. -/
def checkField {α : Type} (loc : List String) (table : Fields Data) (name : String) (default : α)
    (check : Data → Except IssueKind α) : Except (List Issue) α :=
  match Fields.get? table name with
  | none => .ok default
  | some d => (check d).mapError fun kind => [⟨loc ++ [name], kind, d⟩]

/-- The issues of an outcome. -/
def issuesOf {α : Type} : Except (List Issue) α → List Issue
  | .ok _ => []
  | .error issues => issues

/-- Checks a table of settings whose location is given. -/
def Settings.ofTable (loc : List String) (table : Fields Data) : Except (List Issue) Settings :=
  let standard : Settings := {}
  let verbose := checkField loc table "verbose" standard.verbose checkBool
  let requirePolicy := checkField loc table "require_policy" standard.requirePolicy checkBool
  let moduleRetry := checkField loc table "module_retry" standard.moduleRetry checkBool
  let jsx := checkField loc table "jsx" standard.jsx checkBool
  let stripShebang := checkField loc table "strip_shebang" standard.stripShebang checkBool
  let encoding := checkField loc table "encoding" standard.encoding checkEncoding
  match verbose, requirePolicy, moduleRetry, jsx, stripShebang, encoding with
  | .ok verbose, .ok requirePolicy, .ok moduleRetry, .ok jsx, .ok stripShebang, .ok encoding =>
    .ok { verbose, requirePolicy, moduleRetry, jsx, stripShebang, encoding }
  | _, _, _, _, _, _ =>
    .error (issuesOf verbose ++ issuesOf requirePolicy ++ issuesOf moduleRetry ++ issuesOf jsx ++
      issuesOf stripShebang ++ issuesOf encoding)

/-- Checks a value that has to be a table of settings.  Settings that have been made already
    are taken as they are, whatever they hold. -/
def checkSettings : Data → Except (List Issue) Settings
  | .table entries => Settings.ofTable [settingsName] entries
  | .settings s => .ok s
  | d => .error [⟨[settingsName], .modelType, d⟩]

/-- Checks a table that describes a configuration; null settings stand for the defaults. -/
def Config.ofTable (table : Fields Data) : Except (List Issue) Config :=
  let standard : Config := {}
  let logLevel := checkField [] table levelName standard.logLevel checkLogLevel
  let settings : Except (List Issue) Settings :=
    match Fields.get? table settingsName with
    | none | some .null => .ok standard.settings
    | some d => checkSettings d
  match logLevel, settings with
  | .ok logLevel, .ok settings => .ok { logLevel, settings }
  | _, _ => .error (issuesOf logLevel ++ issuesOf settings)

end SymbolTags
