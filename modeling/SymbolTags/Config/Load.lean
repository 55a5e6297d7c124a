import SymbolTags.Config.Check
import SymbolTags.Config.Merge
import SymbolTags.Config.Packaged
import SymbolTags.Encoding.Utf8
import SymbolTags.File.Store
import SymbolTags.Toml.Document

namespace SymbolTags

/-!
# Loading the configuration

A configuration is put together from four layers: defaults, the user's file, environment
variables and the flags of the command line, each written over those before it:

* `loadConfig` merges layers and checks the result;
* `readUserConfig` reads a file, `environmentLayer` and `flagLayer` make the other layers;
* `resolveConfig` finds the user's file and loads everything.
-/

/-- Why a configuration is refused. -/
inductive ConfigError where
  | unreadable (path : String) (e : File.AccessError)
  | invalidToml (path : String)
  | invalidFlag (name value : String)
  | invalid (issues : List Issue)
deriving BEq, Repr, Inhabited

/-- The text of an error, in which every issue is told on lines of its own. -/
def ConfigError.message (detail : Issue → String) : ConfigError → String
  | unreadable path e => "Cannot read config file " ++ path ++ ": " ++ e.message path
  | invalidToml path => "Invalid TOML in " ++ path
  | invalidFlag name value => name ++ " must be a boolean flag, got " ++ Text.quoted value
  | invalid issues =>
    "\n".intercalate
      ((toString issues.length ++ " validation error" ++
        (if issues.length = 1 then "" else "s") ++ " for AppConfig") :: issues.map detail)

/-- Why there is no configuration: it is refused, or something stops the reading of its
    file. -/
inductive ConfigFailure where
  | refused (e : ConfigError)
  /-- The file is no text. -/
  | undecodable (f : Encoding.Fault)
  /-- The path of the file holds a null character. -/
  | nullInPath
  /-- The path of the file cannot even be looked at. -/
  | inaccessible (path : String) (e : File.AccessError)
  /-- The file holds an integer with this number of digits, which are too many. -/
  | tooManyDigits (count : Nat)
  /-- A variable of the environment is no text. -/
  | notText (e : Lacking)
deriving BEq, Repr, Inhabited

/-! ### Layers -/

/-- The layers of a configuration; a missing layer changes nothing, and missing defaults
    stand for the packaged ones. -/
structure Layers where
  defaults : Option (Fields Data) := none
  user : Option (Fields Data) := none
  environment : Option (Fields Data) := none
  flags : Option (Fields Data) := none

/-- The table in which every layer is written over those before it. -/
def Layers.merged (l : Layers) : Fields Data :=
  [l.user, l.environment, l.flags].foldl (fun lower upper => mergeTables lower (upper.getD []))
    (l.defaults.getD Packaged.defaults)

/-- The configuration that the layers describe. -/
def loadConfig (l : Layers) : Except ConfigError Config :=
  (Config.ofTable l.merged).mapError .invalid

/-! ### Environment variables -/

/-- The variable for the level. -/
def levelVariable : String := "JSTAGS_LOG_LEVEL"

/-- The variable for the switch `verbose`. -/
def verboseVariable : String := "JSTAGS_VERBOSE"

/-- Reads a flag off the text of a variable. -/
def readFlag (name value : String) : Except ConfigError Bool :=
  let word := Text.lower (Text.trimBlank value)
  if word ∈ ["1", "true", "yes", "on"] then .ok true
  else if word ∈ ["0", "false", "no", "off", ""] then .ok false
  else .error (.invalidFlag name value)

/-- The level that a layer gives; one that is not set leaves no trace. -/
def levelEntry (level : Data) : Fields Data :=
  if level.isTruthy then [(levelName, level)] else []

/-- The layer that environment variables make.  A null stands for a variable that is not
    set. -/
def environmentLayer (environment : Fields Data) : Except ConfigFailure (Fields Data) := do
  let level := levelEntry ((Fields.get? environment levelVariable).getD .null)
  match (Fields.get? environment verboseVariable).getD .null with
  | .null => return level
  | v =>
    let word ← (v.textFor "strip").mapError .notText
    let b ← (readFlag verboseVariable word).mapError .refused
    return level ++ [(settingsName, .table [("verbose", .bool b)])]

/-! ### Flags -/

/-- The flags of the command line that bear on the configuration.  They are checked with the
    whole configuration, and null stands for one that is not set. -/
structure Flags where
  logLevel : Data := .null
  verbose : Data := .null
  requirePolicy : Data := .null
  jsx : Data := .null
deriving BEq, Repr, Inhabited

/-- The layer that flags make; flags that are not set leave no trace. -/
def flagLayer (f : Flags) : Fields Data :=
  let switches : Fields Data :=
    [("verbose", f.verbose), ("require_policy", f.requirePolicy), ("jsx", f.jsx)].filter
      fun p => !p.2.isNull
  levelEntry f.logLevel ++ if switches.isEmpty then [] else [(settingsName, .table switches)]

/-! ### Files -/

/-- The name of the user's file. -/
def userConfigName : String := "jstags.toml"

/-- Carriage returns, with or without a line feed, count as line breaks. -/
def unifyBreaks : List Char → List Char
  | '\r' :: '\n' :: rest => '\n' :: unifyBreaks rest
  | '\r' :: rest => '\n' :: unifyBreaks rest
  | c :: rest => c :: unifyBreaks rest
  | [] => []

/-- Why a document that is shown under a path makes no configuration. -/
def ConfigFailure.ofProblem (shown : String) : Toml.Problem → ConfigFailure
  | .malformed => .refused (.invalidToml shown)
  | .tooManyDigits count => .tooManyDigits count

/-- Reads a configuration file that is shown under a path. -/
def readConfigBytes (shown : String) (bytes : List UInt8) :
    Except ConfigFailure (Fields Data) := do
  let cs ← (Encoding.decodeUtf8 bytes).mapError .undecodable
  (Toml.read (String.ofList (unifyBreaks cs))).mapError (.ofProblem shown)

/-- Reads a configuration file. -/
def readUserConfig (fs : File.Files) (path : String) : Except ConfigFailure (Fields Data) := do
  if File.hasNull path then throw .nullInPath
  let bytes ← (fs.read path).mapError fun e => .refused (.unreadable (File.display path) e)
  readConfigBytes (File.display path) bytes

/-- Where a configuration is looked for. -/
structure Lookout where
  /-- A file that has to exist. -/
  explicit : Option String := none
  /-- The directory that is searched instead of the working directory. -/
  directory : Option String := none
  /-- The full name of the working directory. -/
  workingDirectory : String := "."

/-- Reads the user's file: the explicit one, or the one in the searched directory if it is
    there. -/
def findUserConfig (fs : File.Files) (l : Lookout) :
    Except ConfigFailure (Option (Fields Data)) :=
  match l.explicit with
  | some path => some <$> readUserConfig fs path
  | none =>
    let directory := l.directory.getD "."
    let path := File.join directory userConfigName
    let shown := File.join (l.directory.getD l.workingDirectory) userConfigName
    if File.hasNull path then .ok none
    else
      match fs.find path with
      | .ok (some (.file bytes)) => some <$> readConfigBytes shown bytes
      | .ok _ => .ok none
      | .error e => .error (.inaccessible shown e)

/-- The effective configuration. -/
def resolveConfig (fs : File.Files) (l : Lookout) (environment : Fields Data)
    (flags : Option (Fields Data)) : Except ConfigFailure Config := do
  let user ← findUserConfig fs l
  let environment ← environmentLayer environment
  (loadConfig { user, environment := some environment, flags }).mapError .refused

end SymbolTags
