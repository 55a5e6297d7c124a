import SymbolTags.CommandLine.Integer
import SymbolTags.CommandLine.Options
import SymbolTags.Config.Load
import SymbolTags.Tagging.Source

namespace SymbolTags.CommandLine

/-!
# Commands

`Command.read` reads a command line: `tag` with files and options, `config` and `version`.
A command line that cannot be read has no command.  The options of `tag` are collected as
`TagArguments` first, and `TagArguments.options?` then reads their values.  Help may be asked
for anywhere, and comes before the reading of values.
-/

/-- How tags are written. -/
inductive Format where
  | text
  | json
deriving DecidableEq, Repr, Inhabited

/-- Lower case, a long s counting as an s. -/
def foldCase (s : String) : String :=
  Text.lower (String.ofList (s.toList.map fun c => if c = 'ſ' then 's' else c))

/-- Reads a format in any letter case. -/
def Format.read? (s : String) : Option Format :=
  let word := foldCase s
  if word = "text" then some .text else if word = "json" then some .json else none

/-- The options of the command `tag`. -/
structure TagOptions where
  format : Format := .text
  offsets : Offsets := {}
  flags : Flags := {}
  config : Option String := none
  logFile : Option String := none
deriving Repr, Inhabited

/-- The options of the command `config`. -/
structure ConfigOptions where
  config : Option String := none
  output : Option String := none
  force : Bool := false
deriving Repr, Inhabited

/-- What the program is asked to do. -/
inductive Command where
  | tag (options : TagOptions) (files : List String)
  | config (options : ConfigOptions)
  | version
  | help
deriving Repr, Inhabited

/-! ### Options -/

/-- The options of `tag` as they stand on the command line. -/
structure TagArguments where
  format : Option String := none
  lineOffset : Option String := none
  columnOffset : Option String := none
  flags : Flags := {}
  config : Option String := none
  logFile : Option String := none
deriving Repr, Inhabited

/-- Reads the value of an option, or takes its default when it is not given. -/
def readOr {α : Type} (default : α) (read : String → Option α) : Option String → Option α
  | none => some default
  | some s => read s

/-- A path as it stands on the command line; it may not hold a null character. -/
def readPath? (s : String) : Option String :=
  if File.hasNull s then none else some s

/-- The path that an option gives, if it gives one. -/
def readPathOr (path : Option String) : Option (Option String) :=
  path.elim (some none) fun s => (readPath? s).map some

/-- The options that the arguments stand for, if their values can be read. -/
def TagArguments.options? (a : TagArguments) : Option TagOptions := do
  let format ← readOr .text Format.read? a.format
  let line ← readOr 0 readInteger? a.lineOffset
  let column ← readOr 0 readInteger? a.columnOffset
  let config ← readPathOr a.config
  let logFile ← readPathOr a.logFile
  return { format, offsets := ⟨line, column⟩, flags := a.flags, config, logFile }

/-- The options of `config`, if their values can be read. -/
def ConfigOptions.checked? (o : ConfigOptions) : Option ConfigOptions := do
  let config ← readPathOr o.config
  let output ← readPathOr o.output
  return { o with config, output }

/-- The options of `tag`. -/
def tagTable : OptionTable TagArguments :=
  let format : Effect TagArguments := .value fun v a => { a with format := some v }
  let config : Effect TagArguments := .value fun v a => { a with config := some v }
  let logLevel : Effect TagArguments := .value fun v a =>
    { a with flags := { a.flags with logLevel := .str v } }
  let verbose (b : Bool) : Effect TagArguments := .switch fun a =>
    { a with flags := { a.flags with verbose := .bool b } }
  let requirePolicy (b : Bool) : Effect TagArguments := .switch fun a =>
    { a with flags := { a.flags with requirePolicy := .bool b } }
  let jsx (b : Bool) : Effect TagArguments := .switch fun a =>
    { a with flags := { a.flags with jsx := .bool b } }
  [("--format", format), ("-f", format),
   ("--line-offset", .value fun v a => { a with lineOffset := some v }),
   ("--column-offset", .value fun v a => { a with columnOffset := some v }),
   ("--verbose", verbose true), ("--no-verbose", verbose false),
   ("--require-policy", requirePolicy true), ("--no-require-policy", requirePolicy false),
   ("--jsx", jsx true), ("--no-jsx", jsx false),
   ("--config", config), ("-c", config),
   ("--log-level", logLevel), ("-l", logLevel),
   ("--log-file", .value fun v a => { a with logFile := some v })]

/-- The options of `config`. -/
def configTable : OptionTable ConfigOptions :=
  let config : Effect ConfigOptions := .value fun v o => { o with config := some v }
  let output : Effect ConfigOptions := .value fun v o => { o with output := some v }
  [("--config", config), ("-c", config), ("--output", output), ("-o", output),
   ("--force", .switch fun o => { o with force := true })]

/-! ### Commands -/

/-- Reads the arguments of a command: help comes first, and then the command is made of what
    was collected. -/
def Command.readWith {σ : Type} (table : OptionTable σ) (start : σ) (args : List String)
    (make : σ → List String → Option Command) : Option Command :=
  (readArguments table args start).bind fun c =>
    if c.help then some .help else make c.values c.plain

/-- Reads the name of a command and its arguments. -/
def Command.readNamed : List String → Option Command
  | "tag" :: args =>
    readWith tagTable {} args fun a files => do
      guard (!files.isEmpty)
      let options ← a.options?
      return .tag options (← files.mapM readPath?)
  | "config" :: args =>
    readWith configTable {} args fun options files => do
      guard files.isEmpty
      return .config (← options.checked?)
  | "version" :: args =>
    readWith ([] : OptionTable Unit) () args fun _ files => do
      guard files.isEmpty
      return .version
  | _ => none

/-- Reads what stands before the name of a command: whether help is asked for there, and the
    arguments from the name on.  Two hyphens may stand in front of the name. -/
def readLeading : List String → Option (Bool × List String)
  | [] => some (false, [])
  | arg :: rest =>
    if arg = "--" then some (false, rest)
    else if arg = helpOption then (readLeading rest).map fun p => (true, p.2)
    else if isOption arg then none
    else some (false, arg :: rest)

/-- Help is asked for in front of a command. -/
def asksForHelp (args : List String) : Bool :=
  (readLeading args).any (·.1)

/-- Reads a command line.  Where an option stands in the place of a name, it may still ask for
    help. -/
def Command.read (args : List String) : Option Command :=
  match readLeading args with
  | none => none
  | some (true, _) => some .help
  | some (false, rest) => readNamed rest <|> if asksForHelp rest then some .help else none

end SymbolTags.CommandLine
