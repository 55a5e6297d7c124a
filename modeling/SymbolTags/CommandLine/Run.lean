import SymbolTags.CommandLine.Command
import SymbolTags.CommandLine.Stream
import SymbolTags.Config.Render
import SymbolTags.Log.Setup
import SymbolTags.Report.Json
import SymbolTags.Tagging.File

namespace SymbolTags.CommandLine

/-!
# Running commands

`run` carries a command line out in given surroundings and tells everything that it leaves
behind: what it prints, its exit code, the calls of the parser, and the files and logs
afterwards.  Files are tagged one by one, and a broken file does not stop the others.  An error
that is not handled does: what has been printed by then stays.
-/

/-- What a command finds when it starts. -/
structure Surroundings where
  parser : Parser
  files : File.Files := {}
  environment : Fields String := []
  workingDirectory : String := "."
  /-- The time of day. -/
  time : String := Log.beginning
  /-- The codecs for source files. -/
  decoder : Encoding.Decoder := Encoding.decode
  /-- Where results are printed. -/
  stdout : Stream := {}
  /-- Where messages are printed.  This stream takes every text. -/
  stderr : Stream := {}
  /-- How an issue of a configuration is told. -/
  issueText : Issue → String := Issue.text

/-- The variable for the home directory. -/
def homeVariable : String := "HOME"

/-- The home directory; without a variable for it, it is the root. -/
def Surroundings.home (s : Surroundings) : String :=
  (Fields.get? s.environment homeVariable).getD File.rootName

/-- An error that a command does not handle. -/
inductive Escape where
  | undecodable (f : Encoding.Fault)
  | access (path : String) (e : File.AccessError)
  | logging (e : Log.SetupError)
  | illTyped (e : Syntax.IllTyped)
  /-- The path of a file holds a null character. -/
  | nullInPath
  /-- A codec fails in a way of its own. -/
  | codec (message : String)
  | tooManyDigits (count : Nat)
  | notText (e : Lacking)
  | unwritable (e : WriteError)
  /-- A stream cannot encode a text, for the given reason. -/
  | unencodable (message : String)
deriving DecidableEq, Repr, Inhabited

/-- The text of an error that a command does not handle. -/
def Escape.message : Escape → String
  | undecodable f => f.message
  | access path e => e.message path
  | logging e => e.message
  | illTyped e => e.message
  | nullInPath => File.nullMessage
  | codec message => message
  | tooManyDigits count => Toml.digitsMessage count
  | notText e => e.message
  | unwritable e => e.message
  | unencodable message => message

/-- How a command ends. -/
inductive Ending where
  | exit (code : Nat)
  /-- Help is given. -/
  | help
  /-- The command line cannot be read. -/
  | usage
  | escape (e : Escape)
deriving DecidableEq, Repr, Inhabited

/-- What a command leaves behind. -/
structure Outcome where
  ending : Ending
  stdout : String := ""
  stderr : String := ""
  calls : List ParserCall := []
  files : File.Files := {}
  log : Log.State := {}

/-- The exit code for a configuration that is refused. -/
def configExit : Nat := 2

/-- The exit code when a file cannot be read, and when an output file is in the way. -/
def readExit : Nat := 1

/-- The exit code when a file cannot be parsed. -/
def parseExit : Nat := 10

/-- The exit code of a command line that cannot be read. -/
def usageExit : Nat := 2

/-- The exit code of an error that is not handled. -/
def escapeExit : Nat := 1

/-- The exit code of an ending. -/
def Ending.code : Ending → Nat
  | exit code => code
  | help => 0
  | usage => usageExit
  | escape _ => escapeExit

/-- The version of the program. -/
def version : String := "0.1.0"

/-- Logging before it is set up. -/
def Surroundings.unsetLog (s : Surroundings) : Log.State :=
  { files := s.files, directory := s.workingDirectory, time := s.time }

/-- The outcome of a command that changes nothing. -/
def Surroundings.outcome (s : Surroundings) (ending : Ending) (stdout stderr : String := "") :
    Outcome :=
  { ending, stdout, stderr, files := s.files, log := s.unsetLog }

/-- What is shown of a message that is printed in colours. -/
def Surroundings.told (s : Surroundings) (codes : List Nat) (message : String) : String :=
  s.stderr.shown (line (painted codes message))

/-- The outcome of a command that prints a result and ends. -/
def Surroundings.printing (s : Surroundings) (text : String) : Outcome :=
  match s.stdout.refusal? text with
  | some message => s.outcome (.escape (.unencodable message))
  | none => s.outcome (.exit 0) (s.stdout.shown text)

/-- The effective configuration of a command. -/
def Surroundings.config (s : Surroundings) (explicit : Option String) (flags : Fields Data) :
    Except ConfigFailure Config :=
  resolveConfig s.files { explicit, workingDirectory := s.workingDirectory }
    (s.environment.map fun p => (p.1, .str p.2)) (some flags)

/-- The outcome of a command that has no configuration. -/
def Surroundings.withoutConfig (s : Surroundings) : ConfigFailure → Outcome
  | .refused e =>
    s.outcome (.exit configExit) ""
      (s.told [red] ("Configuration error: " ++ e.message s.issueText))
  | .undecodable f => s.outcome (.escape (.undecodable f))
  | .nullInPath => s.outcome (.escape .nullInPath)
  | .inaccessible path e => s.outcome (.escape (.access path e))
  | .tooManyDigits count => s.outcome (.escape (.tooManyDigits count))
  | .notText e => s.outcome (.escape (.notText e))

/-! ### Tagging files -/

/-- How a file fails. -/
inductive FileFailure where
  | read
  | parse
  /-- The error ends the command. -/
  | escape (e : Escape)
deriving DecidableEq, Repr, Inhabited

/-- What tagging one file prints and records. -/
structure FileOutcome where
  stdout : String := ""
  stderr : String := ""
  calls : List ParserCall := []
  /-- Events with the fields that their context adds. -/
  events : List (Fields Data × Log.Event) := []
  failure : Option FileFailure := none

/-- A tag in a format, on a line of its own. -/
def Format.line (f : Format) (t : Tag) : String :=
  match f with
  | text => CommandLine.line t.render
  | json => CommandLine.line t.json

/-- Why a tag cannot be written in a format. -/
def Format.fault? (f : Format) (t : Tag) : Option WriteError :=
  match f with
  | text => t.renderFault?
  | json => t.jsonFault?

/-- Why a tag is not printed on a stream in a format: it cannot be written, or the stream cannot
    encode its line. -/
def Format.refusal? (f : Format) (out : Stream) (t : Tag) : Option Escape :=
  ((f.fault? t).map .unwritable).or ((out.refusal? (f.line t)).map .unencodable)

/-- What a stream shows of the tags of a report, up to the first one that is not printed. -/
def Format.lines (f : Format) (out : Stream) (r : Report) : String :=
  String.join ((r.tags.takeWhile fun t => (f.refusal? out t).isNone).map fun t =>
    out.shown (f.line t))

/-- The warnings of a report, each with the path of its file. -/
def Surroundings.warningLines (s : Surroundings) (path : String) (r : Report) : String :=
  String.join (r.warnings.map fun w => s.told [yellow] (path ++ ": " ++ w))

/-- The event of a file without any source text. -/
def skippedEvent (path : String) : Log.Event where
  level := .info
  name := "empty-source-skipped"
  fields := [("path", .str path)]

/-- What becomes of an error of a file; a source without text is no failure. -/
def FileFailure.ofError? : TagError → Option FileFailure
  | .unreadable _ _ => some .read
  | .syntaxFailure _ => some .parse
  | .emptySource | .emptyPath => none
  | .nullInPath => some (.escape .nullInPath)
  | .codec message => some (.escape (.codec message))
  | .illTyped e => some (.escape (.illTyped e))
  | .tooManyDigits => some (.escape (.unwritable .tooManyDigits))

/-- The error that ends a command. -/
def FileFailure.escape? : FileFailure → Option Escape
  | escape e => some e
  | _ => none

/-- The looks of the message about a file that cannot be tagged. -/
def FileFailure.codes : FileFailure → List Nat
  | parse => [red, bold]
  | _ => [red]

/-- Tags one of some files. -/
def tagOne (s : Surroundings) (settings : Settings) (options : TagOptions) (sink : Log.Sink)
    (files : File.Files) (file : String) : FileOutcome :=
  let path := File.display file
  let run := tagFile s.parser files settings path options.offsets s.decoder sink
  let events := run.events.map fun e => ([("path", Data.str path)], e)
  match run.result with
  | .ok r =>
    let stdout := options.format.lines s.stdout r
    match r.tags.findSome? (options.format.refusal? s.stdout) with
    | some e => { stdout, calls := run.calls, events, failure := some (.escape e) }
    | none =>
      { stdout
        stderr := if settings.verbose then s.warningLines path r else ""
        calls := run.calls
        events }
  | .error e =>
    match FileFailure.ofError? e with
    | none => { calls := run.calls, events := events ++ [([], skippedEvent path)] }
    | some (.escape x) => { calls := run.calls, events, failure := some (.escape x) }
    | some failure =>
      { stderr := s.told failure.codes e.message
        calls := run.calls
        events
        failure := some failure }

/-- The error with which a file ends the command. -/
def FileOutcome.escape? (f : FileOutcome) : Option Escape :=
  f.failure.bind FileFailure.escape?

/-- The fields that the command `tag` binds to its events. -/
def tagBound : Fields Data := [("command", .str "tag")]

/-- Logs the events of the command `tag`, each in its context. -/
def logEvents (log : Log.State) (events : List (Fields Data × Log.Event)) : Log.State :=
  events.foldl (fun log p => log.record tagBound p.1 p.2) log

/-- Tags files one by one, up to and with the first one that ends the command.  What has been
    logged may lie in the next file. -/
def tagFiles (s : Surroundings) (settings : Settings) (options : TagOptions) :
    Log.State → List String → List FileOutcome × Log.State
  | log, [] => ([], log)
  | log, file :: rest =>
    let f := tagOne s settings options log.sink log.currentFiles file
    let log := logEvents log f.events
    if f.escape?.isSome then ([f], log)
    else
      let (fs, log) := tagFiles s settings options log rest
      (f :: fs, log)

/-- How many files fail in a way. -/
def failures (kind : FileFailure) (fs : List FileOutcome) : Nat :=
  fs.countP fun f => f.failure == some kind

/-- The event at the end of the command `tag`. -/
def completeEvent (fs : List FileOutcome) : Log.Event where
  level := .debug
  name := "tag-complete"
  fields :=
    [("files", .int fs.length), ("read_failures", .int (failures .read fs)),
     ("parse_failures", .int (failures .parse fs))]

/-- The exit code of the command `tag`: a file that cannot be read weighs more than one that
    cannot be parsed. -/
def tagExit (fs : List FileOutcome) : Nat :=
  if failures .read fs ≠ 0 then readExit
  else if failures .parse fs ≠ 0 then parseExit
  else 0

/-- Carries out the command `tag`. -/
def runTag (s : Surroundings) (options : TagOptions) (files : List String) : Outcome :=
  match s.config options.config (flagLayer options.flags) with
  | .error e => s.withoutConfig e
  | .ok config =>
    match s.unsetLog.configure config.logLevel options.logFile s.home with
    | (.error e, _) => s.outcome (.escape (.logging e))
    | (.ok (), log) =>
      let (fs, log) := tagFiles s config.settings options log files
      let escape? := fs.findSome? FileOutcome.escape?
      let log := if escape?.isSome then log else logEvents log [([], completeEvent fs)]
      { ending := escape?.elim (.exit (tagExit fs)) .escape
        stdout := String.join (fs.map (·.stdout))
        stderr := String.join (fs.map (·.stderr))
        calls := fs.flatMap (·.calls)
        files := log.currentFiles
        log }

/-! ### Other commands -/

/-- The bytes of a text in UTF-8. -/
def utf8Bytes (s : String) : List UInt8 :=
  s.toUTF8.toList

/-- Carries out the command `config`. -/
def runConfig (s : Surroundings) (options : ConfigOptions) : Outcome :=
  match s.config options.config [] with
  | .error e => s.withoutConfig e
  | .ok config =>
    match options.output with
    | none => s.printing config.render
    | some output =>
      let path := File.display output
      match s.files.find path with
      | .error e => s.outcome (.escape (.access path e))
      | .ok found =>
        if found.isSome && !options.force then
          s.outcome (.exit readExit) ""
            (s.told [red] (path ++ " already exists; pass --force to overwrite."))
        else
          match s.files.write path (utf8Bytes config.render) with
          | .error e => s.outcome (.escape (.access path e))
          | .ok files =>
            { s with files }.printing (line (painted [green] ("Wrote " ++ path)))

/-- Carries out a command. -/
def runCommand (s : Surroundings) : Command → Outcome
  | .tag options files => runTag s options files
  | .config options => runConfig s options
  | .version => s.printing (line version)
  | .help => s.outcome .help

/-- Carries out a command line. -/
def run (s : Surroundings) (args : List String) : Outcome :=
  match Command.read args with
  | some command => runCommand s command
  | none => s.outcome .usage

end SymbolTags.CommandLine
