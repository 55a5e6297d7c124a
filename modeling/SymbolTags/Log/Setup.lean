import SymbolTags.File.Store
import SymbolTags.Log.JsonLine
import SymbolTags.Log.LevelName

namespace SymbolTags.Log

/-!
# Logging set up

A `State` holds what decides where events go: whether logging has been set up, the level of
the root, the handlers in place, and what the log files hold:

* `State.configure` sets logging up.  A level that cannot be read changes nothing;
* `State.record` sends an event to the handlers, and `State.recordMessage` a message that comes
  from elsewhere;
* `State.rollOver` archives the live rows of a log file;
* `State.currentFiles` are the files with what has been logged.

Before logging is set up, events are written as lines by `linesOf` and reach no handler.
-/

/-- A log file: the rows that are being written, and those that have been archived.  There is
    one archive a day, so a later one replaces it. -/
structure Journal where
  live : Option (List LogRow) := none
  archived : Option (List LogRow) := none

/-- The time of an untold clock. -/
def beginning : String := "1970-01-01T00:00:00.000000Z"

/-- A destination of events, with the least level that it takes. -/
inductive Handler where
  | console (level : Level)
  | file (path : String) (level : Level)
deriving DecidableEq, Repr, Inhabited

/-- Everything that decides what becomes of an event. -/
structure State where
  /-- Logging has been set up. -/
  structured : Bool := false
  /-- The level of the root. -/
  level : Level := .warning
  handlers : List Handler := []
  files : File.Files := {}
  /-- The full name of the working directory. -/
  directory : String := "."
  /-- The time at which rows are written. -/
  time : String := beginning
  /-- The log files, by their settled paths. -/
  journals : Fields Journal := []

/-- Why logging cannot be set up. -/
inductive SetupError where
  | unsupportedLevel (e : UnsupportedLevel)
  | noDirectory (path : String) (e : File.AccessError)
  /-- The log file lies in a home directory that is not known. -/
  | noHome
deriving DecidableEq, Repr, Inhabited

/-- The text of an error. -/
def SetupError.message : SetupError → String
  | unsupportedLevel e => e.message
  | noDirectory path e => e.message path
  | noHome => "Could not determine home directory."

namespace State

/-- Sets logging up at a level, with a log file if one is named, which may lie in the home
    directory.  The level is read first; the directory of the log file is created before any
    handler is put in place. -/
def configure (s : State) (level : String) (logFile : Option String)
    (home : String := File.rootName) : Except SetupError Unit × State :=
  match readLevel level with
  | .error e => (.error (.unsupportedLevel e), s)
  | .ok l =>
    let s := { s with structured := true }
    match logFile.map (File.expandHome home) with
    | none => (.ok (), { s with level := l, handlers := [.console l] })
    | some none => (.error .noHome, s)
    | some (some path) =>
      match s.files.makeParents path with
      | .error o => (.error (.noDirectory (File.fullName s.directory o.place) o.error), s)
      | .ok files =>
        (.ok (), { s with
          level := l
          handlers := [.console l, .file (File.settled path) l]
          files })

/-- The log file of a path. -/
def journal (s : State) (path : String) : Journal :=
  (Fields.get? s.journals (File.settled path)).getD {}

/-- Adds a row to a log file, which comes into being with its first row.  A row that cannot be
    written is lost, and so is every row where no file can be. -/
def append (s : State) (path : String) (row : LogRow) : State :=
  let j := s.journal path
  if canWrite row && (s.files.write path []).isOk then
    { s with
      journals := Fields.set s.journals (File.settled path)
        { j with live := some (j.live.getD [] ++ [row]) } }
  else s

/-- Sends an event to one handler. -/
def handle (s : State) (e : Event) (row : LogRow) : Handler → State
  | .console _ => s
  | .file path level => if level.passes e.level then s.append path row else s

/-- The sink that is set up: an event comes through to the handlers if it has a level, which
    passes that of the root. -/
def sink (s : State) : Sink where
  admits level := s.structured && level != .notset && s.level.passes level

/-- An event comes through to the handlers. -/
def admits (s : State) (e : Event) : Bool :=
  s.sink.admits e.level

/-- Why an event that comes through cannot be shown on the console. -/
def fault? (s : State) (bound context : Fields Data) (e : Event) : Option CallError :=
  if s.admits e then consoleFault? (e.allFields bound context) else none

/-- Sends an event with its row to the handlers. -/
def send (s : State) (e : Event) (row : LogRow) : State :=
  if s.admits e then s.handlers.foldl (fun s h => s.handle e row h) s else s

/-- Sends an event to the handlers. -/
def record (s : State) (bound context : Fields Data) (e : Event) : State :=
  s.send e (e.record bound context)

/-- Sends a message that comes from elsewhere to the handlers. -/
def recordMessage (s : State) (context : Fields Data) (e : Event) : State :=
  s.send e (e.messageRecord context)

/-- The files with the rows that are being written. -/
def currentFiles (s : State) : File.Files :=
  s.journals.foldl (fun fs p =>
    match p.2.live with
    | none => fs
    | some rows =>
      let earlier := (fs.read p.1).toOption.getD []
      ((fs.write p.1 (earlier ++ rowBytes rows s.time)).toOption).getD fs) s.files

/-- The path of the log file in use. -/
def logFile? (s : State) : Option String :=
  s.handlers.findSome? fun
    | .file path _ => some path
    | .console _ => none

/-- Archives the live rows of the log file; without a live file there is nothing to archive,
    which is told with the full name of the file. -/
def rollOver (s : State) : Except (String × File.AccessError) State :=
  match s.logFile? with
  | none => .ok s
  | some path =>
    match (s.journal path).live with
    | none => .error (File.fullName s.directory (File.placeOf path), .missing)
    | some rows =>
      .ok { s with journals := Fields.set s.journals (File.settled path) ⟨none, some rows⟩ }

end State

end SymbolTags.Log
