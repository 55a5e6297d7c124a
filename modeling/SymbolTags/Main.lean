import Std.Time.Format
import SymbolTags.CommandLine.Run

namespace SymbolTags.CommandLine

/-!
# The program

The outer layer takes a snapshot of the files that the command line can lead to, carries
the command out on it, and then prints and writes what the command leaves behind.  A parser
is given to the library from outside; the program itself has none and refuses every source.
-/

/-- Stands in for a parser: it accepts no source. -/
def noParser : Parser := fun _ _ _ => .error { message := some "no parser available" }

/-- A path and all paths above it, the topmost first. -/
def pathsAbove (path : String) : List String :=
  let parts := File.components path
  let root := File.leadingSlashes path
  (List.range parts.length).map fun k => root ++ "/".intercalate (parts.take (k + 1))

/-- The paths that a command line can lead to, given the home directory. -/
def candidatePaths (home : String) (args : List String) : List String :=
  let named := args.flatMap fun a => a :: (splitOption a).2.toList
  (userConfigName :: named ++ named.filterMap (File.expandHome home)).flatMap pathsAbove

/-- A path leads to a directory. -/
def isDirectoryAt (path : String) : IO Bool := do
  let .ok resolved ← (IO.FS.realPath path).toBaseIO | return false
  resolved.isDir

/-- Adds what lies at a path to a snapshot. -/
def snapshotAt (fs : File.Files) (path : String) : IO File.Files := do
  let place := File.placeOf path
  if ← isDirectoryAt path then return fs.put place .directory
  let .ok bytes ← (IO.FS.readBinFile path).toBaseIO | return fs
  return fs.put place (.file bytes.toList)

/-- The environment variables that bear on a command. -/
def readEnvironment : IO (Fields String) := do
  let found ← [levelVariable, verboseVariable, homeVariable].mapM fun name => do
    return (← IO.getEnv name).map fun value => (name, value)
  return found.filterMap id

/-- The time of day. -/
def readClock : IO String := do
  let now ← Std.Time.Timestamp.now
  return (Std.Time.DateTime.ofTimestamp now Std.Time.TimeZone.ZoneRules.UTC).format
    "uuuu-MM-dd'T'HH:mm:ss.SSSSSS'Z'"

/-- How the program is called. -/
def usageText : String := "Usage: jstags (tag [OPTIONS] FILE... | config [OPTIONS] | version)\n"

/-- What is told about an ending that has not been told yet. -/
def Ending.note : Ending → String
  | exit _ => ""
  | help => usageText
  | usage => usageText
  | escape e => e.message ++ "\n"

/-- Writes the file that the command `config` was asked for. -/
def writeOutput (path : String) (outcome : Outcome) : IO Unit := do
  if outcome.ending == .exit 0 then
    if let .ok bytes := outcome.files.read path then
      IO.FS.writeBinFile path ⟨bytes.toArray⟩

/-- Adds the rows that the command `tag` has logged to its log file. -/
def writeLog (home path : String) (outcome : Outcome) : IO Unit := do
  let path := (File.expandHome home path).getD path
  if let some rows := (outcome.log.journal path).live then
    if let some directory := (pathsAbove path).dropLast.getLast? then
      IO.FS.createDirAll directory
    let file ← IO.FS.Handle.mk path .append
    file.putStr (String.join (rows.map fun row => row.line outcome.log.time))

/-- Carries out a command line in the surroundings of the process. -/
def execute (args : List String) : IO UInt32 := do
  let directory ← IO.currentDir
  let surroundings : Surroundings :=
    { parser := noParser
      environment := ← readEnvironment
      workingDirectory := directory.toString
      time := ← readClock }
  let home := surroundings.home
  let files ← (candidatePaths home args).foldlM snapshotAt ({} : File.Files)
  let outcome := run { surroundings with files } args
  IO.print outcome.stdout
  IO.eprint (outcome.stderr ++ outcome.ending.note)
  match Command.read args with
  | some (.config { output := some path, .. }) => writeOutput path outcome
  | some (.tag { logFile := some path, .. } _) => writeLog home path outcome
  | _ => pure ()
  return outcome.ending.code.toUInt32

end SymbolTags.CommandLine

/-- Runs the program. -/
def main (args : List String) : IO UInt32 :=
  SymbolTags.CommandLine.execute args
