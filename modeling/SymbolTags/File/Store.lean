import SymbolTags.File.Path
import SymbolTags.Text.Quoted

namespace SymbolTags.File

/-!
# File systems

`Files` is what is known to lie below a working directory and elsewhere.  Paths are followed
component by component, so every component but the last has to be a directory:

* `Files.read` gives the bytes of a file, `Files.write` stores bytes;
* `Files.makeParents` creates the directory of a path and what is missing above it;
* an `AccessError` tells why a path cannot be used, and an `Obstacle` where a directory cannot
  be made.
-/

/-- What a path can lead to. -/
inductive Stored where
  | file (bytes : List UInt8)
  | directory
deriving DecidableEq, Repr, Inhabited

/-- Everything that is known to be there, each entry at its place; the directories above an
    entry need no entries of their own. -/
structure Files where
  entries : List (List String × Stored) := []
deriving DecidableEq, Repr, Inhabited

/-- Why a path cannot be used. -/
inductive AccessError where
  | missing
  | fileExists
  | notDirectory
  | isDirectory
  | nameTooLong
deriving DecidableEq, Repr, Inhabited

namespace AccessError

/-- The number of the error in the operating system. -/
def number : AccessError → Nat
  | missing => 2
  | fileExists => 17
  | notDirectory => 20
  | isDirectory => 21
  | nameTooLong => 36

/-- The words for the error. -/
def reason : AccessError → String
  | missing => "No such file or directory"
  | fileExists => "File exists"
  | notDirectory => "Not a directory"
  | isDirectory => "Is a directory"
  | nameTooLong => "File name too long"

/-- The full text of the error for a path. -/
def message (e : AccessError) (path : String) : String :=
  "[Errno " ++ toString e.number ++ "] " ++ e.reason ++ ": " ++ Text.quoted path

end AccessError

namespace Files

/-- A place that is always there: the root, the working directory or a directory above it. -/
def alwaysThere (place : List String) : Bool :=
  place == [rootName] || place.all (· == "..")

/-- What is stored at a place. -/
def stored? (fs : Files) (place : List String) : Option Stored :=
  match fs.entries.find? fun e => e.1 == place with
  | some e => some e.2
  | none =>
    if alwaysThere place || fs.entries.any (fun e => place.isPrefixOf e.1) then some .directory
    else none

/-- The place is a directory, or why it is not. -/
def checkDirectory (fs : Files) (place : List String) : Except AccessError Unit :=
  match fs.stored? place with
  | some .directory => .ok ()
  | some (.file _) => .error .notDirectory
  | none => .error .missing

/-- A component is short enough, or why it cannot be followed. -/
def checkName (name : String) : Except AccessError Unit :=
  if name.utf8ByteSize ≤ longestName then .ok () else .error .nameTooLong

/-- Follows components from a place on; two dots lead to the directory above. -/
def follow (fs : Files) : List String → List String → Except AccessError (List String)
  | place, [] => .ok place
  | place, c :: rest => do
    fs.checkDirectory place
    checkName c
    if c = ".." then follow fs (placeAbove place) rest else follow fs (place ++ [c]) rest

/-- The place that a path leads to, whether or not something is stored there. -/
def resolve (fs : Files) (path : String) : Except AccessError (List String) :=
  if (display path).utf8ByteSize ≤ longestPath then fs.follow (startOf path) (components path)
  else .error .nameTooLong

/-- The bytes of a file. -/
def read (fs : Files) (path : String) : Except AccessError (List UInt8) := do
  let place ← fs.resolve path
  match fs.stored? place with
  | none => .error .missing
  | some .directory => .error .isDirectory
  | some (.file bytes) => .ok bytes

/-- What a path leads to, if it leads to anything. -/
def find (fs : Files) (path : String) : Except AccessError (Option Stored) :=
  match fs.resolve path with
  | .ok place => .ok (fs.stored? place)
  | .error .missing | .error .notDirectory => .ok none
  | .error e => .error e

/-- Stores something at a place. -/
def put (fs : Files) (place : List String) (s : Stored) : Files :=
  ⟨(place, s) :: fs.entries.filter fun e => e.1 != place⟩

/-- Stores bytes at a path, replacing the file that is there. -/
def write (fs : Files) (path : String) (bytes : List UInt8) : Except AccessError Files := do
  let place ← fs.resolve path
  match fs.stored? place with
  | some .directory => .error .isDirectory
  | _ => .ok (fs.put place (.file bytes))

/-- A place that cannot be made a directory. -/
structure Obstacle where
  place : List String
  error : AccessError
deriving DecidableEq, Repr, Inhabited

/-- Creates directories from a place down.  As long as nothing had to be created, an obstacle
    is met on the way to the lowest one, whose place is then told. -/
def makeBelow (fs : Files) (created : Bool) : List String → List String → Except Obstacle Files
  | _, [] => .ok fs
  | place, c :: rest =>
    let next := place ++ [c]
    let met := if created then next else next ++ rest
    if c.utf8ByteSize > longestName then .error ⟨met, .nameTooLong⟩
    else
      match fs.stored? next with
      | some .directory => makeBelow fs created next rest
      | some (.file _) => .error ⟨met, if rest.isEmpty then .fileExists else .notDirectory⟩
      | none => makeBelow (fs.put next .directory) true next rest

/-- Creates the directory in which a path lies, and all directories above it. -/
def makeParents (fs : Files) (path : String) : Except Obstacle Files :=
  fs.makeBelow false [] (placeOf path).dropLast

end Files

end SymbolTags.File
