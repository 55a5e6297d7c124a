import SymbolTags.Log.Event
import SymbolTags.Text.Blank
import SymbolTags.Text.Case

namespace SymbolTags.Log

/-!
# Names of levels

`readLevel` reads the name of a level in any letter case, with blanks around it, and
`readLevelValue` reads one off a value that should be a text.
-/

/-- A text that names no level. -/
structure UnsupportedLevel where
  text : String
deriving DecidableEq, Repr, Inhabited

/-- The text of the refusal. -/
def UnsupportedLevel.message (e : UnsupportedLevel) : String :=
  "Unsupported log level: " ++ Text.quoted e.text

/-- Reads the name of a level. -/
def readLevel (s : String) : Except UnsupportedLevel Level :=
  match Level.ofTitle? (Text.upper (Text.trimBlank s)) with
  | some l => .ok l
  | none => .error ⟨s⟩

/-- Why a value names no level. -/
inductive LevelError where
  | unsupported (e : UnsupportedLevel)
  | notText (e : Lacking)
deriving DecidableEq, Repr, Inhabited

/-- The text of an error. -/
def LevelError.message : LevelError → String
  | unsupported e => e.message
  | notText e => e.message

/-- Reads a level off a value. -/
def readLevelValue (d : Data) : Except LevelError Level := do
  let s ← (d.textFor "strip").mapError .notText
  (readLevel s).mapError .unsupported

end SymbolTags.Log
