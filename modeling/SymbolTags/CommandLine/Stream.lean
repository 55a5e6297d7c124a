import SymbolTags.Text.Plain

namespace SymbolTags.CommandLine

/-!
# Streams — where commands print

A `Stream` is what a command prints on.  It leads to a terminal or to somewhere else, where
control sequences are of no use and are taken out, and it encodes what it is given in a way that
is up to the surroundings.  Some texts cannot be encoded.

* `painted` puts a text between the control sequences for its colours, and `line` ends it;
* `Stream.shown` is what comes out of a text, and `Stream.refusal?` says why nothing does.
-/

/-- What a command prints on. -/
structure Stream where
  isTerminal : Bool := false
  /-- What comes out of a text. -/
  encoded : String → String := id
  /-- Why a text cannot be encoded, if it cannot. -/
  fault? : String → Option String := fun _ => none

namespace Stream

/-- What is handed to a stream of a text that is printed on it. -/
def given (s : Stream) (text : String) : String :=
  if s.isTerminal then text else Text.plain text

/-- What comes out of a text that is printed. -/
def shown (s : Stream) (text : String) : String :=
  s.encoded (s.given text)

/-- Why a text cannot be printed, if it cannot. -/
def refusal? (s : Stream) (text : String) : Option String :=
  s.fault? (s.given text)

end Stream

/-! ### Colours -/

/-- The code for red. -/
def red : Nat := 31

/-- The code for green. -/
def green : Nat := 32

/-- The code for yellow. -/
def yellow : Nat := 33

/-- The code for bold letters. -/
def bold : Nat := 1

/-- The control sequence of a code. -/
def sequenceOf (code : Nat) : String :=
  "\x1b[" ++ toString code ++ "m"

/-- A text between the control sequences for its looks. -/
def painted (codes : List Nat) (text : String) : String :=
  String.join (codes.map sequenceOf) ++ text ++ sequenceOf 0

/-- A text on a line of its own. -/
def line (text : String) : String :=
  text ++ "\n"

end SymbolTags.CommandLine
