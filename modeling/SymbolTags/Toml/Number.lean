import SymbolTags.Data
import SymbolTags.Toml.Problem
import SymbolTags.Toml.Text

namespace SymbolTags.Toml

/-!
# Numbers in TOML

* integers are decimal, with an optional sign, or in one of three announced bases;
* a decimal integer with a fraction or an exponent behind it is a decimal number, and so are
  the words for infinity and for no number at all;
* single underscores may stand between digits.
-/

/-- Reads digits, between which single underscores may stand. -/
def underscored (digit : Char → Bool) : List Char → List Char × List Char
  | '_' :: c :: rest =>
    if digit c then
      let (ds, tail) := underscored digit rest
      (c :: ds, tail)
    else ([], '_' :: c :: rest)
  | c :: rest =>
    if digit c then
      let (ds, tail) := underscored digit rest
      (c :: ds, tail)
    else ([], c :: rest)
  | [] => ([], [])

/-- Reads digits of which the first may not be an underscore. -/
def digits? (digit : Char → Bool) (cs : List Char) : Option (List Char × List Char) :=
  if cs.head?.any digit then some (underscored digit cs) else none

/-- The number that digits of a base stand for. -/
def numberOf (base : Nat) (ds : List Char) : Nat :=
  ds.foldl (fun n c => n * base + (hexDigit? c).getD 0) 0

/-! ### Announced bases -/

/-- The bases other than ten, by the letter that announces them. -/
def announcedBases : List (Char × Nat) := [('x', 16), ('o', 8), ('b', 2)]

/-- A digit of a base. -/
def isDigitOf (base : Nat) (c : Char) : Bool :=
  (hexDigit? c).any (· < base)

/-- Reads an integer in an announced base. -/
def announced? : List Char → Option (Nat × List Char)
  | '0' :: letter :: rest => do
    let base ← announcedBases.lookup letter
    let (ds, tail) ← digits? (isDigitOf base) rest
    return (numberOf base ds, tail)
  | _ => none

/-! ### Decimal numbers -/

/-- Reads an optional sign and tells whether it is a minus. -/
def sign : List Char → Bool × List Char
  | '+' :: rest => (false, rest)
  | '-' :: rest => (true, rest)
  | cs => (false, cs)

/-- Reads the digits before a point; a leading zero stands alone. -/
def wholeDigits? (cs : List Char) : Option (List Char × List Char) :=
  match cs with
  | '0' :: rest => some (['0'], rest)
  | _ => digits? Char.isDigit cs

/-- Reads a point with digits behind it. -/
def fraction? : List Char → Option (List Char × List Char)
  | '.' :: rest => digits? Char.isDigit rest
  | _ => none

/-- Reads an exponent. -/
def exponent? : List Char → Option (Int × List Char)
  | c :: rest => do
    guard (c = 'e' ∨ c = 'E')
    let (negative, rest) := sign rest
    let (ds, tail) ← digits? Char.isDigit rest
    let n : Int := numberOf 10 ds
    return (if negative then -n else n, tail)
  | [] => none

/-- The integer that digits stand for, unless there are too many of them. -/
def integerOf (negative : Bool) (ds : List Char) : Except Problem Data :=
  if ds.length ≤ Text.mostDigits then
    let n : Int := numberOf 10 ds
    .ok (.int (if negative then -n else n))
  else .error (.tooManyDigits ds.length)

/-- Reads a number that starts with a digit behind its sign. -/
def plainNumber (cs : List Char) : Except Problem (Data × List Char) := do
  let (negative, cs) := sign cs
  let (whole, cs) ← required (wholeDigits? cs)
  match fraction? cs, exponent? cs with
  | some (part, rest), _ =>
    let (exponent, rest) := (exponent? rest).getD (0, rest)
    return (.decimal (.finite negative (numberOf 10 (whole ++ part)) (exponent - part.length)),
      rest)
  | none, some (exponent, rest) =>
    return (.decimal (.finite negative (numberOf 10 whole) exponent), rest)
  | none, none => return (← integerOf negative whole, cs)

/-- Reads a word for a decimal number without digits. -/
def wordNumber? (cs : List Char) : Option (Data × List Char) :=
  let (negative, rest) := sign cs
  let word := rest.take 3
  if word == ['i', 'n', 'f'] then some (.decimal (.infinite negative), rest.drop 3)
  else if word == ['n', 'a', 'n'] then some (.decimal .undefined, rest.drop 3)
  else none

/-- Reads a number. -/
def number (cs : List Char) : Except Problem (Data × List Char) :=
  match announced? cs, wordNumber? cs with
  | some (n, rest), _ => .ok (.int n, rest)
  | none, some p => .ok p
  | none, none => plainNumber cs

end SymbolTags.Toml
