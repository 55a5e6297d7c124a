import SymbolTags.Text.Blank
import SymbolTags.Text.Numeral

namespace SymbolTags.CommandLine

/-!
# Integers on a command line

`readInteger?` reads an integer with white space around it.  What may be left out of a number
is left out first, in this order:

* a plus in front, unless a minus follows it;
* leading zeros, with any underscores between them; a minus may stand before or after them;
* a fraction that holds zeros only;
* underscores between other characters, unless two stand side by side.

What is left has to be a strict integer: a minus or none, and digits that start with a zero
only if there is nothing else.
-/

/-- Drops leading zeros.  They end at another digit or at a minus, and at a point, before
    which the last character stays; where nothing else follows, the last character stays as
    well. -/
def afterZeros? (last : Char) : List Char → Option (List Char)
  | [] => some [last]
  | c :: rest =>
    if c = '0' || c = '_' then afterZeros? c rest
    else if c.isDigit || c = '-' then some (c :: rest)
    else if c = '.' then some (last :: c :: rest)
    else none

/-- Drops leading zeros of a text that starts like a number. -/
def dropZeros? : List Char → Option (List Char)
  | [] => none
  | c :: rest =>
    if c = '0' then afterZeros? c rest
    else if c.isDigit || c = '-' then some (c :: rest)
    else none

/-- Drops leading zeros, also those behind a minus. -/
def dropLeadingZeros? : List Char → Option (List Char)
  | '-' :: rest => (dropZeros? rest).map ('-' :: ·)
  | cs => dropZeros? cs

/-- Drops a point with zeros behind it. -/
def dropZeroFraction (cs : List Char) : List Char :=
  match cs.dropWhile (· != '.') with
  | _ :: zeros =>
    if !zeros.isEmpty && zeros.all (· == '0') then cs.takeWhile (· != '.') else cs
  | [] => cs

/-- Two underscores stand side by side. -/
def hasDoubleUnderscore : List Char → Bool
  | '_' :: '_' :: _ => true
  | _ :: rest => hasDoubleUnderscore rest
  | [] => false

/-- Drops underscores, if all of them stand between other characters. -/
def dropUnderscores (cs : List Char) : List Char :=
  if cs.head? = some '_' || cs.getLast? = some '_' || hasDoubleUnderscore cs then cs
  else cs.filter (· != '_')

/-- The number that decimal digits stand for. -/
def decimalValue (ds : List Char) : Nat :=
  ds.foldl (fun n c => n * 10 + (c.toNat - '0'.toNat)) 0

/-- Reads digits that start with a zero only if there is nothing else. -/
def strictNatural? (cs : List Char) : Option Nat :=
  if cs.isEmpty || !cs.all Char.isDigit || (cs.head? = some '0' && cs.length ≠ 1) then none
  else if cs.length ≤ Text.mostDigits then some (decimalValue cs)
  else none

/-- Reads a strict integer. -/
def strictInteger? : List Char → Option Int
  | '-' :: rest => (strictNatural? rest).map fun n => -(n : Int)
  | cs => (strictNatural? cs).map fun n => (n : Int)

/-- Drops a plus in front, which must not stand before a minus. -/
def dropPlus? : List Char → Option (List Char)
  | '+' :: '-' :: _ => none
  | '+' :: rest => some rest
  | cs => some cs

/-- Reads an integer. -/
def readInteger? (s : String) : Option Int := do
  let cs ← dropPlus? (Text.trimBoth Text.isSpace s.toList)
  let cs ← dropLeadingZeros? cs
  strictInteger? (dropUnderscores (dropZeroFraction cs))

end SymbolTags.CommandLine
