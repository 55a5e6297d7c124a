import SymbolTags.Text.Printable

namespace SymbolTags.Text

/-!
# Quoted text

`quoted s` sets a text in quotes so that it can be read back:

* single quotes, or double quotes when the text holds a single quote and no double one;
* the quote in use and the backslash are preceded by a backslash, line feed, carriage
  return and tab are written with a letter;
* a character without a printed form is written by its code point in hexadecimal, with
  two, four or eight digits.
-/

/-- The single quote. -/
def apostrophe : Char := Char.ofNat 39

/-- The quote that a text is set in. -/
def quoteMark (cs : List Char) : Char :=
  if cs.contains apostrophe && !cs.contains '"' then '"' else apostrophe

/-- The last `width` hexadecimal digits of a number, in lower case. -/
def hexDigits : Nat → Nat → List Char
  | 0, _ => []
  | width + 1, n => hexDigits width (n / 16) ++ [Nat.digitChar (n % 16)]

/-- A character as it stands between quotes of the given kind. -/
def escapeIn (mark c : Char) : List Char :=
  if c == mark || c == '\\' then ['\\', c]
  else if c == '\n' then ['\\', 'n']
  else if c == '\r' then ['\\', 'r']
  else if c == '\t' then ['\\', 't']
  else if isPrintable c then [c]
  else if c.toNat < 0x100 then '\\' :: 'x' :: hexDigits 2 c.toNat
  else if c.toNat < 0x10000 then '\\' :: 'u' :: hexDigits 4 c.toNat
  else '\\' :: 'U' :: hexDigits 8 c.toNat

/-- A text in quotes. -/
def quoted (s : String) : String :=
  let cs := s.toList
  let mark := quoteMark cs
  String.ofList (mark :: (cs.flatMap (escapeIn mark) ++ [mark]))

end SymbolTags.Text
