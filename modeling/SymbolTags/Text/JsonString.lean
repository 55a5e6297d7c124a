import SymbolTags.Text.Quoted

namespace SymbolTags.Text

/-!
# JSON strings

`jsonString` writes a text between double quotes.  Only quotes, backslashes and control
characters are escaped; all other characters stand for themselves.  `asciiJsonString` also
escapes what is not a printable character of ASCII, by its UTF-16 units.
-/

/-- A character inside a JSON string. -/
def jsonChar (c : Char) : List Char :=
  if c == '"' || c == '\\' then ['\\', c]
  else if c == '\n' then ['\\', 'n']
  else if c == '\r' then ['\\', 'r']
  else if c == '\t' then ['\\', 't']
  else if c == Char.ofNat 8 then ['\\', 'b']
  else if c == Char.ofNat 12 then ['\\', 'f']
  else if c.toNat < 32 then '\\' :: 'u' :: hexDigits 4 c.toNat
  else [c]

/-- A JSON string. -/
def jsonString (s : String) : String :=
  String.ofList ('"' :: (s.toList.flatMap jsonChar ++ ['"']))

/-- The UTF-16 units of a character. -/
def utf16Units (c : Char) : List Nat :=
  if c.toNat < 0x10000 then [c.toNat]
  else
    let n := c.toNat - 0x10000
    [0xd800 + n / 0x400, 0xdc00 + n % 0x400]

/-- A character inside a JSON string of ASCII characters. -/
def asciiJsonChar (c : Char) : List Char :=
  if c.toNat < 0x7f then jsonChar c
  else (utf16Units c).flatMap fun u => '\\' :: 'u' :: hexDigits 4 u

/-- A JSON string of ASCII characters. -/
def asciiJsonString (s : String) : String :=
  String.ofList ('"' :: (s.toList.flatMap asciiJsonChar ++ ['"']))

/-- A JSON object of members whose values are written already, given how texts are written. -/
def jsonObjectWith (string : String → String) (members : List (String × String)) : String :=
  "\x7b" ++ ", ".intercalate (members.map fun p => string p.1 ++ ": " ++ p.2) ++ "\x7d"

/-- A JSON object of members whose values are written already. -/
def jsonObject (members : List (String × String)) : String :=
  jsonObjectWith jsonString members

end SymbolTags.Text
