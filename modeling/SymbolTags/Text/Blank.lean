import SymbolTags.Text.Ranges
import SymbolTags.Text.Trim

namespace SymbolTags.Text

/-!
# Blank characters

Two notions of blank are in use:

* `isSpace` is the property White_Space of Unicode; texts in a configuration are trimmed
  by it;
* `isBlank` also takes in the four information separators U+001C to U+001F; names of
  levels and flags are trimmed by it.
-/

/-- Characters with the property White_Space. -/
def spaceRanges : List (Nat × Nat) :=
  [(0x9, 0xd), (0x20, 0x20), (0x85, 0x85), (0xa0, 0xa0), (0x1680, 0x1680), (0x2000, 0x200a),
   (0x2028, 0x2029), (0x202f, 0x202f), (0x205f, 0x205f), (0x3000, 0x3000)]

/-- A character with the property White_Space. -/
def isSpace (c : Char) : Bool :=
  inRanges spaceRanges c.toNat

/-- White space or an information separator. -/
def isBlank (c : Char) : Bool :=
  isSpace c || inRanges [(0x1c, 0x1f)] c.toNat

/-- A text without white space at its ends. -/
def trimSpace (s : String) : String :=
  String.ofList (trimBoth isSpace s.toList)

/-- A text without blanks at its ends. -/
def trimBlank (s : String) : String :=
  String.ofList (trimBoth isBlank s.toList)

end SymbolTags.Text
