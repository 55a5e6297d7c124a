import SymbolTags.Text.Trim
import SymbolTags.Text.Word

namespace SymbolTags.Selector

open Text

/-!
# Scanning selector text

Both scanners go through a text from left to right and resume behind each name that they
find:

* `scanWords` finds bare words: a name starts with an ASCII letter or an underscore that
  does not follow a word character, a hyphen or a dollar sign;
* `scanSelectors` finds class and id names: a name follows a dot or a number sign and may
  start with one hyphen.  An attribute selector is passed over whole, so its value yields
  no names.

A name goes on through word characters and hyphens, and hyphens at its end do not belong
to it.
-/

/-- A name found in a text, with the offset at which it starts. -/
structure Found where
  name : List Char
  offset : Nat
deriving DecidableEq, Repr, Inhabited

/-- A character that may stand inside a name. -/
def isNamePart (c : Char) : Bool :=
  isWord c || c == '-'

/-- A character behind which no bare word starts. -/
def hindersWord (c : Char) : Bool :=
  isNamePart c || c == '$'

/-- How a name goes on: the run of name characters without the hyphens at its end. -/
def nameTail (cs : List Char) : List Char :=
  dropEndWhile (· == '-') (cs.takeWhile isNamePart)

/-- The bare words of a text that starts at `offset` and follows the character `before`. -/
def scanWordsFrom (before : Option Char) (offset : Nat) (cs : List Char) : List Found :=
  match cs with
  | [] => []
  | c :: rest =>
    if isNameStart c && !before.any hindersWord then
      let name := c :: nameTail rest
      ⟨name, offset⟩ ::
        scanWordsFrom name.getLast? (offset + name.length) (rest.drop (nameTail rest).length)
    else scanWordsFrom (some c) (offset + 1) rest
termination_by cs.length
decreasing_by all_goals simp; try omega

/-- The bare words of a text. -/
def scanWords (cs : List Char) : List Found :=
  scanWordsFrom none 0 cs

/-- The name at the start of a text, which may start with one hyphen. -/
def selectorName? : List Char → Option (List Char)
  | '-' :: c :: rest => if isNameStart c then some ('-' :: c :: nameTail rest) else none
  | c :: rest => if isNameStart c then some (c :: nameTail rest) else none
  | [] => none

/-- The class and id names of a text that starts at `offset`. -/
def scanSelectorsFrom (offset : Nat) (cs : List Char) : List Found :=
  match cs with
  | [] => []
  | c :: rest =>
    if c = '[' ∧ ']' ∈ rest then
      let passed := (rest.takeWhile (· != ']')).length + 1
      scanSelectorsFrom (offset + 1 + passed) (rest.drop passed)
    else if c = '.' ∨ c = '#' then
      match selectorName? rest with
      | some name =>
        ⟨name, offset + 1⟩ ::
          scanSelectorsFrom (offset + 1 + name.length) (rest.drop name.length)
      | none => scanSelectorsFrom (offset + 1) rest
    else scanSelectorsFrom (offset + 1) rest
termination_by cs.length
decreasing_by all_goals simp; try omega

/-- The class and id names of a text. -/
def scanSelectors (cs : List Char) : List Found :=
  scanSelectorsFrom 0 cs

end SymbolTags.Selector
