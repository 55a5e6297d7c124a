import SymbolTags.Syntax.Node
import SymbolTags.Text.Trim

namespace SymbolTags.Text

open Syntax (Position)

/-!
# Lines — text divided at line feeds

* `lines` divides a text at its line feeds;
* `lineText` is the text of a line, counted from 1, without carriage returns at its end;
* `locate` turns an offset inside a piece of text into a position, given the position of
  the piece.
-/

/-- The pieces between line feeds; there is always at least one. -/
def lines : List Char → List (List Char)
  | [] => [[]]
  | c :: rest =>
    if c = '\n' then [] :: lines rest
    else
      match lines rest with
      | [] => [[c]]
      | l :: ls => (c :: l) :: ls

/-- The text of a line, counted from 1, without the carriage returns at its end; empty
    when there is no such line. -/
def lineText (ls : Array (List Char)) (line : Int) : String :=
  if 1 ≤ line then
    match ls[line.toNat - 1]? with
    | some l => String.ofList (dropEndWhile (· == '\r') l)
    | none => ""
  else ""

/-- The position of the character at an offset of a text that starts at a position. -/
def locate (text : List Char) (start : Position) (offset : Nat) : Position :=
  let before := text.take offset
  let breaks := before.count '\n'
  if breaks = 0 then ⟨start.line, start.column + offset⟩
  else ⟨start.line + breaks, ((before.reverse.takeWhile (· != '\n')).length : Nat)⟩

end SymbolTags.Text
