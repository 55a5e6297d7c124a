import SymbolTags.Toml.Value

namespace SymbolTags.Toml

/-!
# TOML documents

`read` reads a document line by line: blank lines and comments, assignments, and headers
that open tables and elements of arrays of tables.  A document that is not well formed, that
defines something twice or that holds too long an integer has no value.
-/

/-- What a line of a document says. -/
inductive Statement where
  | nothing
  | assignment (key : List String) (d : Data)
  | table (key : List String)
  | element (key : List String)

/-- A document that is being read: its items, the table that assignments go to, and the
    number of headers so far. -/
structure Draft where
  items : Fields Item := []
  header : List String := []
  headers : Nat := 0

/-- What a statement makes of a document. -/
def Draft.apply (d : Draft) : Statement → Option Draft
  | .nothing => some d
  | .assignment key v =>
    (within d.header (assign d.headers key v) d.items).map fun items => { d with items }
  | .table key =>
    (openTable key d.items).map fun items => ⟨items, key, d.headers + 1⟩
  | .element key =>
    (openElement key d.items).map fun items => ⟨items, key, d.headers + 1⟩

/-- Reads a header that is closed by the given brackets. -/
def header? (brackets : List Char) (cs : List Char) : Option (List String × List Char) := do
  let (names, rest) ← key? cs.length (cs.dropWhile isGap)
  guard (brackets.isPrefixOf rest)
  return (names, rest.drop brackets.length)

/-- Reads a statement at the start of a line. -/
def statement (cs : List Char) : Except Problem (Statement × List Char) :=
  match cs with
  | [] => .ok (.nothing, [])
  | '[' :: '[' :: rest =>
    (required (header? [']', ']'] rest)).map fun p => (.element p.1, p.2)
  | '[' :: rest => (required (header? [']'] rest)).map fun p => (.table p.1, p.2)
  | c :: _ =>
    if c = '\n' || c = '#' then .ok (.nothing, cs)
    else (assignment cs).map fun p => (.assignment p.1.1 p.1.2, p.2)

/-- Reads what may follow a statement on its line, and the end of the line. -/
def lineEnd? (cs : List Char) : Option (List Char) :=
  match skipComment (cs.dropWhile isGap) with
  | none => none
  | some [] => some []
  | some (c :: rest) => if c = '\n' then some rest else none

/-- Reads lines into a document, at most the given number of them. -/
def readLines : Nat → Draft → List Char → Except Problem Draft
  | 0, d, cs => if cs.isEmpty then .ok d else .error .malformed
  | lines + 1, d, cs => do
    let (said, rest) ← statement (cs.dropWhile isGap)
    let d ← required (d.apply said)
    let rest ← required (lineEnd? rest)
    if rest.isEmpty then return d else readLines lines d rest

/-- Pairs of carriage return and line feed count as line breaks. -/
def joinBreaks : List Char → List Char
  | '\r' :: '\n' :: rest => '\n' :: joinBreaks rest
  | c :: rest => c :: joinBreaks rest
  | [] => []

/-- The table that a document stands for. -/
def read (text : String) : Except Problem (Fields Data) :=
  let cs := joinBreaks text.toList
  (readLines (cs.length + 1) {} cs).map fun d => entriesToData d.items

end SymbolTags.Toml
