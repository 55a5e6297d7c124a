import SymbolTags.Toml.Item
import SymbolTags.Toml.Moment

namespace SymbolTags.Toml

/-!
# Values and keys in TOML

Readers for the right and the left side of an assignment: texts, truth values, numbers, dates
and times, arrays and inline tables; bare, quoted and dotted keys.
-/

/-! ### Comments and blanks -/

/-- Passes over a comment, up to the end of its line. -/
def skipComment (cs : List Char) : Option (List Char) :=
  if cs.head? = some '#' then
    let body := cs.takeWhile (· != '\n')
    if body.any isIllegal then none else some (cs.drop body.length)
  else some cs

/-- Passes over blanks, line breaks and comments inside an array; the number bounds the
    comments. -/
def skipBetween : Nat → List Char → Option (List Char)
  | 0, cs => some (cs.dropWhile isGapOrBreak)
  | steps + 1, cs =>
    let rest := cs.dropWhile isGapOrBreak
    if rest.head? = some '#' then (skipComment rest).bind (skipBetween steps) else some rest

/-! ### Keys -/

/-- A character of a bare key. -/
def isBareKey (c : Char) : Bool :=
  c.isAlphanum || c == '-' || c == '_'

/-- Reads one part of a key. -/
def keyPart? (cs : List Char) : Option (String × List Char) :=
  match cs with
  | [] => none
  | c :: rest =>
    if isBareKey c then
      some (String.ofList (cs.takeWhile isBareKey), cs.dropWhile isBareKey)
    else if c = '"' then (basicBody rest).map fun p => (String.ofList p.1, p.2)
    else if c = Text.apostrophe then (literalBody rest).map fun p => (String.ofList p.1, p.2)
    else none

/-- Reads a key of parts divided by dots, at most the given number of them, and passes
    over the blanks behind it. -/
def key? : Nat → List Char → Option (List String × List Char)
  | 0, _ => none
  | parts + 1, cs => do
    let (name, rest) ← keyPart? cs
    match rest.dropWhile isGap with
    | '.' :: rest =>
      let (names, rest) ← key? parts (rest.dropWhile isGap)
      return (name :: names, rest)
    | rest => return ([name], rest)

/-! ### Values -/

/-- Opens an inline table. -/
def openBrace : Char := Char.ofNat 123

/-- Closes an inline table. -/
def closeBrace : Char := Char.ofNat 125

/-- Three quotes of a kind stand at the start. -/
def startsTripled (quote : Char) (cs : List Char) : Bool :=
  cs.take 3 == [quote, quote, quote]

/-- A text value. -/
def textValue (r : Option (List Char × List Char)) : Except Problem (Data × List Char) :=
  (required r).map fun p => (.str (String.ofList p.1), p.2)

/-- Reads a value that holds no other values. -/
def scalarValue (cs : List Char) : Except Problem (Data × List Char) :=
  if startsTripled '"' cs then textValue (multilineBody (dropFirstBreak (cs.drop 3)))
  else if cs.head? = some '"' then textValue (basicBody (cs.drop 1))
  else if startsTripled Text.apostrophe cs then
    textValue (multilineLiteral (dropFirstBreak (cs.drop 3)))
  else if cs.head? = some Text.apostrophe then textValue (literalBody (cs.drop 1))
  else if "true".toList.isPrefixOf cs then .ok (.bool true, cs.drop 4)
  else if "false".toList.isPrefixOf cs then .ok (.bool false, cs.drop 5)
  else (moment? cs).getD (number cs)

mutual

/-- Reads a value; the number bounds how deep values are nested and how many there are. -/
def value : Nat → List Char → Except Problem (Data × List Char)
  | 0, _ => .error .malformed
  | steps + 1, cs =>
    match cs with
    | [] => .error .malformed
    | c :: rest =>
      if c = '[' then (items steps rest).map fun p => (.list p.1, p.2)
      else if c = openBrace then
        let rest := rest.dropWhile isGap
        if rest.head? = some closeBrace then .ok (.table [], rest.drop 1)
        else (pairs steps [] rest).map fun p => (.table (entriesToData p.1), p.2)
      else scalarValue cs

/-- Reads the items of an array behind its opening bracket or a comma. -/
def items : Nat → List Char → Except Problem (List Data × List Char)
  | 0, _ => .error .malformed
  | steps + 1, cs => do
    let cs ← required (skipBetween cs.length cs)
    if cs.head? = some ']' then return ([], cs.drop 1)
    else
      let (d, cs) ← value steps cs
      match ← required (skipBetween cs.length cs) with
      | ']' :: rest => return ([d], rest)
      | ',' :: rest =>
        let (ds, rest) ← items steps rest
        return (d :: ds, rest)
      | _ => throw .malformed

/-- Reads assignments of an inline table into the entries that it has so far. -/
def pairs : Nat → Fields Item → List Char → Except Problem (Fields Item × List Char)
  | 0, _, _ => .error .malformed
  | steps + 1, entries, cs => do
    let (names, rest) ← required (key? cs.length cs)
    match rest with
    | '=' :: rest =>
      let (d, rest) ← value steps (rest.dropWhile isGap)
      let entries ← required (assign 0 names d entries)
      match rest.dropWhile isGap with
      | [] => throw .malformed
      | c :: rest =>
        if c = closeBrace then return (entries, rest)
        else if c = ',' then pairs steps entries (rest.dropWhile isGap)
        else throw .malformed
    | _ => throw .malformed

end

/-- Reads an assignment of a value to a key. -/
def assignment (cs : List Char) : Except Problem ((List String × Data) × List Char) := do
  let (names, rest) ← required (key? cs.length cs)
  match rest with
  | '=' :: rest =>
    let body := rest.dropWhile isGap
    let (d, rest) ← value (2 * body.length + 2) body
    return ((names, d), rest)
  | _ => throw .malformed

end SymbolTags.Toml
