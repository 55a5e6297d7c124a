import SymbolTags.Text.Quoted

namespace SymbolTags.Toml

/-!
# Texts in TOML

The four ways to write a text, each read up to and including its closing quotes:

* `basicBody` and `multilineBody` know escapes, `literalBody` and `multilineLiteral` do
  not;
* `writeText` writes a text in the basic way.

A reader gives what it has read and the rest of the input, or nothing when the input is
not well formed.
-/

/-- A control character. -/
def isControl (c : Char) : Bool :=
  c.toNat < 32 || c.toNat == 127

/-- A character that may not stand on a line as it is. -/
def isIllegal (c : Char) : Bool :=
  isControl c && c != '\t'

/-- A blank on a line. -/
def isGap (c : Char) : Bool :=
  c == ' ' || c == '\t'

/-- A blank or the end of a line. -/
def isGapOrBreak (c : Char) : Bool :=
  isGap c || c == '\n'

/-! ### Escapes -/

/-- The value of a hexadecimal digit. -/
def hexDigit? (c : Char) : Option Nat :=
  if c.isDigit then some (c.toNat - '0'.toNat)
  else if 'a' ≤ c ∧ c ≤ 'f' then some (c.toNat - 'a'.toNat + 10)
  else if 'A' ≤ c ∧ c ≤ 'F' then some (c.toNat - 'A'.toNat + 10)
  else none

/-- The number that hexadecimal digits stand for. -/
def hexNumber? (cs : List Char) : Option Nat :=
  cs.foldlM (fun n c => (hexDigit? c).map (n * 16 + ·)) 0

/-- The character of a code point, unless it is a surrogate or out of range. -/
def scalar? (n : Nat) : Option Char :=
  if n.isValidChar then some (Char.ofNat n) else none

/-- Reads the character whose code point is written with a number of digits. -/
def hexEscape? (width : Nat) (cs : List Char) : Option (Char × List Char) := do
  guard (width ≤ cs.length)
  let n ← hexNumber? (cs.take width)
  let c ← scalar? n
  return (c, cs.drop width)

/-- The characters that are written with a letter. -/
def simpleEscapes : List (Char × Char) :=
  [('b', Char.ofNat 8), ('t', '\t'), ('n', '\n'), ('f', Char.ofNat 12), ('r', '\r'), ('"', '"'),
   ('\\', '\\')]

/-- Reads what follows a backslash. -/
def escape? : List Char → Option (Char × List Char)
  | [] => none
  | c :: rest =>
    if c = 'u' then hexEscape? 4 rest
    else if c = 'U' then hexEscape? 8 rest
    else (simpleEscapes.lookup c).map fun x => (x, rest)

/-- What follows an escape by digits is not longer than the input. -/
theorem hexEscape?_length {width : Nat} {cs rest : List Char} {c : Char}
    (h : hexEscape? width cs = some (c, rest)) : rest.length ≤ cs.length := by
  obtain ⟨_, _, h⟩ := Option.bind_eq_some_iff.mp h
  obtain ⟨_, _, h⟩ := Option.bind_eq_some_iff.mp h
  obtain ⟨_, _, h⟩ := Option.bind_eq_some_iff.mp h
  simp only [pure, Option.some.injEq, Prod.mk.injEq] at h
  rw [← h.2]; simp

/-- An escape takes at least one character, so what follows it is shorter. -/
theorem escape?_length {cs rest : List Char} {c : Char} (h : escape? cs = some (c, rest)) :
    rest.length < cs.length := by
  cases cs with
  | nil => simp [escape?] at h
  | cons a tail =>
    simp only [escape?] at h
    split at h
    · exact Nat.lt_of_le_of_lt (hexEscape?_length h) (by simp)
    · split at h
      · exact Nat.lt_of_le_of_lt (hexEscape?_length h) (by simp)
      · obtain ⟨_, _, h⟩ := Option.map_eq_some_iff.1 h
        simp only [Prod.mk.injEq] at h
        rw [← h.2]; simp

/-! ### Basic texts -/

/-- Reads a basic text behind its opening quote. -/
def basicBody (cs : List Char) : Option (List Char × List Char) :=
  match cs with
  | [] => none
  | c :: rest =>
    if c = '"' then some ([], rest)
    else if c = '\\' then
      match _h : escape? rest with
      | none => none
      | some (x, rest') => (basicBody rest').map fun p => (x :: p.1, p.2)
    else if isIllegal c then none
    else (basicBody rest).map fun p => (c :: p.1, p.2)
termination_by cs.length
decreasing_by
  · have := escape?_length _h; simp; omega
  · simp

/-- Quotes that stand right behind the three closing ones belong to the text, at most two
    of them. -/
def extraQuotes (quote : Char) (cs : List Char) : List Char × List Char :=
  let extra := (cs.take 2).takeWhile (· == quote)
  (extra, cs.drop extra.length)

/-- A backslash at the end of a line: the break and all blanks and breaks behind it are
    passed over.  Gives nothing when the line goes on. -/
def lineContinuation? (cs : List Char) : Option (List Char) :=
  match cs.dropWhile isGap with
  | [] => some []
  | c :: rest => if c = '\n' then some (rest.dropWhile isGapOrBreak) else none

/-- What follows a continued line is not longer than the input. -/
theorem lineContinuation?_length {cs rest : List Char} (h : lineContinuation? cs = some rest) :
    rest.length ≤ cs.length := by
  have hgap : (cs.dropWhile isGap).length ≤ cs.length :=
    (List.dropWhile_sublist _).length_le
  unfold lineContinuation? at h
  split at h
  · simp only [Option.some.injEq] at h; rw [← h]; simp
  · rename_i c tail heq
    rw [heq] at hgap
    split at h
    · simp only [Option.some.injEq] at h
      have := (List.dropWhile_sublist (l := tail) isGapOrBreak).length_le
      rw [← h]
      simp only [List.length_cons] at hgap
      omega
    · simp at h

/-- Reads a multi-line basic text behind its opening quotes. -/
def multilineBody (cs : List Char) : Option (List Char × List Char) :=
  match cs with
  | [] => none
  | c :: rest =>
    if c = '"' && rest.take 2 == ['"', '"'] then some (extraQuotes '"' (rest.drop 2))
    else if c = '\\' then
      if rest.head?.any isGapOrBreak then
        match _h : lineContinuation? rest with
        | none => none
        | some rest' => multilineBody rest'
      else
        match _h : escape? rest with
        | none => none
        | some (x, rest') => (multilineBody rest').map fun p => (x :: p.1, p.2)
    else if isIllegal c && c != '\n' then none
    else (multilineBody rest).map fun p => (c :: p.1, p.2)
termination_by cs.length
decreasing_by
  · have := lineContinuation?_length _h; simp; omega
  · have := escape?_length _h; simp; omega
  · simp

/-! ### Literal texts -/

/-- Reads a literal text behind its opening quote. -/
def literalBody (cs : List Char) : Option (List Char × List Char) :=
  let body := cs.takeWhile (· != Text.apostrophe)
  match cs.drop body.length with
  | [] => none
  | _ :: rest => if body.any isIllegal then none else some (body, rest)

/-- Reads a multi-line literal text behind its opening quotes. -/
def multilineLiteral : List Char → Option (List Char × List Char)
  | [] => none
  | c :: rest =>
    if c = Text.apostrophe && rest.take 2 == [Text.apostrophe, Text.apostrophe] then
      some (extraQuotes Text.apostrophe (rest.drop 2))
    else if isIllegal c && c != '\n' then none
    else (multilineLiteral rest).map fun p => (c :: p.1, p.2)

/-- A line break right behind the opening quotes does not belong to the text. -/
def dropFirstBreak (cs : List Char) : List Char :=
  if cs.head? = some '\n' then cs.drop 1 else cs

/-! ### Writing -/

/-- A character as it is written in a basic text. -/
def writeChar (c : Char) : List Char :=
  match simpleEscapes.find? fun p => p.2 == c with
  | some (letter, _) => ['\\', letter]
  | none => if isControl c then '\\' :: 'u' :: Text.hexDigits 4 c.toNat else [c]

/-- A text in the basic way. -/
def writeText (s : String) : String :=
  String.ofList ('"' :: (s.toList.flatMap writeChar ++ ['"']))

end SymbolTags.Toml
