import SymbolTags.Toml.Number

namespace SymbolTags.Toml

/-!
# Dates and times in TOML

`moment?` reads a date, a date with a time of day, or a time of day alone.  What looks like a
date and is none in the calendar is refused.
-/

/-- Reads two digits that stand for a number between two bounds. -/
def twoDigits? (least most : Nat) : List Char → Option (Nat × List Char)
  | a :: b :: rest =>
    let n := numberOf 10 [a, b]
    if a.isDigit ∧ b.isDigit ∧ least ≤ n ∧ n ≤ most then some (n, rest) else none
  | _ => none

/-- Reads a character. -/
def mark? (c : Char) : List Char → Option (List Char)
  | d :: rest => if c = d then some rest else none
  | [] => none

/-! ### Dates -/

/-- A year, a month and a day. -/
structure Date where
  year : Nat
  month : Nat
  day : Nat
deriving DecidableEq, Repr, Inhabited

/-- A year with a twenty-ninth of February. -/
def isLeapYear (year : Nat) : Bool :=
  year % 4 == 0 && (year % 100 != 0 || year % 400 == 0)

/-- The number of days of a month. -/
def daysIn (year month : Nat) : Nat :=
  if month = 2 then (if isLeapYear year then 29 else 28)
  else if month ∈ [4, 6, 9, 11] then 30
  else 31

/-- The date is in the calendar, which starts with the year 1. -/
def Date.isValid (d : Date) : Bool :=
  0 < d.year && d.day ≤ daysIn d.year d.month

/-- Reads what looks like a date. -/
def date? (cs : List Char) : Option (Date × List Char) := do
  let (century, cs) ← twoDigits? 0 99 cs
  let (year, cs) ← twoDigits? 0 99 cs
  let (month, cs) ← twoDigits? 1 12 (← mark? '-' cs)
  let (day, cs) ← twoDigits? 1 31 (← mark? '-' cs)
  return (⟨century * 100 + year, month, day⟩, cs)

/-! ### Times -/

/-- Reads a point with digits behind it, if there is one. -/
def skipFraction (cs : List Char) : List Char :=
  match cs with
  | '.' :: c :: rest => if c.isDigit then rest.dropWhile Char.isDigit else cs
  | _ => cs

/-- Reads a time of day. -/
def clock? (cs : List Char) : Option (List Char) := do
  let (_, cs) ← twoDigits? 0 23 cs
  let (_, cs) ← twoDigits? 0 59 (← mark? ':' cs)
  let (_, cs) ← twoDigits? 0 59 (← mark? ':' cs)
  return skipFraction cs

/-- Reads a time zone, given as hours and minutes. -/
def zoneShift? : List Char → Option (List Char)
  | c :: rest => do
    guard (c = '+' ∨ c = '-')
    let (_, rest) ← twoDigits? 0 23 rest
    let (_, rest) ← twoDigits? 0 59 (← mark? ':' rest)
    return rest
  | [] => none

/-- Reads a time zone, if there is one. -/
def skipZone (cs : List Char) : List Char :=
  match cs with
  | 'Z' :: rest => rest
  | 'z' :: rest => rest
  | _ => (zoneShift? cs).getD cs

/-- Reads a time of day behind a date, if there is one. -/
def skipClock (cs : List Char) : List Char :=
  match cs with
  | c :: rest =>
    if c = 'T' ∨ c = 't' ∨ c = ' ' then ((clock? rest).map skipZone).getD cs else cs
  | [] => cs

/-! ### Both -/

/-- The part of a text that has been read, as a value. -/
def momentBefore (cs rest : List Char) : Data :=
  .moment (String.ofList (cs.take (cs.length - rest.length)))

/-- Reads a date or a time, if the text starts like one. -/
def moment? (cs : List Char) : Option (Except Problem (Data × List Char)) :=
  match date? cs, clock? cs with
  | some (date, rest), _ =>
    let rest := skipClock rest
    some (if date.isValid then .ok (momentBefore cs rest, rest) else .error .malformed)
  | none, some rest => some (.ok (momentBefore cs rest, rest))
  | none, none => none

end SymbolTags.Toml
