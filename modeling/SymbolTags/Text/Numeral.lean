namespace SymbolTags.Text

/-!
# Numerals

Numbers have a greatest length in decimal digits, beyond which they are neither read nor
written.
-/

/-- The greatest number of digits of a number. -/
def mostDigits : Nat := 4300

/-- The least natural number that has too many digits.  It is too great to be unfolded in
    passing. -/
@[irreducible]
def writableBound : Nat := Nat.pow 10 mostDigits

/-- A number has few enough digits to be written. -/
def isWritable (n : Int) : Bool :=
  n.natAbs < writableBound

/-- The text of the refusal of a number; a note may tell more about the number. -/
def digitsMessage (note : String) : String :=
  "Exceeds the limit (" ++ toString mostDigits ++ " digits) for integer string conversion" ++
    note ++ "; use sys.set_int_max_str_digits() to increase the limit"

/-- The note on a number that was to be read. -/
def digitsNote (count : Nat) : String :=
  ": value has " ++ toString count ++ " digits"

end SymbolTags.Text
