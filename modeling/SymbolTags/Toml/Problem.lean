import SymbolTags.Text.Numeral

namespace SymbolTags.Toml

/-!
# Problems — why a TOML document has no value

A document is not well formed, or it holds an integer with more digits than are read.  The
first problem from the left is the one that counts.
-/

/-- Why a document has no value. -/
inductive Problem where
  | malformed
  | tooManyDigits (count : Nat)
deriving DecidableEq, Repr, Inhabited

/-- The text of the refusal of an integer with too many digits. -/
def digitsMessage (count : Nat) : String :=
  Text.digitsMessage (Text.digitsNote count)

/-- What a reader has read; where it has read nothing, the input is not well formed. -/
def required {α : Type} : Option α → Except Problem α
  | some a => .ok a
  | none => .error .malformed

end SymbolTags.Toml
