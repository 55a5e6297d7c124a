namespace SymbolTags

/-!
# Decimals — numbers with a fraction or an exponent

A `Decimal` is kept as it is written: digits times a power of ten.  It stands for the
binary number of 53 digits that is nearest to it:

* `roundDiv` divides to the nearest integer;
* `nearestBinary` gives the nearest binary number as digits times a power of two;
* `Decimal.integer?` is the integer that a decimal stands for, if it stands for one.
-/

/-- A number that is written with a fraction or an exponent. -/
inductive Decimal where
  /-- The digits times ten to the power of the exponent. -/
  | finite (negative : Bool) (digits : Nat) (exponent : Int)
  | infinite (negative : Bool)
  | undefined
deriving DecidableEq, Repr, Inhabited

/-- The integer nearest to a quotient; of two that are equally near, the even one. -/
def roundDiv (n d : Nat) : Nat :=
  let q := n / d
  let twice := 2 * (n % d)
  if twice < d then q
  else if d < twice then q + 1
  else if q % 2 = 0 then q else q + 1

/-- The exponent of the last of 53 binary digits of a quotient.  The quotient lies between
    the powers `top - 1` and `top + 1`, and a comparison tells the half it is in. -/
def lastBinaryExponent (n d : Nat) : Int :=
  let top : Int := (n.log2 : Int) - d.log2
  let reaches := d * Nat.pow 2 top.toNat ≤ n * Nat.pow 2 (-top).toNat
  max ((if reaches then top else top - 1) - 52) (-1074)

/-- The binary number nearest to a quotient, as digits and the exponent of the last one. -/
def nearestBinary (n d : Nat) : Nat × Int :=
  let e := lastBinaryExponent n d
  (roundDiv (n * Nat.pow 2 (-e).toNat) (d * Nat.pow 2 e.toNat), e)

namespace Decimal

/-- Exponents beyond this bound lead out of the binary numbers, upwards or downwards. -/
def exponentBound : Nat := 400

/-- The nonnegative integer that digits times a power of ten stand for. -/
def magnitude? (digits : Nat) (exponent : Int) : Option Nat :=
  if digits = 0 then some 0
  else if exponentBound < exponent then none
  else if exponent < -(exponentBound + digits.log2 : Int) then some 0
  else
    let (m, e) :=
      nearestBinary (digits * Nat.pow 10 exponent.toNat) (Nat.pow 10 (-exponent).toNat)
    if 0 ≤ e then some (m * Nat.pow 2 e.toNat)
    else if m % Nat.pow 2 (-e).toNat = 0 then some (m / Nat.pow 2 (-e).toNat)
    else none

/-- The integer that a decimal stands for. -/
def integer? : Decimal → Option Int
  | finite negative digits exponent =>
    (magnitude? digits exponent).map fun n => if negative then -(n : Int) else n
  | infinite _ => none
  | undefined => none

/-- The text of a decimal. -/
def text : Decimal → String
  | finite negative digits exponent =>
    (if negative then "-" else "") ++ toString digits ++ "e" ++ toString exponent
  | infinite negative => if negative then "-inf" else "inf"
  | undefined => "nan"

end Decimal

end SymbolTags
