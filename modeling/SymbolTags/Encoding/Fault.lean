import SymbolTags.Text.Quoted

namespace SymbolTags.Encoding

/-!
# Decoding faults

A `Fault` tells which bytes of a file cannot be decoded and why.
-/

/-- The bytes from `start` up to `stop` that a codec cannot decode. -/
structure Fault where
  codec : String
  start : Nat
  stop : Nat
  /-- The first of the bytes. -/
  byte : UInt8
  reason : String
deriving DecidableEq, Repr, Inhabited

/-- The text of a fault: a single byte is shown, of several only the range. -/
def Fault.message (f : Fault) : String :=
  let range :=
    if f.stop = f.start + 1 then
      "byte 0x" ++ String.ofList (Text.hexDigits 2 f.byte.toNat) ++ " in position " ++
        toString f.start
    else "bytes in position " ++ toString f.start ++ "-" ++ toString (f.stop - 1)
  Text.quoted f.codec ++ " codec can't decode " ++ range ++ ": " ++ f.reason

end SymbolTags.Encoding
