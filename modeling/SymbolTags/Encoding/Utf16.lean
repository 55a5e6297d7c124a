import SymbolTags.Encoding.Fault

namespace SymbolTags.Encoding

/-!
# UTF-16

* `decodeUtf16With` decodes pairs of bytes in a given order;
* `decodeUtf16` takes the order from a leading byte order mark and falls back to little
  endian.
-/

/-- Which byte of a unit comes first. -/
inductive ByteOrder where
  | little
  | big
deriving DecidableEq, Repr, Inhabited

namespace ByteOrder

/-- The name of the codec with this order. -/
def codec : ByteOrder → String
  | little => "utf-16-le"
  | big => "utf-16-be"

/-- The unit that two bytes make. -/
def unit : ByteOrder → UInt8 → UInt8 → Nat
  | little, a, b => a.toNat + 256 * b.toNat
  | big, a, b => b.toNat + 256 * a.toNat

end ByteOrder

/-- The first half of a surrogate pair. -/
def isHighSurrogate (u : Nat) : Bool := 0xd800 ≤ u && u < 0xdc00

/-- The second half of a surrogate pair. -/
def isLowSurrogate (u : Nat) : Bool := 0xdc00 ≤ u && u < 0xe000

/-- Decodes the bytes from a position on. -/
def decodeUtf16From (order : ByteOrder) (position : Nat) : List UInt8 → Except Fault (List Char)
  | [] => .ok []
  | [a] => .error ⟨order.codec, position, position + 1, a, "truncated data"⟩
  | a :: b :: rest =>
    let u := order.unit a b
    if isLowSurrogate u then
      .error ⟨order.codec, position, position + 2, a, "illegal encoding"⟩
    else if isHighSurrogate u then
      match rest with
      | c :: d :: rest =>
        let v := order.unit c d
        if isLowSurrogate v then do
          let cs ← decodeUtf16From order (position + 4) rest
          return Char.ofNat (0x10000 + (u - 0xd800) * 0x400 + (v - 0xdc00)) :: cs
        else .error ⟨order.codec, position, position + 2, a, "illegal UTF-16 surrogate"⟩
      | short =>
        .error ⟨order.codec, position, position + 2 + short.length, a, "unexpected end of data"⟩
    else do
      let cs ← decodeUtf16From order (position + 2) rest
      return Char.ofNat u :: cs

/-- Decodes bytes in a given order; a byte order mark is a character like any other. -/
def decodeUtf16With (order : ByteOrder) (bytes : List UInt8) : Except Fault (List Char) :=
  decodeUtf16From order 0 bytes

/-- Decodes bytes in the order that a leading byte order mark tells. -/
def decodeUtf16 : List UInt8 → Except Fault (List Char)
  | 0xff :: 0xfe :: rest => decodeUtf16From .little 2 rest
  | 0xfe :: 0xff :: rest => decodeUtf16From .big 2 rest
  | bytes => decodeUtf16From .little 0 bytes

end SymbolTags.Encoding
