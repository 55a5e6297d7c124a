import SymbolTags.Encoding.Fault

namespace SymbolTags.Encoding

/-!
# UTF-8

`decodeUtf8` accepts exactly the well-formed byte sequences of the standard: no overlong
forms, no surrogates and nothing beyond U+10FFFF.  A fault names the longest start of a
sequence that was still well formed.
-/

/-- A byte that continues a sequence. -/
def isContinuation (b : UInt8) : Bool :=
  0x80 ≤ b && b ≤ 0xbf

/-- The second bytes that may follow a lead byte of a longer sequence: overlong forms,
    surrogates and code points beyond the last are left out. -/
def isSecond (lead b : UInt8) : Bool :=
  isContinuation b &&
    (if lead = 0xe0 then 0xa0 ≤ b
     else if lead = 0xed then b ≤ 0x9f
     else if lead = 0xf0 then 0x90 ≤ b
     else if lead = 0xf4 then b ≤ 0x8f
     else true)

/-- The character whose lead byte carries `high` and whose continuation bytes follow. -/
def charOfBytes (high : Nat) (tail : List UInt8) : Char :=
  Char.ofNat (tail.foldl (fun n b => n * 64 + b.toNat % 64) high)

/-- The fault of the first `count` bytes at a position. -/
def utf8Fault (position count : Nat) (byte : UInt8) (reason : String) : Fault :=
  ⟨"utf-8", position, position + count, byte, reason⟩

/-- The reason for a byte that starts no sequence. -/
def invalidStart : String := "invalid start byte"

/-- The reason for a byte that cannot continue the sequence before it. -/
def invalidContinuation : String := "invalid continuation byte"

/-- The reason for input that ends inside a sequence. -/
def unexpectedEnd : String := "unexpected end of data"

/-- Decodes the bytes from a position on. -/
def decodeUtf8From (position : Nat) : List UInt8 → Except Fault (List Char)
  | [] => .ok []
  | a :: rest =>
    if a < 0x80 then do
      let cs ← decodeUtf8From (position + 1) rest
      return Char.ofNat a.toNat :: cs
    else if a < 0xc2 || 0xf4 < a then .error (utf8Fault position 1 a invalidStart)
    else
      match rest with
      | [] => .error (utf8Fault position 1 a unexpectedEnd)
      | b :: rest =>
        if !isSecond a b then .error (utf8Fault position 1 a invalidContinuation)
        else if a < 0xe0 then do
          let cs ← decodeUtf8From (position + 2) rest
          return charOfBytes (a.toNat % 32) [b] :: cs
        else
          match rest with
          | [] => .error (utf8Fault position 2 a unexpectedEnd)
          | c :: rest =>
            if !isContinuation c then .error (utf8Fault position 2 a invalidContinuation)
            else if a < 0xf0 then do
              let cs ← decodeUtf8From (position + 3) rest
              return charOfBytes (a.toNat % 16) [b, c] :: cs
            else
              match rest with
              | [] => .error (utf8Fault position 3 a unexpectedEnd)
              | d :: rest =>
                if !isContinuation d then .error (utf8Fault position 3 a invalidContinuation)
                else do
                  let cs ← decodeUtf8From (position + 4) rest
                  return charOfBytes (a.toNat % 8) [b, c, d] :: cs

/-- Decodes a byte sequence. -/
def decodeUtf8 (bytes : List UInt8) : Except Fault (List Char) :=
  decodeUtf8From 0 bytes

/-- Decodes a byte sequence after a leading byte order mark, from which positions are
    then counted. -/
def decodeUtf8Signed : List UInt8 → Except Fault (List Char)
  | 0xef :: 0xbb :: 0xbf :: rest => decodeUtf8 rest
  | bytes => decodeUtf8 bytes

end SymbolTags.Encoding
