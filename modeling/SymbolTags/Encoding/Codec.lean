import SymbolTags.Encoding.Utf16
import SymbolTags.Encoding.Utf8

namespace SymbolTags.Encoding

/-!
# Codecs by name

A `Decoder` decodes bytes by the codec that a name stands for.  There are many codecs, and which
of them are at hand is up to the surroundings; `decode` is a decoder that knows the most common
ones.  It compares names by their letters, digits and dots: letter case does not count, and any
run of other characters stands for one separator.  A codec has names of its own and aliases; in
an alias a dot may stand for a separator as well.
-/

/-- The codecs that are worked out here. -/
inductive Codec where
  | utf8
  | utf8Signed
  | ascii
  | latin1
  | utf16
  | utf16Little
  | utf16Big
  /-- A transformation that does not yield text. -/
  | notText
deriving DecidableEq, Repr, Inhabited

/-- Why bytes have no text. -/
inductive DecodeError where
  | unknownEncoding (name : String)
  | notText (name : String)
  | fault (f : Fault)
  /-- An error that is neither about the name nor about the bytes. -/
  | failed (message : String)
deriving DecidableEq, Repr, Inhabited

/-- The text of an error. -/
def DecodeError.message : DecodeError → String
  | unknownEncoding name => "unknown encoding: " ++ name
  | notText name =>
    "'" ++ name ++ "' is not a text encoding; use codecs.decode() to handle arbitrary codecs"
  | fault f => f.message
  | failed message => message

/-- Decodes bytes by the codec of a name. -/
abbrev Decoder := String → List UInt8 → Except DecodeError (List Char)

/-- The canonical form of a name, `pending` telling that a separator is due. -/
def canonicalFrom (pending : Bool) (atStart : Bool) : List Char → List Char
  | [] => []
  | c :: rest =>
    if c.isAlphanum || c == '.' then
      (if pending && !atStart then ['_', c.toLower] else [c.toLower]) ++
        canonicalFrom false false rest
    else canonicalFrom true atStart rest

/-- The canonical form of a name. -/
def canonicalName (name : String) : String :=
  String.ofList (canonicalFrom false true name.toList)

/-- The names of a codec, in canonical form. -/
structure CodecNames where
  codec : Codec
  own : List String
  aliases : List String

/-- The codecs that are worked out here, with their names. -/
def codecNames : List CodecNames :=
  [⟨.utf8, ["utf_8"], ["u8", "utf", "utf8", "utf8_ucs2", "utf8_ucs4", "cp65001"]⟩,
   ⟨.utf8Signed, ["utf_8_sig"], []⟩,
   ⟨.ascii, ["ascii"],
     ["646", "ansi_x3.4_1968", "ansi_x3_4_1968", "ansi_x3.4_1986", "cp367", "csascii", "ibm367",
      "iso646_us", "iso_646.irv_1991", "iso_ir_6", "us", "us_ascii"]⟩,
   ⟨.latin1, ["latin_1"],
     ["8859", "cp819", "csisolatin1", "ibm819", "iso8859", "iso8859_1", "iso_8859_1",
      "iso_8859_1_1987", "iso_ir_100", "l1", "latin", "latin1"]⟩,
   ⟨.utf16, ["utf_16"], ["u16", "utf16"]⟩,
   ⟨.utf16Little, ["utf_16_le"], ["unicodelittleunmarked", "utf_16le"]⟩,
   ⟨.utf16Big, ["utf_16_be"], ["unicodebigunmarked", "utf_16be"]⟩,
   ⟨.notText,
     ["hex_codec", "rot_13", "base64_codec", "bz2_codec", "quopri_codec", "uu_codec",
      "zlib_codec"],
     ["hex", "rot13", "base64", "base_64", "bz2", "quopri", "quoted_printable",
      "quotedprintable", "uu", "zip", "zlib"]⟩]

/-- A canonical name with its dots as separators. -/
def undotted (name : String) : String :=
  String.ofList (name.toList.map fun c => if c = '.' then '_' else c)

/-- The codec that a name stands for, if it is one of these. -/
def Codec.ofName? (name : String) : Option Codec :=
  let canonical := canonicalName name
  (codecNames.find? fun n =>
    canonical ∈ n.own || canonical ∈ n.aliases || undotted canonical ∈ n.aliases).map (·.codec)

/-- Decodes bytes below 128. -/
def decodeAsciiFrom (position : Nat) : List UInt8 → Except Fault (List Char)
  | [] => .ok []
  | a :: rest =>
    if a < 0x80 then do
      let cs ← decodeAsciiFrom (position + 1) rest
      return Char.ofNat a.toNat :: cs
    else .error ⟨"ascii", position, position + 1, a, "ordinal not in range(128)"⟩

/-- Decodes bytes by a codec, which bears the given name. -/
def Codec.decode (name : String) (bytes : List UInt8) : Codec → Except DecodeError (List Char)
  | notText => .error (.notText name)
  | utf8 => (decodeUtf8 bytes).mapError .fault
  | utf8Signed => (decodeUtf8Signed bytes).mapError .fault
  | ascii => (decodeAsciiFrom 0 bytes).mapError .fault
  | latin1 => .ok (bytes.map fun b => Char.ofNat b.toNat)
  | utf16 => (decodeUtf16 bytes).mapError .fault
  | utf16Little => (decodeUtf16With .little bytes).mapError .fault
  | utf16Big => (decodeUtf16With .big bytes).mapError .fault

/-- The text of the refusal of a name with a null character. -/
def nullMessage : String := "embedded null character"

/-- Decodes bytes by the codec that a name stands for, if it is one of those worked out here.
    Where there are no bytes, there is nothing to decode and the name is not looked up. -/
def decode : Decoder := fun name bytes =>
  if name.toList.contains (Char.ofNat 0) then .error (.failed nullMessage)
  else if bytes.isEmpty then .ok []
  else
    match Codec.ofName? name with
    | none => .error (.unknownEncoding name)
    | some codec => codec.decode name bytes

end SymbolTags.Encoding
