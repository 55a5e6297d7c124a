import SymbolTags.Encoding.Codec
import SymbolTags.File.Store
import SymbolTags.Tagging.Source

namespace SymbolTags

/-!
# Tagging files

`readSource` reads a source file and blanks its `#!` line; `tagFile` reads and tags it.  The
codecs are given from outside, unless those worked out in this library are enough.
-/

/-- Empties a first line that starts with `#!`; its line break stays, so lines keep their
    numbers. -/
def blankShebang : List Char → List Char
  | '#' :: '!' :: rest => rest.dropWhile (· != '\n')
  | cs => cs

/-- Why a file that was read has no text. -/
def TagError.ofDecodeError (path : String) : Encoding.DecodeError → TagError
  | .failed message => .codec message
  | e => .unreadable path e.message

/-- The text of a source file. -/
def readSource (fs : File.Files) (settings : Settings) (path : String)
    (decoder : Encoding.Decoder := Encoding.decode) : Except TagError String := do
  if File.hasNull path then throw .nullInPath
  let bytes ← (fs.read path).mapError fun e => .unreadable path e.reason
  let cs ← (decoder settings.encoding bytes).mapError (.ofDecodeError path)
  return String.ofList (if settings.stripShebang then blankShebang cs else cs)

/-- Reads and tags a file, which is reported under its path. -/
def tagFile (parser : Parser) (fs : File.Files) (settings : Settings) (path : String)
    (offsets : Offsets := {}) (decoder : Encoding.Decoder := Encoding.decode)
    (sink : Log.Sink := .library) : TagRun :=
  match readSource fs settings path decoder with
  | .error e => { result := .error e }
  | .ok source => tagSource parser settings source (some path) offsets sink

end SymbolTags
