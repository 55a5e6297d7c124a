import SymbolTags.Data.Json
import SymbolTags.Report.Tag

namespace SymbolTags

/-!
# Tags as JSON

`Tag.json` writes a tag as a JSON object on one line, with the fields in their order and
with a blank behind each comma and colon.  `Tag.jsonFault?` tells when that cannot be done.
-/

/-- A tag as a JSON object. -/
def Tag.json (t : Tag) : String :=
  Text.jsonObject
    [("kind", Text.jsonString t.kind.letter), ("name", t.name.json),
     ("path", Text.jsonString t.path), ("line", toString t.line),
     ("column", toString t.column), ("source_line", Text.jsonString t.sourceLine)]

/-- Why a tag cannot be written as JSON. -/
def Tag.jsonFault? (t : Tag) : Option WriteError :=
  (t.name.foreignType?.map .notSerializable).or
    (digitsFault? [t.name, .int t.line, .int t.column])

end SymbolTags
