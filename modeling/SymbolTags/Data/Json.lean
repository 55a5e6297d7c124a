import SymbolTags.Data
import SymbolTags.Text.JsonString

namespace SymbolTags.Data

/-!
# Plain values as JSON

* `Data.json` writes a value on one line, with a blank behind each comma and colon, and
  `Data.asciiJson` does so in ASCII characters.  Dates and times become texts, and so do errors
  and objects, in their written form;
* `Data.foreignType?` finds what is no value of JSON;
* `Data.sorted` puts the entries of all tables in the order of their names.
-/

mutual

/-- A value as JSON, given how texts are written. -/
def jsonWith (string : String → String) : Data → String
  | null => "null"
  | bool true => "true"
  | bool false => "false"
  | int n => toString n
  | decimal d => d.text
  | str s => string s
  | moment text => string text
  | list items => "[" ++ ", ".intercalate (jsonItems string items) ++ "]"
  | table entries => Text.jsonObjectWith string (jsonMembers string entries)
  | settings s => string (quotedSettings s)
  | fault message => string (quotedFault message)
  | object _ written => string written

/-- The items of a list as JSON. -/
def jsonItems (string : String → String) : List Data → List String
  | [] => []
  | d :: rest => d.jsonWith string :: jsonItems string rest

/-- The entries of a table with their values as JSON. -/
def jsonMembers (string : String → String) : List (String × Data) → List (String × String)
  | [] => []
  | (k, d) :: rest => (k, d.jsonWith string) :: jsonMembers string rest

end

/-- A value as JSON. -/
def json (d : Data) : String :=
  d.jsonWith Text.jsonString

/-- A value as JSON in ASCII characters. -/
def asciiJson (d : Data) : String :=
  d.jsonWith Text.asciiJsonString

mutual

/-- The name of the type of the first part of a value that is no value of JSON. -/
def foreignType? : Data → Option String
  | settings s => some (settings s).typeName
  | fault message => some (fault message).typeName
  | object type _ => some type
  | list items => foreignItem? items
  | table entries => foreignMember? entries
  | _ => none

/-- The name of the first foreign type in a list. -/
def foreignItem? : List Data → Option String
  | [] => none
  | d :: rest => d.foreignType?.or (foreignItem? rest)

/-- The name of the first foreign type among the entries of a table. -/
def foreignMember? : List (String × Data) → Option String
  | [] => none
  | (_, d) :: rest => d.foreignType?.or (foreignMember? rest)

end

/-- Named values in the order of their names. -/
def sortedEntries (entries : List (String × Data)) : List (String × Data) :=
  entries.mergeSort fun a b => a.1 ≤ b.1

mutual

/-- A value with the entries of its tables in the order of their names. -/
def sorted : Data → Data
  | list items => list (sortedItems items)
  | table entries => table (sortedEntries (sortedParts entries))
  | d => d

/-- Sorts the tables in the items of a list. -/
def sortedItems : List Data → List Data
  | [] => []
  | d :: rest => d.sorted :: sortedItems rest

/-- Sorts the tables in the values of entries. -/
def sortedParts : List (String × Data) → List (String × Data)
  | [] => []
  | (k, d) :: rest => (k, d.sorted) :: sortedParts rest

end

end SymbolTags.Data
