import SymbolTags.Data

namespace SymbolTags

/-!
# Layers of configuration

`mergeTables` writes one table over another: where both hold a table under a name, the two
are merged, and everywhere else the upper value replaces the lower one.
-/

mutual

/-- The value that an upper value leaves of a lower one. -/
def mergeData (lower : Data) : Data → Data
  | .table upper =>
    match lower with
    | .table entries => .table (mergeTables entries upper)
    | _ => .table upper
  | .null => .null
  | .bool b => .bool b
  | .int n => .int n
  | .decimal d => .decimal d
  | .str s => .str s
  | .moment text => .moment text
  | .list items => .list items
  | .settings s => .settings s
  | .fault message => .fault message
  | .object type written => .object type written

/-- Writes the entries of an upper table over a lower one. -/
def mergeTables (lower : List (String × Data)) : List (String × Data) → List (String × Data)
  | [] => lower
  | (name, d) :: rest =>
    let merged :=
      match Fields.get? lower name with
      | some old => mergeData old d
      | none => d
    mergeTables (Fields.set lower name merged) rest

end

end SymbolTags
