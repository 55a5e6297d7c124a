import SymbolTags.Log.Row

namespace SymbolTags.Log

/-!
# Log rows as JSON

A row of a log file is a JSON object on a line of its own, with the time of writing, in ASCII
characters and with its members in the order of their names.
-/

/-- A row of a log file as a line, given the time of writing. -/
def LogRow.line (row : LogRow) (time : String) : String :=
  (Data.table (Fields.set row timeField (.str time))).sorted.asciiJson ++ "\n"

/-- Rows of a log file as bytes. -/
def rowBytes (rows : List LogRow) (time : String) : List UInt8 :=
  rows.flatMap fun row => (row.line time).toUTF8.toList

end SymbolTags.Log
