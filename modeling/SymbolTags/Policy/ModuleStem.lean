import SymbolTags.Data
import SymbolTags.Text.Trim

namespace SymbolTags

/-!
# Module stems

`moduleStem` gives the name that a module specifier suggests for its binding: the last
component of the path without one of the known extensions.
-/

/-- Extensions that a specifier may carry. -/
def moduleExtensions : List (List Char) :=
  [".js".toList, ".mjs".toList, ".cjs".toList, ".json".toList]

/-- What follows the last slash. -/
def lastComponent (cs : List Char) : List Char :=
  (cs.reverse.takeWhile (· != '/')).reverse

/-- Takes the first extension of the list that leaves something in front of it off. -/
def dropExtension (extensions : List (List Char)) (base : List Char) : List Char :=
  match extensions.find? fun e => e.isSuffixOf base && e.length < base.length with
  | some e => base.take (base.length - e.length)
  | none => base

/-- The stem of a specifier, on characters. -/
def stemChars (cs : List Char) : List Char :=
  dropExtension moduleExtensions (lastComponent (Text.dropEndWhile (· == '/') cs))

/-- The binding name that a module specifier suggests. -/
def moduleStem (specifier : String) : String :=
  String.ofList (stemChars specifier.toList)

/-- The binding names that specifiers suggest, which have to be texts. -/
def moduleStems (specifiers : List Data) : Except Lacking (List String) :=
  specifiers.mapM fun s => (s.textFor "rstrip").map moduleStem

end SymbolTags
