import SymbolTags.Data

namespace SymbolTags

/-!
# Issues — what is wrong with a configuration

An `Issue` has a location, a kind and the value that is found wrong.  All issues of a
configuration are reported together, in the order in which the fields are declared.
`Issue.text` tells an issue as it is told to people, without links.
-/

/-- What is wrong with a value. -/
inductive IssueKind where
  /-- A number or text that stands for no truth value. -/
  | boolParsing
  /-- A value of a kind that cannot stand for a truth value. -/
  | boolType
  /-- A value that is not a text. -/
  | stringType
  /-- A value that is neither a table of settings nor settings. -/
  | modelType
  /-- A text that a field does not accept, for the given reason. -/
  | valueError (reason : String)
  /-- Settings do not change once they are made. -/
  | frozenInstance
  /-- A configuration has no such field. -/
  | noSuchAttribute (name : String)
deriving DecidableEq, Repr, Inhabited

/-- The code word of a kind. -/
def IssueKind.code : IssueKind → String
  | boolParsing => "bool_parsing"
  | boolType => "bool_type"
  | stringType => "string_type"
  | modelType => "model_type"
  | valueError _ => "value_error"
  | frozenInstance => "frozen_instance"
  | noSuchAttribute _ => "no_such_attribute"

/-- The message of a kind. -/
def IssueKind.message : IssueKind → String
  | boolParsing => "Input should be a valid boolean, unable to interpret input"
  | boolType => "Input should be a valid boolean"
  | stringType => "Input should be a valid string"
  | modelType => "Input should be a valid dictionary or instance of TaggerSettings"
  | valueError reason => "Value error, " ++ reason
  | frozenInstance => "Instance is frozen"
  | noSuchAttribute name => "Object has no attribute " ++ Text.quoted name

/-- Something wrong at a location. -/
structure Issue where
  loc : List String
  kind : IssueKind
  /-- The value that is found wrong. -/
  input : Data
deriving BEq, Repr, Inhabited

/-! ### Texts -/

/-- The longest beginning that fits into a number of bytes. -/
def fitting : Nat → List Char → List Char
  | _, [] => []
  | room, c :: cs =>
    if c.utf8Size ≤ room then c :: fitting (room - c.utf8Size) cs else []

/-- How many bytes of a written value are shown; of longer ones the two ends are. -/
def shownBytes : Nat := 50

/-- A text of which the middle is left out if it is long. -/
def shortened (s : String) : String :=
  if s.utf8ByteSize ≤ shownBytes then s
  else
    String.ofList (fitting 25 s.toList) ++ "..." ++
      String.ofList (fitting 24 s.toList.reverse).reverse

/-- The text of an issue: the location, the message, and the value that is found wrong. -/
def Issue.text (i : Issue) : String :=
  ".".intercalate i.loc ++ "\n  " ++ i.kind.message ++ " [type=" ++ i.kind.code ++
    ", input_value=" ++ shortened i.input.quoted ++ ", input_type=" ++ i.input.typeName ++ "]"

end SymbolTags
