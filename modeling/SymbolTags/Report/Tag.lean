import SymbolTags.Data
import SymbolTags.Verdict

namespace SymbolTags

/-!
# Tags and diagnostics

* a `Tag` reports one definition or reference, a `Diagnostic` a name at a place that no
  rule covers, and a `Report` both for one source.  A name is a text, unless the parser
  gave another value for it;
* `Tag.render` and `Diagnostic.describe` are the text forms, with columns from 1;
  `Tag.renderFault?` and `Diagnostic.describeFault?` tell when there is no such form.
-/

/-- The kind of a tag. -/
inductive TagKind where
  | definition
  | reference
deriving DecidableEq, Repr, Inhabited

/-- A word, or what stands in its place, that means none of the values of a type. -/
structure UnknownWord where
  word : Data
  type : String
deriving BEq, Repr, Inhabited

/-- The text of the refusal. -/
def UnknownWord.message (e : UnknownWord) : String :=
  e.word.quoted ++ " is not a valid " ++ e.type

/-- A verdict that yields no tag. -/
structure Untagged where
  verdict : Verdict
deriving DecidableEq, Repr, Inhabited

/-- The text of the refusal. -/
def Untagged.message (e : Untagged) : String :=
  "Verdict " ++ Text.quoted e.verdict.label ++ " does not produce a tag"

/-- Reads a verdict off its word. -/
def Verdict.read (word : Data) : Except UnknownWord Verdict :=
  match word.str?.bind Verdict.ofLabel? with
  | some v => .ok v
  | none => .error ⟨word, "Verdict"⟩

namespace TagKind

/-- The letter in the first column of the output. -/
def letter : TagKind → String
  | definition => "D"
  | reference => "R"

/-- Reads a kind off its letter. -/
def read (word : Data) : Except UnknownWord TagKind :=
  if word.str? = some definition.letter then .ok definition
  else if word.str? = some reference.letter then .ok reference
  else .error ⟨word, "TagKind"⟩

/-- The kind of the tag that a verdict yields, if it yields one. -/
def ofVerdict? : Verdict → Option TagKind
  | .definition => some definition
  | .reference => some reference
  | _ => none

/-- The kind of the tag that a verdict yields. -/
def ofVerdict (v : Verdict) : Except Untagged TagKind :=
  match ofVerdict? v with
  | some k => .ok k
  | none => .error ⟨v⟩

/-- Exactly the tagged verdicts have a kind. -/
theorem isSome_ofVerdict? (v : Verdict) : (ofVerdict? v).isSome = v.isTagged := by
  cases v <;> rfl

end TagKind

/-- Why something cannot be written. -/
inductive WriteError where
  | tooManyDigits
  /-- A value is no value of JSON. -/
  | notSerializable (type : String)
deriving DecidableEq, Repr, Inhabited

/-- The text of an error. -/
def WriteError.message : WriteError → String
  | tooManyDigits => Text.digitsMessage ""
  | notSerializable type => "Object of type " ++ type ++ " is not JSON serializable"

/-- Values with numbers of too many digits cannot be written. -/
def digitsFault? (ds : List Data) : Option WriteError :=
  if ds.all Data.isWritable then none else some .tooManyDigits

/-- One tagged occurrence of a name.  Lines count from 1 and columns from 0. -/
structure Tag where
  kind : TagKind
  name : Data
  path : String
  line : Int
  column : Int
  sourceLine : String := ""
deriving BEq, Repr, Inhabited

/-- The text form `KIND,NAME,PATH,LINE:COLUMN,SOURCE_LINE`. -/
def Tag.render (t : Tag) : String :=
  t.kind.letter ++ "," ++ t.name.text ++ "," ++ t.path ++ "," ++ toString t.line ++ ":" ++
    toString (t.column + 1) ++ "," ++ t.sourceLine

/-- Why a tag has no text form. -/
def Tag.renderFault? (t : Tag) : Option WriteError :=
  digitsFault? [t.name, .int t.line, .int (t.column + 1)]

/-- A name at a place without a rule. -/
structure Diagnostic where
  name : Data
  path : String
  line : Int
  column : Int
  /-- The place, or a mark for the root. -/
  place : String
  /-- The way from the root down to the name. -/
  trace : List String := []
  sourceLine : String := ""
deriving BEq, Repr, Inhabited

/-- The text form of a diagnostic. -/
def Diagnostic.describe (d : Diagnostic) : String :=
  "Unknown Identifier : " ++ d.name.text ++ " at " ++ d.path ++ " " ++ toString d.line ++ ":" ++
    toString (d.column + 1) ++ "," ++ d.sourceLine ++ " (" ++ d.place ++ ")"

/-- Why a diagnostic has no text form. -/
def Diagnostic.describeFault? (d : Diagnostic) : Option WriteError :=
  digitsFault? [d.name, .int d.line, .int (d.column + 1)]

/-- Tags, diagnostics and tolerated parse errors of one source. -/
structure Report where
  path : String
  tags : List Tag := []
  diagnostics : List Diagnostic := []
  warnings : List String := []
deriving BEq, Repr, Inhabited

/-- The text forms of all tags. -/
def Report.render (r : Report) : List String :=
  r.tags.map Tag.render

/-- Why some tag of a report has no text form. -/
def Report.renderFault? (r : Report) : Option WriteError :=
  r.tags.findSome? Tag.renderFault?

/-- Why some tag or diagnostic of a report has no text form. -/
def Report.fault? (r : Report) : Option WriteError :=
  r.renderFault?.or (r.diagnostics.findSome? Diagnostic.describeFault?)

end SymbolTags
