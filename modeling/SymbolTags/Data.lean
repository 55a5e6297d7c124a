import SymbolTags.Config.Settings
import SymbolTags.Decimal
import SymbolTags.Fields
import SymbolTags.Text.Numeral
import SymbolTags.Text.Quoted

namespace SymbolTags

/-!
# Data — plain structured values

The values of configuration tables and of log fields:

* `Data` has null, truth values, integers, decimals, texts, dates and times, lists and
  tables; a configuration may also hold settings that have been made already, and a log field
  an error or an object that a parser made;
* `Data.typeName` is the name of a value's type, and `Data.isTruthy` says which values count
  as set;
* `Data.quoted` writes a value with its texts in quotes, `Data.text` writes a bare text
  as it is and everything else as `quoted` does;
* `Data.isWritable` says whether the numbers in a value are short enough for that.
-/

/-- A value of a type is asked for what values of this type do not have. -/
structure Lacking where
  type : String
  ability : String
deriving DecidableEq, Repr, Inhabited

/-- The text of the refusal. -/
def Lacking.message (e : Lacking) : String :=
  Text.quoted e.type ++ " object has no attribute " ++ Text.quoted e.ability

/-- A plain value: a scalar, a list or a table of named values. -/
inductive Data where
  | null
  | bool (b : Bool)
  | int (n : Int)
  | decimal (d : Decimal)
  | str (s : String)
  /-- A date, a time or both, as it is written. -/
  | moment (text : String)
  | list (items : List Data)
  | table (entries : List (String × Data))
  /-- Settings that have been made already, whether or not anything checked them then. -/
  | settings (s : Settings)
  /-- An error, by its message if it has one. -/
  | fault (message : Option String)
  /-- An object, by the name of its type and its written form. -/
  | object (type written : String)
deriving Repr, Inhabited, BEq

namespace Data

/-- The text of a text value. -/
def str? : Data → Option String
  | str s => some s
  | _ => none

/-- The value is null. -/
def isNull : Data → Bool
  | null => true
  | _ => false

/-- The value is a table. -/
def isTable : Data → Bool
  | table _ => true
  | _ => false

/-- The name of the type of a value. -/
def typeName : Data → String
  | null => "NoneType"
  | bool _ => "bool"
  | int _ => "int"
  | decimal _ => "float"
  | str _ => "str"
  | moment _ => "datetime"
  | list _ => "list"
  | table _ => "dict"
  | settings _ => "TaggerSettings"
  | fault _ => "Error"
  | object type _ => type

/-- Null, false, zero and everything empty count as not set. -/
def isTruthy : Data → Bool
  | null => false
  | bool b => b
  | int n => n != 0
  | decimal d => d.integer? != some 0
  | str s => s != ""
  | list items => !items.isEmpty
  | table entries => !entries.isEmpty
  | _ => true

/-- The text of a value that has to be one, for the sake of what texts can do. -/
def textFor (ability : String) : Data → Except Lacking String
  | str s => .ok s
  | d => .error ⟨d.typeName, ability⟩

/-- The name of the type of records. -/
def recordType : String := "SimpleNamespace"

/-- The written form of null. -/
def nullText : String := "None"

/-- The written form of an error. -/
def quotedFault (message : Option String) : String :=
  "Error(" ++ message.elim nullText Text.quoted ++ ")"

/-- The written form of a truth value. -/
def boolText (b : Bool) : String :=
  if b then "True" else "False"

/-- Settings as names with written values. -/
def settingsParts (s : Settings) : List String :=
  ["verbose=" ++ boolText s.verbose, "require_policy=" ++ boolText s.requirePolicy,
   "module_retry=" ++ boolText s.moduleRetry, "jsx=" ++ boolText s.jsx,
   "strip_shebang=" ++ boolText s.stripShebang, "encoding=" ++ Text.quoted s.encoding]

/-- The written form of settings. -/
def quotedSettings (s : Settings) : String :=
  "TaggerSettings(" ++ ", ".intercalate (settingsParts s) ++ ")"

mutual

/-- The written form of a value, texts in quotes. -/
def quoted : Data → String
  | null => nullText
  | bool b => boolText b
  | int n => toString n
  | decimal d => d.text
  | str s => Text.quoted s
  | moment text => text
  | list items => "[" ++ quotedItems items ++ "]"
  | table entries => "\x7b" ++ quotedEntries entries ++ "\x7d"
  | settings s => quotedSettings s
  | fault message => quotedFault message
  | object _ written => written

/-- The written forms of list items, divided by commas. -/
def quotedItems : List Data → String
  | [] => ""
  | [d] => quoted d
  | d :: rest => quoted d ++ ", " ++ quotedItems rest

/-- The written forms of table entries, divided by commas. -/
def quotedEntries : List (String × Data) → String
  | [] => ""
  | [(k, d)] => Text.quoted k ++ ": " ++ quoted d
  | (k, d) :: rest => Text.quoted k ++ ": " ++ quoted d ++ ", " ++ quotedEntries rest

end

/-- The text of a value: a text itself, the message of an error, settings without their type,
    anything else in its written form. -/
def text : Data → String
  | str s => s
  | settings s => " ".intercalate (settingsParts s)
  | fault message => message.getD nullText
  | d => quoted d

mutual

/-- The numbers in a value have few enough digits for it to be written. -/
def isWritable : Data → Bool
  | int n => Text.isWritable n
  | list items => areWritable items
  | table entries => haveWritable entries
  | _ => true

/-- The same for all items of a list. -/
def areWritable : List Data → Bool
  | [] => true
  | d :: rest => d.isWritable && areWritable rest

/-- The same for the values of all entries. -/
def haveWritable : List (String × Data) → Bool
  | [] => true
  | (_, d) :: rest => d.isWritable && haveWritable rest

end

end Data

end SymbolTags
