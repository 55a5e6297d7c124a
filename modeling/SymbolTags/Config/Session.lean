import SymbolTags.Config.Check

namespace SymbolTags

/-!
# Changing a configuration

Assignments to a configuration are checked like its making, and settings do not change at all
once they are made.  A private name, which starts with an underscore, may be assigned anything
and is no part of the configuration, unless it is reserved.

* `Assignment.change` checks an assignment and says what it changes;
* `Config.assign` carries it out on a configuration;
* `Draft.assign` does so where the table that holds the fields may be replaced as well, which
  nothing checks.  It runs on a state, and whatever it writes before a refusal stays there.
  `Draft.ofConfig_apply` says that it agrees with `Config.assign` on checked changes.
-/

/-- An assignment to a field of the configuration or of its settings. -/
inductive Assignment where
  | field (name : String) (d : Data)
  | setting (name : String) (d : Data)

namespace Assignment

/-- The name that is assigned to. -/
def name : Assignment → String
  | field name _ => name
  | setting name _ => name

/-- The value that is assigned. -/
def value : Assignment → Data
  | field _ d => d
  | setting _ d => d

/-- The name of the type that is assigned to. -/
def owner : Assignment → String
  | field _ _ => "AppConfig"
  | setting _ _ => "TaggerSettings"

end Assignment

/-- A private name. -/
def isPrivate (name : String) : Bool :=
  name.toList.head? == some '_'

/-! ### Reserved names -/

/-- Public names that can only be read. -/
def readOnlyNames : List String :=
  ["model_extra", "model_fields_set"]

/-- Private names that can only be read. -/
def readOnlyPrivateNames : List String :=
  ["__fields__", "__fields_set__"]

/-- The name of the type of a value. -/
def classField : String := "__class__"

/-- The name of the table of all fields. -/
def tableField : String := "__dict__"

/-- The name of the list of those who look at a value without keeping it. -/
def watchField : String := "__weakref__"

/-- The table that an assignment puts into the place of all fields. -/
def Assignment.newTable? (a : Assignment) : Option (Fields Data) :=
  match a.value with
  | .table entries => if a.name = tableField then some entries else none
  | _ => none

/-- Why an assignment is refused. -/
inductive AssignError where
  /-- The value is checked and found wrong. -/
  | invalid (issues : List Issue)
  | readOnly (name owner : String)
  | unwritable (name owner : String)
  /-- A type is asked for, and a value of the given type found. -/
  | notClass (type : String)
  /-- A table is asked for, and a value of the given type found. -/
  | notTable (type : String)
  /-- What is assigned to is not there. -/
  | lacking (e : Lacking)
deriving BEq, Repr, Inhabited

/-- The text of a refusal; issues are told one by one instead. -/
def AssignError.message : AssignError → String
  | invalid _ => ""
  | readOnly name owner =>
    "property " ++ Text.quoted name ++ " of " ++ Text.quoted owner ++ " object has no setter"
  | unwritable name owner =>
    "attribute " ++ Text.quoted name ++ " of " ++ Text.quoted owner ++ " objects is not writable"
  | notClass type => classField ++ " must be set to a class, not " ++ Text.quoted type ++ " object"
  | notTable type => tableField ++ " must be set to a dictionary, not a " ++ Text.quoted type
  | lacking e => e.message

/-! ### Checked changes -/

/-- What an assignment changes. -/
inductive Change where
  | nothing
  | logLevel (name : String)
  | settings (s : Settings)

namespace Assignment

/-- What an assignment to a private name changes: nothing, if it is not refused. -/
def privateChange (a : Assignment) : Except AssignError Change :=
  if a.name ∈ readOnlyPrivateNames then .error (.readOnly a.name a.owner)
  else if a.name = watchField then .error (.unwritable a.name a.owner)
  else if a.name = classField then .error (.notClass a.value.typeName)
  else if a.name = tableField then .error (.notTable a.value.typeName)
  else .ok .nothing

/-- What an assignment to a public field of a configuration changes. -/
def fieldChange (name : String) (d : Data) : Except AssignError Change :=
  if name = levelName then
    match checkLogLevel d with
    | .ok level => .ok (.logLevel level)
    | .error kind => .error (.invalid [⟨[levelName], kind, d⟩])
  else if name = settingsName then ((checkSettings d).map .settings).mapError .invalid
  else if name ∈ readOnlyNames then .error (.readOnly name (field name d).owner)
  else .error (.invalid [⟨[name], .noSuchAttribute name, d⟩])

/-- What an assignment changes, or the reason for refusing it.  The table of fields is not
    changed like this. -/
def change (a : Assignment) : Except AssignError Change :=
  if isPrivate a.name then a.privateChange
  else
    match a with
    | .field name d => fieldChange name d
    | .setting name d => .error (.invalid [⟨[name], .frozenInstance, d⟩])

end Assignment

namespace Config

/-- The configuration after a change. -/
def apply (c : Config) : Change → Config
  | .nothing => c
  | .logLevel logLevel => { c with logLevel }
  | .settings settings => { c with settings }

/-- The configuration after an assignment, or the reason for refusing it. -/
def assign (c : Config) (a : Assignment) : Except AssignError Config :=
  a.change.map c.apply

/-- The configuration after an assignment, which a refused one does not change. -/
def after (c : Config) (a : Assignment) : Config :=
  match c.assign a with
  | .ok c' => c'
  | .error _ => c

end Config

/-! ### Unchecked tables -/

/-- The settings as named values. -/
def Settings.table (s : Settings) : Fields Data :=
  [("verbose", .bool s.verbose), ("require_policy", .bool s.requirePolicy),
   ("module_retry", .bool s.moduleRetry), ("jsx", .bool s.jsx),
   ("strip_shebang", .bool s.stripShebang), ("encoding", .str s.encoding)]

/-- What stands in the place of the settings. -/
inductive DraftSettings where
  /-- Settings with any values under their names, or without some of them. -/
  | fields (table : Fields Data)
  /-- A value that is none. -/
  | value (d : Data)

/-- A value in the place of the settings. -/
def DraftSettings.ofData : Data → DraftSettings
  | .settings s => fields s.table
  | d => value d

/-- A configuration of which fields may be missing or hold anything. -/
structure Draft where
  logLevel : Option Data := none
  settings : Option DraftSettings := none

namespace Draft

/-- A checked configuration. -/
def ofConfig (c : Config) : Draft where
  logLevel := some (.str c.logLevel)
  settings := some (.fields c.settings.table)

/-- The fields of a draft as named values. -/
def table (d : Draft) : Fields Data :=
  let settings := d.settings.map fun
    | .fields table => (settingsName, Data.table table)
    | .value v => (settingsName, v)
  (d.logLevel.map fun l => (levelName, l)).toList ++ settings.toList

/-- Null settings are dropped with the next change. -/
def withoutNull (d : Draft) : Draft :=
  match d.settings with
  | some (.value .null) => { d with settings := none }
  | _ => d

/-- The draft after a checked change. -/
def apply (d : Draft) : Change → Draft
  | .nothing => d
  | .logLevel level => { d.withoutNull with logLevel := some (.str level) }
  | .settings s => { d with settings := some (.fields s.table) }

/-- Checked changes do the same to a configuration and to its draft. -/
theorem ofConfig_apply (c : Config) (change : Change) :
    ofConfig (c.apply change) = (ofConfig c).apply change := by
  cases change <;> rfl

/-- Why an assignment reaches no settings. -/
def settingsFault? (d : Draft) (a : Assignment) : Option AssignError :=
  match d.settings with
  | some (.fields _) => none
  | some (.value v) =>
    some (if a.name = classField then .notClass a.value.typeName
      else .lacking ⟨v.typeName, a.name⟩)
  | none => some (.lacking ⟨(Assignment.field a.name a.value).owner, settingsName⟩)

/-- Replaces the table of fields of a configuration. -/
def replaced (entries : Fields Data) : Draft where
  logLevel := Fields.get? entries levelName
  settings := (Fields.get? entries settingsName).map .ofData

/-- Replaces the table of fields of the settings. -/
def withSettings (d : Draft) (entries : Fields Data) : Draft :=
  let names := ({} : Settings).table.map Prod.fst
  { d with settings := some (.fields (entries.filter fun p => names.contains p.1)) }

/-- Changes of a draft that may be refused.  A refusal does not take back what is done before. -/
abbrev Drafting := ExceptT AssignError (StateM Draft)

/-- Checks an assignment, and then changes what it changes. -/
def carryOut (a : Assignment) : Drafting Unit := do
  let change ← MonadExcept.ofExcept a.change
  modify fun d => d.apply change

/-- Carries out an assignment. -/
def assign (a : Assignment) : Drafting Unit := do
  match a with
  | .field _ _ =>
    match a.newTable? with
    | some entries => set (replaced entries)
    | none => carryOut a
  | .setting _ _ =>
    if let some e := (← get).settingsFault? a then throw e
    match a.newTable? with
    | some entries => modify fun d => d.withSettings entries
    | none => carryOut a

/-- How an assignment to a draft ends, and the draft after it. -/
def assigned (d : Draft) (a : Assignment) : Except AssignError Unit × Draft :=
  Id.run ((assign a).run.run d)

end Draft

end SymbolTags
