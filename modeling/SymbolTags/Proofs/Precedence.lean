import Mathlib.Data.List.Nodup
import Mathlib.Data.Option.Basic
import SymbolTags.Config.Load

namespace SymbolTags

/-!
# Precedence — which layer decides a field

A configuration is checked after all layers have been merged.  This file says what the merge
comes to, field by field:

* `Layers.top?` and `Layers.topSetting?` — the value of the highest layer that holds a name, at
  the top of a configuration and among its settings;
* `valueIn` — the value that layers give a name.  It is the topmost one, but a table is written
  over the tables below it;
* `Layers.payload` and `Layers.decided` — the tables that hold these values for all fields of a
  configuration, and nothing else;
* `get?_mergeTables` and `get?_settingsOf_mergeTables` — what one merge leaves under a name, and
  `get?_mergeStack` — what all merges leave;
* `loadConfig_precedence` — layers load as the table of their values does.

No field is a table, so one that is given tables is always at fault, and the two tables of values
differ in what is told to be wrong alone: `Issue.outline` leaves that out.
-/

/-! ### Merging two tables -/

/-- Every name has one entry at most. -/
def Fields.Distinct {α : Type} (fs : Fields α) : Prop :=
  (fs.map Prod.fst).Nodup

instance {α : Type} (fs : Fields α) : Decidable fs.Distinct :=
  inferInstanceAs (Decidable (fs.map Prod.fst).Nodup)

/-- **One merge.**  A name that the upper table holds is read off it, merged with what the lower
    one holds; all other names are read off the lower table. -/
theorem get?_mergeTables {upper : Fields Data} (h : upper.Distinct) (lower : Fields Data)
    (name : String) :
    Fields.get? (mergeTables lower upper) name =
      match Fields.get? upper name, Fields.get? lower name with
      | some d, some old => some (mergeData old d)
      | some d, none => some d
      | none, old => old := by
  induction upper generalizing lower with
  | nil => rfl
  | cons p rest ih =>
    obtain ⟨key, d⟩ := p
    obtain ⟨hkey, hrest⟩ := List.nodup_cons.mp h
    rw [mergeTables, ih hrest, Fields.get?]
    by_cases hname : key = name
    · -- the rest does not hold the name again, so what has been written stays
      subst hname
      rw [Fields.get?_eq_none_of_notMem hkey, Fields.get?_set_self, if_pos rfl]
      cases Fields.get? lower key <;> rfl
    · rw [if_neg hname, Fields.get?_set_of_ne _ _ (Ne.symm hname)]

/-! ### Settings inside of tables -/

/-- The entries of the table of settings; there are none without such a table. -/
def settingsOf (table : Fields Data) : Fields Data :=
  match Fields.get? table settingsName with
  | some (.table entries) => entries
  | _ => []

/-- The settings of a table are absent, or a table themselves. -/
def HasSettings (table : Fields Data) : Prop :=
  Fields.get? table settingsName = none ∨
    Fields.get? table settingsName = some (.table (settingsOf table))

/-- They are the entries of a table that stands there. -/
theorem settingsOf_eq {table entries : Fields Data}
    (h : Fields.get? table settingsName = some (.table entries)) : settingsOf table = entries := by
  rw [settingsOf, h]

/-- Where nothing stands, there are none. -/
theorem settingsOf_eq_nil {table : Fields Data} (h : Fields.get? table settingsName = none) :
    settingsOf table = [] := by
  rw [settingsOf, h]

/-- A layer of a configuration: a table with distinct names, in which the settings are absent
    or a table with distinct names. -/
structure IsLayer (table : Fields Data) : Prop where
  distinct : table.Distinct
  hasSettings : HasSettings table
  settings_distinct : (settingsOf table).Distinct

section

variable {upper lower : Fields Data}

/-- What a merge leaves under the name of the settings. -/
theorem get?_settingsName_mergeTables (hupper : IsLayer upper) (hlower : HasSettings lower) :
    Fields.get? (mergeTables lower upper) settingsName =
        Fields.get? lower settingsName ∧ settingsOf upper = [] ∨
      Fields.get? (mergeTables lower upper) settingsName = some (.table (settingsOf upper)) ∧
        settingsOf lower = [] ∨
      Fields.get? (mergeTables lower upper) settingsName =
        some (.table (mergeTables (settingsOf lower) (settingsOf upper))) := by
  rw [get?_mergeTables hupper.distinct]
  rcases hupper.hasSettings with hu | hu
  · rw [hu]
    exact .inl ⟨rfl, settingsOf_eq_nil hu⟩
  · rcases hlower with hl | hl
    · rw [hu, hl]
      exact .inr (.inl ⟨rfl, settingsOf_eq_nil hl⟩)
    · rw [hu, hl]
      exact .inr (.inr rfl)

/-- Merging leaves settings a table, or absent. -/
theorem hasSettings_mergeTables (hupper : IsLayer upper) (hlower : HasSettings lower) :
    HasSettings (mergeTables lower upper) := by
  rcases get?_settingsName_mergeTables hupper hlower with ⟨h, -⟩ | ⟨h, -⟩ | h
  · rcases hlower with hl | hl
    · exact .inl (h.trans hl)
    · have hsame := settingsOf_eq (h.trans hl)
      exact .inr (by rw [h, hl, hsame])
  · exact .inr (by rw [h, settingsOf_eq h])
  · exact .inr (by rw [h, settingsOf_eq h])

/-- **One merge, inside of the settings.**  Settings are merged entry by entry: those of the
    upper table come first, and none of the lower ones is lost. -/
theorem get?_settingsOf_mergeTables (hupper : IsLayer upper) (hlower : HasSettings lower)
    (name : String) :
    Fields.get? (settingsOf (mergeTables lower upper)) name =
      match Fields.get? (settingsOf upper) name, Fields.get? (settingsOf lower) name with
      | some d, some old => some (mergeData old d)
      | some d, none => some d
      | none, old => old := by
  rcases get?_settingsName_mergeTables hupper hlower with ⟨h, hnil⟩ | ⟨h, hnil⟩ | h
  · have hsame : settingsOf (mergeTables lower upper) = settingsOf lower := by
      rw [settingsOf, h, settingsOf]
    rw [hsame, hnil]
    rfl
  · rw [settingsOf_eq h, hnil]
    cases Fields.get? (settingsOf upper) name <;> rfl
  · rw [settingsOf_eq h, get?_mergeTables hupper.settings_distinct]

end

/-! ### Merging all layers -/

namespace Layers

/-- The layers from the highest down; missing defaults are the packaged ones, and any other
    missing layer is empty. -/
def stack (l : Layers) : List (Fields Data) :=
  [l.flags.getD [], l.environment.getD [], l.user.getD [], l.defaults.getD Packaged.defaults]

/-- The value of the highest layer that holds a name. -/
def top? (l : Layers) (name : String) : Option Data :=
  l.stack.findSome? fun layer => Fields.get? layer name

/-- The value of the highest layer that holds a name among its settings. -/
def topSetting? (l : Layers) (name : String) : Option Data :=
  l.stack.findSome? fun layer => Fields.get? (settingsOf layer) name

/-- In every layer the names are distinct, and the settings are absent or a table. -/
def Regular (l : Layers) : Prop :=
  ∀ layer ∈ l.stack, IsLayer layer

end Layers

/-- The value that layers give a name, the highest of them first in the list.  A table is written
    over the one that the layers below give, if they give one. -/
def valueIn (name : String) : List (Fields Data) → Option Data
  | [] => none
  | layer :: rest =>
    match Fields.get? layer name, valueIn name rest with
    | some d, some old => some (mergeData old d)
    | some d, none => some d
    | none, old => old

/-- Layers merged into a table, the highest of them first in the list. -/
def mergeStack (base : Fields Data) : List (Fields Data) → Fields Data
  | [] => base
  | upper :: rest => mergeTables (mergeStack base rest) upper

/-- Layers are merged from the lowest to the highest. -/
theorem Layers.merged_eq (l : Layers) :
    l.merged = mergeStack (l.defaults.getD Packaged.defaults)
      [l.flags.getD [], l.environment.getD [], l.user.getD []] := rfl

section

variable {base : Fields Data} {uppers : List (Fields Data)}

/-- So does a row of merges. -/
theorem hasSettings_mergeStack (hbase : HasSettings base) (h : ∀ upper ∈ uppers, IsLayer upper) :
    HasSettings (mergeStack base uppers) := by
  induction uppers with
  | nil => exact hbase
  | cons upper rest ih =>
    obtain ⟨hupper, hrest⟩ := List.forall_mem_cons.mp h
    exact hasSettings_mergeTables hupper (ih hrest)

/-- **All merges.**  Under every name the merged table holds the value that the layers give the
    name, if this is true of one merge.  The tables are read through a view: as a whole, or inside
    of their settings. -/
theorem get?_mergeStack (view : Fields Data → Fields Data) {name : String}
    (hstep : ∀ {upper lower : Fields Data}, IsLayer upper → HasSettings lower →
      Fields.get? (view (mergeTables lower upper)) name =
        match Fields.get? (view upper) name, Fields.get? (view lower) name with
        | some d, some old => some (mergeData old d)
        | some d, none => some d
        | none, old => old)
    (hbase : HasSettings base) (h : ∀ upper ∈ uppers, IsLayer upper) :
    Fields.get? (view (mergeStack base uppers)) name =
      valueIn name ((uppers ++ [base]).map view) := by
  induction uppers with
  | nil =>
    show Fields.get? (view base) name = valueIn name [view base]
    rw [valueIn, valueIn]
    cases Fields.get? (view base) name <;> rfl
  | cons upper rest ih =>
    obtain ⟨hupper, hrest⟩ := List.forall_mem_cons.mp h
    rw [mergeStack, hstep hupper (hasSettings_mergeStack hbase hrest), ih hrest, List.cons_append,
      List.map_cons, valueIn]

end

/-! ### Tables in two layers -/

/-- A value is written over anything but a table, and anything but a table over a value. -/
theorem mergeData_eq_upper {lower upper : Data}
    (h : upper.isTable = false ∨ lower.isTable = false) : mergeData lower upper = upper := by
  rcases h with h | h
  · cases upper <;> first | rfl | cases h
  · cases upper <;> cases lower <;> first | rfl | cases h

/-- The values that layers hold under a name. -/
def valuesOf (name : String) (layers : List (Fields Data)) : List Data :=
  layers.filterMap fun layer => Fields.get? layer name

/-- No two layers hold tables under a name. -/
def OneTable (name : String) (layers : List (Fields Data)) : Prop :=
  (valuesOf name layers).countP Data.isTable ≤ 1

instance (name : String) (layers : List (Fields Data)) : Decidable (OneTable name layers) :=
  inferInstanceAs (Decidable (_ ≤ 1))

/-- The topmost value is the value that the layers give, unless two of them hold tables. -/
theorem valueIn_eq_findSome? {name : String} {layers : List (Fields Data)}
    (h : OneTable name layers) :
    valueIn name layers = layers.findSome? fun layer => Fields.get? layer name := by
  induction layers with
  | nil => rfl
  | cons layer rest ih =>
    unfold OneTable valuesOf at h ih
    cases hget : Fields.get? layer name with
    | none =>
      simp only [List.filterMap_cons, hget] at h
      rw [valueIn, List.findSome?_cons, hget, ih h]
    | some d =>
      simp only [List.filterMap_cons, hget, List.countP_cons] at h
      have hrest := ih (by omega)
      rw [valueIn, List.findSome?_cons, hget]
      cases hold : valueIn name rest with
      | none => rfl
      | some old =>
        rw [hold] at hrest
        -- what the rest gives is one of its values, so it and `d` are not both tables
        obtain ⟨layer', hlayer', hget'⟩ := List.exists_of_findSome?_eq_some hrest.symm
        have hmem : old ∈ rest.filterMap fun layer => Fields.get? layer name :=
          List.mem_filterMap.mpr ⟨layer', hlayer', hget'⟩
        refine congrArg some (mergeData_eq_upper ?_)
        cases hd : d.isTable with
        | false => exact .inl rfl
        | true =>
          refine .inr (Bool.not_eq_true _ ▸ fun hOld => ?_)
          have := List.countP_pos_iff.mpr ⟨old, hmem, hOld⟩
          rw [hd, if_pos rfl] at h
          omega

/-! ### Tables of values -/

/-- The names of the settings. -/
def settingNames : List String :=
  ["verbose", "require_policy", "module_retry", "jsx", "strip_shebang", "encoding"]

/-- The named values that a function knows. -/
def Fields.known (names : List String) (value? : String → Option Data) : Fields Data :=
  names.filterMap fun name => (value? name).map fun d => (name, d)

/-- A listed name has the value that it is given, and no other name has one. -/
theorem Fields.get?_known (names : List String) (value? : String → Option Data) (name : String) :
    get? (known names value?) name = if name ∈ names then value? name else none := by
  induction names with
  | nil => rfl
  | cons first rest ih =>
    -- A name without a value leaves no entry.
    have hcons : known (first :: rest) value? =
        ((value? first).map fun d => (first, d)).toList ++ known rest value? := by
      unfold known
      cases hv : value? first <;> simp [hv]
    rw [hcons]
    by_cases hname : first = name
    · subst hname
      cases hv : value? first with
      | none => simp [ih, hv]
      | some d => simp [get?]
    · cases hv : value? first <;> simp [get?, ih, hname, Ne.symm hname]

/-- The first of two tables comes first. -/
theorem Fields.get?_append {α : Type} (xs ys : Fields α) (name : String) :
    get? (xs ++ ys) name = (get? xs name).or (get? ys name) := by
  induction xs with
  | nil => rfl
  | cons p rest ih =>
    rw [List.cons_append, get?, get?]
    by_cases h : p.1 = name
    · rw [if_pos h, if_pos h]
      rfl
    · rw [if_neg h, if_neg h, ih]

namespace Layers

/-- The table of a level and settings; a field without a value is left out. -/
def tableOf (level? setting? : String → Option Data) : Fields Data :=
  Fields.known [levelName] level? ++ [(settingsName, .table (Fields.known settingNames setting?))]

/-- The level and the settings, each with the value of the highest layer that holds it. -/
def decided (l : Layers) : Fields Data :=
  tableOf l.top? l.topSetting?

/-- The level and the settings, each with the value that the layers give it. -/
def payload (l : Layers) : Fields Data :=
  tableOf (fun name => valueIn name l.stack) fun name => valueIn name (l.stack.map settingsOf)

/-- No two layers hold tables under the name of the level or of a setting. -/
def SingleTables (l : Layers) : Prop :=
  OneTable levelName l.stack ∧ ∀ name ∈ settingNames, OneTable name (l.stack.map settingsOf)

/-- Tables of equal values are equal. -/
theorem tableOf_congr {level? level'? setting? setting'? : String → Option Data}
    (hlevel : level? levelName = level'? levelName)
    (hsettings : ∀ name ∈ settingNames, setting? name = setting'? name) :
    tableOf level? setting? = tableOf level'? setting'? := by
  have hknown : Fields.known settingNames setting? = Fields.known settingNames setting'? :=
    List.filterMap_congr fun name hname => by rw [hsettings name hname]
  unfold tableOf
  rw [hknown]
  simp only [Fields.known, List.filterMap_cons, List.filterMap_nil, hlevel]

/-- Where no two layers hold tables, the topmost values are all that counts. -/
theorem SingleTables.payload_eq {l : Layers} (h : l.SingleTables) : l.payload = l.decided := by
  refine tableOf_congr (valueIn_eq_findSome? h.1) fun name hname => ?_
  rw [valueIn_eq_findSome? (h.2 name hname), List.findSome?_map]
  rfl

end Layers

/-! ### Checks -/

section

variable {table table' : Fields Data}

/-- Fields of equal values are checked alike. -/
theorem checkField_eq {α : Type} {check : Data → Except IssueKind α} {name : String}
    (h : Fields.get? table name = Fields.get? table' name) (loc : List String) (default : α) :
    checkField loc table name default check = checkField loc table' name default check := by
  unfold checkField
  rw [h]

/-- Settings of equal values are checked alike. -/
theorem Settings.ofTable_eq (loc : List String)
    (h : ∀ name ∈ settingNames, Fields.get? table name = Fields.get? table' name) :
    Settings.ofTable loc table = Settings.ofTable loc table' := by
  have hfield : ∀ {α : Type} (check : Data → Except IssueKind α), ∀ name ∈ settingNames, ∀ default,
      checkField loc table name default check = checkField loc table' name default check :=
    fun check name hname default => checkField_eq (h name hname) loc default
  unfold Settings.ofTable
  simp only [hfield _ "verbose" (by decide), hfield _ "require_policy" (by decide),
    hfield _ "module_retry" (by decide), hfield _ "jsx" (by decide),
    hfield _ "strip_shebang" (by decide), hfield _ "encoding" (by decide)]

/-- Settings that are absent or a table are checked entry by entry; absent ones take their
    defaults, as empty ones do. -/
theorem Config.ofTable_of_hasSettings (h : HasSettings table) :
    Config.ofTable table =
      let logLevel := checkField [] table levelName ({} : Config).logLevel checkLogLevel
      let settings := Settings.ofTable [settingsName] (settingsOf table)
      match logLevel, settings with
      | .ok logLevel, .ok settings => .ok { logLevel, settings }
      | _, _ => .error (issuesOf logLevel ++ issuesOf settings) := by
  unfold Config.ofTable
  rcases h with h | h
  · rw [settingsOf_eq_nil h]
    simp only [h]
    rfl
  · simp only [h]
    rfl

/-- Tables with equal levels and settings make the same configuration, or have the same issues. -/
theorem Config.ofTable_eq (htable : HasSettings table) (htable' : HasSettings table')
    (hlevel : Fields.get? table levelName = Fields.get? table' levelName)
    (hsettings : ∀ name ∈ settingNames,
      Fields.get? (settingsOf table) name = Fields.get? (settingsOf table') name) :
    Config.ofTable table = Config.ofTable table' := by
  rw [ofTable_of_hasSettings htable, ofTable_of_hasSettings htable', checkField_eq hlevel,
    Settings.ofTable_eq _ hsettings]

end

/-! ### Issues in outline -/

/-- A value without the entries of a table. -/
def Data.outline : Data → Data
  | .table _ => .table []
  | d => d

/-- An issue without the entries of a table that is found wrong. -/
def Issue.outline (i : Issue) : Issue :=
  { i with input := i.input.outline }

/-- An outcome of a check, its issues in outline. -/
abbrev Outlined {α : Type} (x : Except (List Issue) α) : Except (List Issue) α :=
  x.mapError (List.map Issue.outline)

/-- What a value leaves of a lower one looks like the value itself. -/
theorem outline_mergeData (lower upper : Data) :
    (mergeData lower upper).outline = upper.outline := by
  cases upper with
  | table entries => cases lower <;> rfl
  | _ => rfl

/-- In outline, the topmost value is the value that the layers give. -/
theorem outline_valueIn (name : String) (layers : List (Fields Data)) :
    (valueIn name layers).map Data.outline =
      (layers.findSome? fun layer => Fields.get? layer name).map Data.outline := by
  induction layers with
  | nil => rfl
  | cons layer rest ih =>
    rw [valueIn, List.findSome?_cons]
    cases Fields.get? layer name with
    | none => exact ih
    | some d =>
      -- A value given below is merged under this one, which keeps its outline.
      cases valueIn name rest with
      | none => rfl
      | some old => exact congrArg some (outline_mergeData old d)

/-- A table is as wrong as any other for a switch … -/
theorem checkBool_outline (d : Data) : checkBool d.outline = checkBool d := by
  cases d <;> rfl

/-- … and for a text. -/
theorem checkText_outline (check : String → Except String String) (d : Data) :
    checkText check d.outline = checkText check d := by
  cases d <;> rfl

section

variable {table table' : Fields Data}

/-- Fields that look alike are checked alike, in outline. -/
theorem outlined_checkField {α : Type} {check : Data → Except IssueKind α} {name : String}
    (hcheck : ∀ d, check d.outline = check d)
    (h : (Fields.get? table name).map Data.outline = (Fields.get? table' name).map Data.outline)
    (loc : List String) (default : α) :
    Outlined (checkField loc table name default check) =
      Outlined (checkField loc table' name default check) := by
  -- a check in outline sees the value in outline alone
  have hsee : ∀ table : Fields Data, Outlined (checkField loc table name default check) =
      ((Fields.get? table name).map Data.outline).elim (.ok default) fun d =>
        (check d).mapError fun kind => [⟨loc ++ [name], kind, d⟩] := by
    intro table
    unfold checkField
    cases Fields.get? table name with
    | none => rfl
    | some d =>
      have hd : check d.outline = check d := hcheck d
      simp only [Option.map_some, Option.elim_some, Outlined, hd]
      cases check d <;> rfl
  rw [hsee, hsee, h]

/-- Six checks that succeed together, or tell all their issues. -/
def together (verbose requirePolicy moduleRetry jsx stripShebang : Except (List Issue) Bool)
    (encoding : Except (List Issue) String) : Except (List Issue) Settings :=
  match verbose, requirePolicy, moduleRetry, jsx, stripShebang, encoding with
  | .ok verbose, .ok requirePolicy, .ok moduleRetry, .ok jsx, .ok stripShebang, .ok encoding =>
    .ok { verbose, requirePolicy, moduleRetry, jsx, stripShebang, encoding }
  | _, _, _, _, _, _ =>
    .error (issuesOf verbose ++ issuesOf requirePolicy ++ issuesOf moduleRetry ++ issuesOf jsx ++
      issuesOf stripShebang ++ issuesOf encoding)

/-- What is left of issues is left of those of each check. -/
theorem outlined_together (verbose requirePolicy moduleRetry jsx stripShebang :
    Except (List Issue) Bool) (encoding : Except (List Issue) String) :
    Outlined (together verbose requirePolicy moduleRetry jsx stripShebang encoding) =
      together (Outlined verbose) (Outlined requirePolicy) (Outlined moduleRetry) (Outlined jsx)
        (Outlined stripShebang) (Outlined encoding) := by
  -- with one failure among six the others count for their issues only
  cases verbose <;> cases requirePolicy <;> cases moduleRetry <;> cases jsx <;>
    cases stripShebang <;> cases encoding <;>
    simp [together, Outlined, Except.mapError, issuesOf]

/-- Settings that look alike are checked alike, in outline. -/
theorem outlined_settings (loc : List String)
    (h : ∀ name ∈ settingNames,
      (Fields.get? table name).map Data.outline = (Fields.get? table' name).map Data.outline) :
    Outlined (Settings.ofTable loc table) = Outlined (Settings.ofTable loc table') := by
  have hbool : ∀ name ∈ settingNames, ∀ default,
      Outlined (checkField loc table name default checkBool) =
        Outlined (checkField loc table' name default checkBool) :=
    fun name hname default => outlined_checkField checkBool_outline (h name hname) loc default
  -- the encoding is the one setting that is no switch
  have hencoding : ∀ default, Outlined (checkField loc table "encoding" default checkEncoding) =
      Outlined (checkField loc table' "encoding" default checkEncoding) :=
    outlined_checkField (checkText_outline _) (h "encoding" (by decide)) loc
  show Outlined (together _ _ _ _ _ _) = Outlined (together _ _ _ _ _ _)
  rw [outlined_together, outlined_together, hbool "verbose" (by decide),
    hbool "require_policy" (by decide), hbool "module_retry" (by decide), hbool "jsx" (by decide),
    hbool "strip_shebang" (by decide), hencoding]

/-- Tables that look alike make the same configuration, or have the same issues in outline. -/
theorem outlined_config (htable : HasSettings table) (htable' : HasSettings table')
    (hlevel : (Fields.get? table levelName).map Data.outline =
      (Fields.get? table' levelName).map Data.outline)
    (hsettings : ∀ name ∈ settingNames,
      (Fields.get? (settingsOf table) name).map Data.outline =
        (Fields.get? (settingsOf table') name).map Data.outline) :
    Outlined (Config.ofTable table) = Outlined (Config.ofTable table') := by
  have hcheck : ∀ d, checkLogLevel d.outline = checkLogLevel d := checkText_outline _
  have hfirst := outlined_checkField hcheck hlevel [] ({} : Config).logLevel
  have hrest := outlined_settings [settingsName] hsettings
  -- level and settings are checked side by side, and their issues told in this order
  have hboth : ∀ (x : Except (List Issue) String) (y : Except (List Issue) Settings),
      Outlined (match x, y with
        | .ok logLevel, .ok settings => .ok ({ logLevel, settings } : Config)
        | _, _ => .error (issuesOf x ++ issuesOf y)) =
      match Outlined x, Outlined y with
        | .ok logLevel, .ok settings => .ok ({ logLevel, settings } : Config)
        | _, _ => .error (issuesOf (Outlined x) ++ issuesOf (Outlined y)) := by
    intro x y
    cases x <;> cases y <;> simp [Outlined, Except.mapError, issuesOf]
  rw [Config.ofTable_of_hasSettings htable, Config.ofTable_of_hasSettings htable', hboth, hboth,
    hfirst, hrest]

end

/-! ### Loading -/

namespace Layers

variable {l : Layers}

/-- All but the defaults are layers that are merged over something. -/
theorem Regular.uppers (h : l.Regular) :
    ∀ upper ∈ [l.flags.getD [], l.environment.getD [], l.user.getD []], IsLayer upper := by
  intro upper hupper
  exact h upper (List.mem_append_left [_] hupper)

/-- The defaults are what they are merged over. -/
theorem Regular.base (h : l.Regular) : HasSettings (l.defaults.getD Packaged.defaults) :=
  (h _ (List.mem_append_right [_, _, _] (List.mem_singleton_self _))).hasSettings

/-- The merged layers hold the value that the layers give, under every name … -/
theorem Regular.get?_merged (h : l.Regular) (name : String) :
    Fields.get? l.merged name = valueIn name l.stack := by
  have hmerge := get?_mergeStack id
    (fun {upper lower} hupper _ => get?_mergeTables hupper.distinct lower name) h.base h.uppers
  rw [List.map_id] at hmerge
  rw [merged_eq]
  exact hmerge

/-- … and also under every name of a setting. -/
theorem Regular.get?_settingsOf_merged (h : l.Regular) (name : String) :
    Fields.get? (settingsOf l.merged) name = valueIn name (l.stack.map settingsOf) := by
  rw [merged_eq]
  exact get?_mergeStack settingsOf (fun hupper hlower =>
    get?_settingsOf_mergeTables hupper hlower name) h.base h.uppers

section

variable (level? setting? : String → Option Data)

/-- The table has the level that it is given. -/
theorem get?_levelName_tableOf :
    Fields.get? (tableOf level? setting?) levelName = level? levelName := by
  have hlast : ∀ d : Data, Fields.get? [(settingsName, d)] levelName = none := fun _ => rfl
  rw [tableOf, Fields.get?_append, Fields.get?_known, if_pos (List.mem_singleton_self _), hlast,
    Option.or_none]

/-- Its settings are a table. -/
theorem get?_settingsName_tableOf :
    Fields.get? (tableOf level? setting?) settingsName
      = some (.table (Fields.known settingNames setting?)) := by
  have hother : settingsName ∉ [levelName] := by decide
  rw [tableOf, Fields.get?_append, Fields.get?_known, if_neg hother]
  rfl

/-- So it has settings, as layers have them. -/
theorem hasSettings_tableOf : HasSettings (tableOf level? setting?) := by
  refine .inr ?_
  rw [get?_settingsName_tableOf, settingsOf_eq (get?_settingsName_tableOf level? setting?)]

/-- Each of them has the value that it is given. -/
theorem get?_settingsOf_tableOf {name : String} (hname : name ∈ settingNames) :
    Fields.get? (settingsOf (tableOf level? setting?)) name = setting? name := by
  rw [settingsOf_eq (get?_settingsName_tableOf level? setting?), Fields.get?_known, if_pos hname]

end

/-- The merged layers and the table of their values make the same configuration, or have the same
    issues. -/
theorem Regular.ofTable_merged (h : l.Regular) :
    Config.ofTable l.merged = Config.ofTable l.payload := by
  refine Config.ofTable_eq (hasSettings_mergeStack h.base h.uppers) (hasSettings_tableOf _ _) ?_ ?_
  · rw [h.get?_merged, payload, get?_levelName_tableOf]
  · intro name hname
    rw [h.get?_settingsOf_merged, payload, get?_settingsOf_tableOf _ _ hname]

/-- The table of the values and that of the topmost values make the same configuration, or have
    the same issues in outline. -/
theorem outlined_payload (l : Layers) :
    Outlined (Config.ofTable l.payload) = Outlined (Config.ofTable l.decided) := by
  refine outlined_config (hasSettings_tableOf _ _) (hasSettings_tableOf _ _) ?_ ?_
  · rw [payload, decided, get?_levelName_tableOf, get?_levelName_tableOf]
    exact outline_valueIn levelName l.stack
  · intro name hname
    rw [payload, decided, get?_settingsOf_tableOf _ _ hname, get?_settingsOf_tableOf _ _ hname,
      outline_valueIn, List.findSome?_map]
    rfl

end Layers

/-- **Precedence holds field by field.**  Four layers, each absent, empty or with any further
    entries, load exactly as the table does in which the level and every setting have the value
    that the layers give them: the configuration is the same, and so are the issues.  This is the
    value of the highest layer that holds the field, unless two layers hold tables there; and even
    then the outcome differs in the entries of tables that are found wrong alone.  Whatever else
    the layers hold has no bearing on the outcome.  So an invalid value does no harm under a valid
    one, and a table with some settings takes none away of the others. -/
theorem loadConfig_precedence (l : Layers) (h : l.Regular) :
    loadConfig l = (Config.ofTable l.payload).mapError .invalid ∧
    (l.SingleTables → loadConfig l = (Config.ofTable l.decided).mapError .invalid) ∧
    Outlined (Config.ofTable l.merged) = Outlined (Config.ofTable l.decided) ∧
    ∀ l' : Layers, l'.Regular →
      valueIn levelName l'.stack = valueIn levelName l.stack →
      (∀ name ∈ settingNames,
        valueIn name (l'.stack.map settingsOf) = valueIn name (l.stack.map settingsOf)) →
      loadConfig l' = loadConfig l := by
  -- Validation sees the merged layers through the named fields alone.
  have hload : ∀ {l : Layers}, l.Regular →
      loadConfig l = (Config.ofTable l.payload).mapError .invalid := by
    intro l h
    rw [loadConfig, h.ofTable_merged]
  refine ⟨hload h, fun hsingle => ?_, ?_, fun l' h' hlevel hsettings => ?_⟩
  · rw [hload h, hsingle.payload_eq]
  · rw [h.ofTable_merged, l.outlined_payload]
  · have hpayload : l'.payload = l.payload := Layers.tableOf_congr hlevel hsettings
    rw [hload h, hload h', hpayload]

/-- Layers that disagree: the user's file is wrong about the level and about one switch, and the
    layers above it put both right. -/
def disputedLayers : Layers where
  user := some
    [("log_level", .table [("console", .str "info")]), ("editor", .str "vim"),
     ("tagger", .table [("jsx", .str "perhaps"), ("encoding", .str "Latin-1")])]
  environment := some [("log_level", .str "debug")]
  flags := some [("tagger", .table [("jsx", .bool true)])]

/-- Both fields are read off the layers above the file, and the encoding off the file. -/
theorem loadConfig_precedence_disputedLayers :
    disputedLayers.Regular ∧ disputedLayers.SingleTables ∧
    disputedLayers.decided =
      [("log_level", .str "debug"),
       ("tagger", .table
         [("verbose", .bool false), ("require_policy", .bool true), ("module_retry", .bool true),
          ("jsx", .bool true), ("strip_shebang", .bool true), ("encoding", .str "Latin-1")])] ∧
    loadConfig disputedLayers = (Config.ofTable disputedLayers.decided).mapError .invalid := by
  have hregular : disputedLayers.Regular := by
    intro layer hlayer
    simp only [Layers.stack, List.mem_cons, List.not_mem_nil, or_false] at hlayer
    rcases hlayer with rfl | rfl | rfl | rfl
    · exact ⟨by decide, .inr rfl, by decide⟩
    · exact ⟨by decide, .inl rfl, by decide⟩
    · exact ⟨by decide, .inr rfl, by decide⟩
    · exact ⟨by decide, .inr rfl, by decide⟩
  have hsingle : disputedLayers.SingleTables := ⟨by decide, by decide⟩
  exact ⟨hregular, hsingle, rfl,
    (loadConfig_precedence disputedLayers hregular).2.1 hsingle⟩

/-- Layers of which two hold a table for the level. -/
def tableLayers : Layers where
  defaults := some [("log_level", .table [("a", .int 1)])]
  user := some [("log_level", .table [("b", .int 2)])]

/-- What is found wrong is neither of the two tables. -/
theorem loadConfig_tableLayers :
    tableLayers.Regular ∧
    loadConfig tableLayers = .error (.invalid
      [⟨["log_level"], .stringType, .table [("a", .int 1), ("b", .int 2)]⟩]) ∧
    (Config.ofTable tableLayers.decided).mapError ConfigError.invalid = .error (.invalid
      [⟨["log_level"], .stringType, .table [("b", .int 2)]⟩]) ∧
    loadConfig tableLayers ≠
      (Config.ofTable tableLayers.decided).mapError ConfigError.invalid := by
  have hregular : tableLayers.Regular := by
    intro layer hlayer
    simp only [Layers.stack, List.mem_cons, List.not_mem_nil, or_false] at hlayer
    rcases hlayer with rfl | rfl | rfl | rfl <;> exact ⟨by decide, .inl rfl, by decide⟩
  have hmerged : loadConfig tableLayers = .error (.invalid
      [⟨["log_level"], .stringType, .table [("a", .int 1), ("b", .int 2)]⟩]) := rfl
  have htop : (Config.ofTable tableLayers.decided).mapError ConfigError.invalid = .error (.invalid
      [⟨["log_level"], .stringType, .table [("b", .int 2)]⟩]) := rfl
  refine ⟨hregular, hmerged, htop, ?_⟩
  rw [hmerged, htop]
  simp

end SymbolTags
