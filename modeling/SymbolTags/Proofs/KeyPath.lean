import SymbolTags.Proofs.Precedence

namespace SymbolTags

/-!
# Key paths — what a merge leaves at every depth

Tables may hold further tables, so a value is found by a path of names.  Where both sides of a
merge hold a table, the two are merged in turn; anywhere else the upper side wins, also if it has
a table where the lower one has a text, or the other way round.  This file follows paths through
merged tables:

* `Data.at?` — the value at a path;
* `Data.Misses` — the path comes to a table that lacks the next name.  A value that is no table
  stops it as well, but there nothing is missing;
* `Data.NamedOnce` — every table, at any depth, holds every name once;
* `at?_mergeData` — what one merge leaves at a path, by induction on the path;
* `mergeTables_of_new` and `mergeTables_of_kept` — tables that share no names, and an upper table
  that changes nothing;
* `mergeTables_leaves`, which puts these together.
-/

/-! ### Paths -/

namespace Data

/-- The value under a name of a table. -/
def get? : Data → String → Option Data
  | table entries, name => Fields.get? entries name
  | _, _ => none

/-- The value at a path of names. -/
def at? (d : Data) (path : List String) : Option Data :=
  path.foldlM get? d

/-- A path misses a name: some part of it leads to a table in which the next name is missing. -/
def Misses (d : Data) (path : List String) : Prop :=
  ∃ front name rest entries, path = front ++ name :: rest ∧ d.at? front = some (table entries) ∧
    Fields.get? entries name = none

variable {d : Data} {name : String} {rest : List String}

/-- The empty path leads nowhere else. -/
theorem at?_nil (d : Data) : d.at? [] = some d := rfl

/-- A path goes through one name after the other. -/
theorem at?_cons (d : Data) (name : String) (rest : List String) :
    d.at? (name :: rest) = (d.get? name).bind fun d' => d'.at? rest := rfl

/-- Only tables have entries. -/
theorem get?_of_not_isTable (h : d.isTable = false) (name : String) : d.get? name = none := by
  cases d <;> simp_all [get?, isTable]

/-- No name can be missed on the empty path. -/
theorem not_misses_nil (d : Data) : ¬d.Misses [] := by
  rintro ⟨front, name, rest, entries, hpath, -⟩
  simp at hpath

/-- In a table a path misses its first name, or the rest of it misses one further down. -/
theorem misses_table_cons_iff {entries : Fields Data} :
    (table entries).Misses (name :: rest) ↔
      Fields.get? entries name = none ∨
        ∃ d', Fields.get? entries name = some d' ∧ d'.Misses rest := by
  constructor
  · rintro ⟨front, missing, behind, entries', hpath, hfront, hmissing⟩
    cases front with
    | nil =>
      obtain ⟨rfl, rfl⟩ := List.cons.inj hpath
      rw [at?_nil, Option.some.injEq, table.injEq] at hfront
      subst hfront
      exact .inl hmissing
    | cons first front =>
      obtain ⟨rfl, rfl⟩ := List.cons.inj hpath
      obtain ⟨d', hd', hfront'⟩ := Option.bind_eq_some_iff.mp hfront
      exact .inr ⟨d', hd', front, missing, behind, entries', rfl, hfront', hmissing⟩
  · rintro (hmissing | ⟨d', hd', front, missing, behind, entries', rfl, hfront, hmissing⟩)
    · exact ⟨[], name, rest, entries, rfl, rfl, hmissing⟩
    · refine ⟨name :: front, missing, behind, entries', rfl, ?_, hmissing⟩
      rw [at?_cons, get?, hd', Option.bind_some, hfront]

/-- A value that is no table lacks no names. -/
theorem not_misses_of_not_isTable (h : d.isTable = false) (path : List String) :
    ¬d.Misses path := by
  rintro ⟨front, name, rest, entries, -, hfront, -⟩
  cases front with
  | nil =>
    rw [at?_nil, Option.some.injEq] at hfront
    subst hfront
    cases h
  | cons first front =>
    rw [at?_cons, get?_of_not_isTable h] at hfront
    cases hfront

/-- Every table of a value, at any depth, holds every name once. -/
inductive NamedOnce : Data → Prop
  | table {entries : Fields Data} (hdistinct : entries.Distinct)
      (hbelow : ∀ p ∈ entries, NamedOnce p.2) : NamedOnce (.table entries)
  | leaf {d : Data} (h : d.isTable = false) : NamedOnce d

end Data

/-! ### Merges along a path -/

section

open Data

variable {lower upper : Data}

/-- A value that is no table replaces whatever is below it. -/
theorem mergeData_of_not_isTable (h : upper.isTable = false) (lower : Data) :
    mergeData lower upper = upper := by
  cases upper with
  | table entries => cases h
  | _ => rw [mergeData]

/-- A table replaces a value that is none. -/
theorem mergeData_table_of_not_isTable (h : lower.isTable = false) (entries : Fields Data) :
    mergeData lower (.table entries) = .table entries := by
  cases lower with
  | table entries' => cases h
  | _ => rfl

/-- **Merges along a path.**  A value that is no table stands at a path of a merged value just if
    the upper value has it there, or if the lower one has it and the path misses a name in the
    upper one. -/
theorem at?_mergeData (hupper : upper.NamedOnce) (lower : Data) (path : List String) {v : Data}
    (hv : v.isTable = false) :
    (mergeData lower upper).at? path = some v ↔
      upper.at? path = some v ∨ (lower.at? path = some v ∧ upper.Misses path) := by
  induction path generalizing lower upper with
  | nil =>
    -- at the end of the path stands the upper value, unless both are tables
    have hmerged : mergeData lower upper = v ↔ upper = v := by
      cases hupper with
      | leaf h => rw [mergeData_of_not_isTable h]
      | table _ _ =>
        constructor <;> rintro rfl
        · cases lower <;> cases hv
        · cases hv
    simp only [at?_nil, Option.some.injEq, hmerged, not_misses_nil, and_false, or_false]
  | cons name rest ih =>
    cases hupper with
    | leaf h =>
      rw [mergeData_of_not_isTable h]
      simp only [not_misses_of_not_isTable h, and_false, or_false]
    | @table entries hdistinct hbelow =>
      by_cases hlower : lower.isTable = true
      · cases lower with
        | table below =>
          rw [mergeData, misses_table_cons_iff, at?_cons, at?_cons, at?_cons]
          simp only [get?, get?_mergeTables hdistinct]
          cases hu : Fields.get? entries name with
          | none => simp
          | some d =>
            have hd : d.NamedOnce := hbelow _ (Fields.mem_of_get? hu)
            cases Fields.get? below name with
            | none => simp
            | some old => simpa using ih hd old
        | _ => cases hlower
      · -- nothing lies below a value that is no table
        rw [Bool.not_eq_true] at hlower
        rw [mergeData_table_of_not_isTable hlower, at?_cons lower, get?_of_not_isTable hlower]
        simp

end

/-! ### Merges that change nothing -/

/-- Tables that share no names are put one behind the other. -/
theorem mergeTables_of_new {lower upper : Fields Data} (hdistinct : upper.Distinct)
    (hnew : ∀ p ∈ upper, p.1 ∉ lower.map Prod.fst) : mergeTables lower upper = lower ++ upper := by
  induction upper generalizing lower with
  | nil => rw [mergeTables, List.append_nil]
  | cons p rest ih =>
    obtain ⟨name, d⟩ := p
    obtain ⟨hname, hrest⟩ := List.nodup_cons.mp hdistinct
    obtain ⟨hfirst, hothers⟩ := List.forall_mem_cons.mp hnew
    rw [mergeTables, Fields.get?_eq_none_of_notMem hfirst]
    show mergeTables (Fields.set lower name d) rest = _
    rw [Fields.set_of_notMem d hfirst, ih hrest, List.append_assoc]
    · rfl
    · -- the other names are not that of the entry which has just been written
      intro q hq
      rw [List.map_append, List.mem_append, not_or]
      refine ⟨hothers q hq, fun heq => hname ?_⟩
      rw [List.map_singleton, List.mem_singleton] at heq
      exact heq ▸ List.mem_map_of_mem hq

/-- An upper table changes nothing if each of its values leaves what it finds under its name. -/
theorem mergeTables_of_kept {lower upper : Fields Data}
    (h : ∀ p ∈ upper, ∃ old, Fields.get? lower p.1 = some old ∧ mergeData old p.2 = old) :
    mergeTables lower upper = lower := by
  induction upper with
  | nil => rw [mergeTables]
  | cons p rest ih =>
    obtain ⟨name, d⟩ := p
    obtain ⟨⟨old, hold, hkept⟩, hrest⟩ := List.forall_mem_cons.mp h
    rw [mergeTables, hold]
    show mergeTables (Fields.set lower name (mergeData old d)) rest = lower
    rw [hkept, Fields.set_of_get? hold, ih hrest]

/-- A value merged with itself stays what it is, at every depth. -/
theorem mergeData_self {d : Data} (h : d.NamedOnce) : mergeData d d = d := by
  induction h with
  | leaf h => exact mergeData_of_not_isTable h _
  | @table entries hdistinct _ ih =>
    rw [mergeData]
    congr 1
    exact mergeTables_of_kept fun p hp => ⟨p.2, Fields.get?_of_mem hdistinct hp, ih p hp⟩

/-- **Merged tables, value by value.**  A value that is no table stands at a path of a merged
    table just if the upper table has it there, or if the lower one has it and in the upper one
    the path comes to a missing name.  Merging with the empty table on either side, or with
    itself, gives a table back with all its tables, empty ones included. -/
theorem mergeTables_leaves {upper : Fields Data} (h : (Data.table upper).NamedOnce) :
    (∀ (lower : Fields Data) (path : List String) (v : Data), v.isTable = false →
      ((Data.table (mergeTables lower upper)).at? path = some v ↔
        (Data.table upper).at? path = some v ∨
          ((Data.table lower).at? path = some v ∧ (Data.table upper).Misses path))) ∧
    mergeTables upper [] = upper ∧ mergeTables [] upper = upper ∧
    mergeTables upper upper = upper := by
  have hdistinct : upper.Distinct := by
    cases h with
    | table hdistinct _ => exact hdistinct
    | leaf h => cases h
  refine ⟨fun lower path v hv => ?_, by rw [mergeTables], ?_, ?_⟩
  · have hpath := at?_mergeData h (.table lower) path hv
    rwa [mergeData] at hpath
  · exact mergeTables_of_new hdistinct fun _ _ => List.not_mem_nil
  · have hself := mergeData_self h
    rwa [mergeData, Data.table.injEq] at hself

/-- Settings above, with a text where there is a table below, and an empty table. -/
def upperSample : Fields Data :=
  [("log_level", .str "debug"), ("tagger", .table [("jsx", .bool true), ("extra", .table [])])]

/-- Settings below, with a table where there is a text above. -/
def lowerSample : Fields Data :=
  [("log_level", .table [("console", .str "info")]),
   ("tagger", .table [("encoding", .str "utf-8")])]

/-- A leaf of each table is found in the merged one, except where the upper table has a leaf
    itself. -/
theorem mergeTables_leaves_samples :
    (Data.table upperSample).NamedOnce ∧
    (Data.table (mergeTables lowerSample upperSample)).at? ["tagger", "encoding"]
      = some (.str "utf-8") ∧
    (Data.table (mergeTables lowerSample upperSample)).at? ["log_level", "console"]
      ≠ some (.str "info") ∧
    mergeTables upperSample upperSample = upperSample := by
  have hsettings : (Data.table [("jsx", .bool true), ("extra", .table [])]).NamedOnce := by
    refine .table (by decide) ?_
    simp only [List.forall_mem_cons, List.not_mem_nil, false_implies, implies_true, and_true]
    exact ⟨.leaf rfl, .table (by decide) (by simp)⟩
  have h : (Data.table upperSample).NamedOnce := by
    refine .table (by decide) ?_
    simp only [upperSample, List.forall_mem_cons, List.not_mem_nil, false_implies, implies_true,
      and_true]
    exact ⟨.leaf rfl, hsettings⟩
  obtain ⟨hvalues, -, -, hself⟩ := mergeTables_leaves h
  refine ⟨h, ?_, fun hfound => ?_, hself⟩
  · exact (hvalues _ _ _ rfl).mpr
      (.inr ⟨rfl, ["tagger"], "encoding", [], _, rfl, rfl, rfl⟩)
  · rcases (hvalues _ _ _ rfl).mp hfound with hupper | ⟨-, hmisses⟩
    · cases hupper
    · obtain hnone | ⟨d, hd, hmisses⟩ := Data.misses_table_cons_iff.mp hmisses
      · cases hnone
      · -- the text stops the path, so nothing is missing
        cases hd
        exact Data.not_misses_of_not_isTable rfl _ hmisses

end SymbolTags
