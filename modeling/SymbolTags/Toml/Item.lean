import SymbolTags.Data

namespace SymbolTags.Toml

/-!
# Items — a TOML document while it is read

A document grows statement by statement.  An `Item` remembers how it came into being, and
that decides which later statements may touch it:

* a plain value is never touched again;
* a table may be opened by a header once, and not after dotted keys have filled it;
* dotted keys may fill a table that no header has opened, within one section;
* the last element of an array of tables is the one that later statements reach.
-/

/-- How a table came into being: on the way to another table, by a header of its own, or
    by the dotted keys of a section. -/
inductive Mark where
  | implicit
  | header
  | dotted (part : Nat)
deriving DecidableEq, Repr, Inhabited

/-- A named part of a document. -/
inductive Item where
  | leaf (d : Data)
  | table (mark : Mark) (entries : List (String × Item))
  /-- An array of tables: the elements before the last, and the last. -/
  | tables (earlier : List (List (String × Item))) (last : List (String × Item))
deriving Inhabited

mutual

/-- The value of an item. -/
def Item.toData : Item → Data
  | .leaf d => d
  | .table _ entries => .table (entriesToData entries)
  | .tables earlier last => .list (elementsToData earlier ++ [.table (entriesToData last)])

/-- The values of named items. -/
def entriesToData : List (String × Item) → List (String × Data)
  | [] => []
  | (k, i) :: rest => (k, i.toData) :: entriesToData rest

/-- The values of the elements of an array of tables. -/
def elementsToData : List (List (String × Item)) → List Data
  | [] => []
  | es :: rest => .table (entriesToData es) :: elementsToData rest

end

/-- Changes what lies behind a name on the way to somewhere else; a missing table is
    created. -/
def enter (entries : Fields Item) (name : String) (f : Fields Item → Option (Fields Item)) :
    Option (Fields Item) :=
  match Fields.get? entries name with
  | none => (f []).map fun sub => Fields.set entries name (.table .implicit sub)
  | some (.table mark sub) => (f sub).map fun sub => Fields.set entries name (.table mark sub)
  | some (.tables earlier last) =>
    (f last).map fun last => Fields.set entries name (.tables earlier last)
  | some (.leaf _) => none

/-- Changes what lies at the end of a list of names. -/
def within : List String → (Fields Item → Option (Fields Item)) → Fields Item →
    Option (Fields Item)
  | [], f, entries => f entries
  | name :: rest, f, entries => enter entries name (within rest f)

/-- Opens a table by a header. -/
def openTable : List String → Fields Item → Option (Fields Item)
  | [], entries => some entries
  | [name], entries =>
    match Fields.get? entries name with
    | none => some (Fields.set entries name (.table .header []))
    | some (.table .implicit sub) => some (Fields.set entries name (.table .header sub))
    | _ => none
  | name :: rest, entries => enter entries name (openTable rest)

/-- Opens a further element of an array of tables by a header. -/
def openElement : List String → Fields Item → Option (Fields Item)
  | [], entries => some entries
  | [name], entries =>
    match Fields.get? entries name with
    | none => some (Fields.set entries name (.tables [] []))
    | some (.tables earlier last) =>
      some (Fields.set entries name (.tables (earlier ++ [last]) []))
    | _ => none
  | name :: rest, entries => enter entries name (openElement rest)

/-- Dotted keys of a section may fill a table with this mark. -/
def Mark.allows (current : Nat) : Mark → Bool
  | implicit => true
  | header => false
  | dotted s => s == current

/-- Assigns a value to a dotted key; no name is assigned twice. -/
def assign (current : Nat) : List String → Data → Fields Item → Option (Fields Item)
  | [], _, _ => none
  | [name], d, entries =>
    if (Fields.get? entries name).isSome then none else some (Fields.set entries name (.leaf d))
  | name :: rest, d, entries =>
    match Fields.get? entries name with
    | none =>
      (assign current rest d []).map fun sub =>
        Fields.set entries name (.table (.dotted current) sub)
    | some (.table mark sub) =>
      if mark.allows current then
        (assign current rest d sub).map fun sub =>
          Fields.set entries name (.table (.dotted current) sub)
      else none
    | some _ => none

end SymbolTags.Toml
