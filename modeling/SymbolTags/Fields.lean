namespace SymbolTags

universe u

/-!
# Fields — named values in the order they were first written

A `Fields α` is an association list with at most one entry per name once it has been
built by `set`:

* `get?` reads the value of a name;
* `set` replaces a value where it stands, or adds it at the end;
* `ofList` writes pairs from left to right, so the last value of a name wins and keeps
  the place of the first;
* `overlay` writes all entries of a second list over the first.
-/

/-- Named values, in the order in which the names were first written. -/
abbrev Fields (α : Type u) := List (String × α)

namespace Fields

variable {α : Type u}

/-- The value written under a name. -/
def get? : Fields α → String → Option α
  | [], _ => none
  | (k, v) :: rest, name => if k = name then some v else get? rest name

/-- Writes a value: in place when the name is known, else at the end. -/
def set : Fields α → String → α → Fields α
  | [], name, v => [(name, v)]
  | (k, w) :: rest, name, v => if k = name then (k, v) :: rest else (k, w) :: set rest name v

/-- Writes pairs from left to right into an empty list. -/
def ofList (pairs : List (String × α)) : Fields α :=
  pairs.foldl (fun fs p => set fs p.1 p.2) []

/-- Writes every entry of `upper` over `lower`. -/
def overlay (lower upper : Fields α) : Fields α :=
  upper.foldl (fun fs p => set fs p.1 p.2) lower

/-- Takes the entry of a name away. -/
def erase (fs : Fields α) (name : String) : Fields α :=
  fs.filter fun p => p.1 != name

/-- Writing a name makes it readable. -/
@[simp] theorem get?_set_self (fs : Fields α) (name : String) (v : α) :
    get? (set fs name v) name = some v := by
  induction fs with
  | nil => simp [set, get?]
  | cons p rest ih =>
    by_cases h : p.1 = name
    · simp [set, get?, h]
    · simp [set, get?, h, ih]

/-- Writing one name leaves every other name as it was. -/
theorem get?_set_of_ne (fs : Fields α) {name other : String} (v : α) (h : other ≠ name) :
    get? (set fs name v) other = get? fs other := by
  induction fs with
  | nil => simp [set, get?, Ne.symm h]
  | cons p rest ih =>
    by_cases hp : p.1 = name
    · have : name ≠ other := Ne.symm h
      simp [set, get?, hp, this]
    · simp [set, get?, hp, ih]

/-- A name that no entry has reads nothing. -/
theorem get?_eq_none_of_notMem {fs : Fields α} {name : String} (h : name ∉ fs.map Prod.fst) :
    get? fs name = none := by
  induction fs with
  | nil => rfl
  | cons p rest ih =>
    rw [List.map_cons, List.mem_cons, not_or] at h
    rw [get?, if_neg (Ne.symm h.1)]
    exact ih h.2

/-- What is read is an entry. -/
theorem mem_of_get? {fs : Fields α} {name : String} {v : α} (h : get? fs name = some v) :
    (name, v) ∈ fs := by
  induction fs with
  | nil => simp [get?] at h
  | cons p rest ih =>
    obtain ⟨k, w⟩ := p
    by_cases hk : k = name
    · simp only [get?, hk, if_true, Option.some.injEq] at h
      simp [hk, h]
    · rw [get?, if_neg hk] at h
      exact List.mem_cons_of_mem _ (ih h)

/-- With one entry for each name, every entry is read. -/
theorem get?_of_mem {fs : Fields α} {name : String} {v : α} (hnodup : (fs.map Prod.fst).Nodup)
    (h : (name, v) ∈ fs) : get? fs name = some v := by
  induction fs with
  | nil => simp at h
  | cons p rest ih =>
    rw [List.map_cons, List.nodup_cons] at hnodup
    rcases List.mem_cons.mp h with rfl | h
    · rw [get?, if_pos rfl]
    · -- the name comes again in the rest, so it is not that of the first entry
      have hne : p.1 ≠ name := fun heq => hnodup.1 (heq ▸ List.mem_map_of_mem h)
      rw [get?, if_neg hne]
      exact ih hnodup.2 h

/-- Writing what is read changes nothing. -/
theorem set_of_get? {fs : Fields α} {name : String} {v : α} (h : get? fs name = some v) :
    set fs name v = fs := by
  induction fs with
  | nil => simp [get?] at h
  | cons p rest ih =>
    obtain ⟨k, w⟩ := p
    by_cases hk : k = name
    · simp only [get?, hk, if_true, Option.some.injEq] at h
      simp [set, hk, h]
    · rw [get?, if_neg hk] at h
      rw [set, if_neg hk, ih h]

/-- A new name is written at the end. -/
theorem set_of_notMem {fs : Fields α} {name : String} (v : α) (h : name ∉ fs.map Prod.fst) :
    set fs name v = fs ++ [(name, v)] := by
  induction fs with
  | nil => rfl
  | cons p rest ih =>
    rw [List.map_cons, List.mem_cons, not_or] at h
    rw [set, if_neg (Ne.symm h.1), ih h.2, List.cons_append]

end Fields

end SymbolTags
