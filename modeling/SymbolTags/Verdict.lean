namespace SymbolTags

/-!
# Verdicts

What an occurrence of a name is: `definition` and `reference` are tagged, `ignore` is not
reported at all, and `unknown` marks a place that no rule covers.
-/

/-- The classification of one occurrence of a name. -/
inductive Verdict where
  | definition
  | reference
  | ignore
  | unknown
deriving DecidableEq, Repr, Inhabited

namespace Verdict

/-- The word for a verdict. -/
def label : Verdict → String
  | definition => "definition"
  | reference => "reference"
  | ignore => "ignore"
  | unknown => "unknown"

/-- All verdicts. -/
def all : List Verdict := [definition, reference, ignore, unknown]

/-- The verdict that a word stands for. -/
def ofLabel? (s : String) : Option Verdict :=
  all.find? fun v => v.label == s

/-- Definitions and references are tagged. -/
def isTagged : Verdict → Bool
  | definition => true
  | reference => true
  | _ => false

/-- Every verdict can be read back from its word. -/
@[simp] theorem ofLabel?_label (v : Verdict) : ofLabel? v.label = some v := by
  cases v <;> decide

end Verdict

end SymbolTags
