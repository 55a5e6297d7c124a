import SymbolTags.Policy.Basic
import SymbolTags.Rule.Table

namespace SymbolTags

open Syntax

/-!
# Classifiers

A `Classifier` judges the names of one tree by a rule table and a list of policies:

* `baseVerdict` is the verdict of the table alone, `verdict` the one after the policies,
  taken in order;
* `base` and `classify` refuse occurrences that are not names, and names that a rule cannot
  be applied to.
-/

/-- A tree with the rules and policies that judge its names. -/
structure Classifier where
  tree : Tree
  rules : RuleTable := RuleTable.standard
  policies : List Policy := []

/-- Why an occurrence has no verdict. -/
inductive ClassifyError where
  /-- Only names are classified; the kind is that of the refused node. -/
  | notIdentifier (kind : String)
  | illTyped (e : IllTyped)
deriving DecidableEq, Repr, Inhabited

/-- The text of the refusal. -/
def ClassifyError.message : ClassifyError → String
  | notIdentifier kind => "Only Identifier nodes are classified, got " ++ kind
  | illTyped e => e.message

namespace Classifier

/-- The rule for the place of an occurrence. -/
def ruleOf? (c : Classifier) (o : Occurrence) : Option Rule :=
  (placeOf? c.tree o).bind c.rules.rule?

/-- The verdict of the rule table; a place without a rule, and the root, are unknown. -/
def baseVerdict (c : Classifier) (o : Occurrence) : Verdict :=
  match c.tree.parent? o, c.ruleOf? o with
  | some parent, some rule => rule.apply c.tree o parent
  | _, _ => .unknown

/-- Why the rule for the place of an occurrence cannot be applied. -/
def fault? (c : Classifier) (o : Occurrence) : Option IllTyped :=
  (c.ruleOf? o).bind fun rule => rule.fault? c.tree o

/-- The verdict after all policies, each of which sees the verdict of those before it. -/
def verdict (c : Classifier) (o : Occurrence) : Verdict :=
  c.policies.foldl (fun v p => p.adjust c.tree o v) (c.baseVerdict o)

/-- A verdict about an occurrence, unless the occurrence has none. -/
def answer (c : Classifier) (o : Occurrence) (v : Verdict) : Except ClassifyError Verdict :=
  if o.isIdentifier then
    match c.fault? o with
    | some e => .error (.illTyped e)
    | none => .ok v
  else .error (.notIdentifier o.kind)

/-- A verdict is given to names that no rule refuses. -/
theorem answer_eq_ok_iff {c : Classifier} {o : Occurrence} {v w : Verdict} :
    c.answer o v = .ok w ↔ o.isIdentifier = true ∧ c.fault? o = none ∧ v = w := by
  unfold answer
  by_cases hname : o.isIdentifier = true
  · rw [if_pos hname]
    cases c.fault? o with
    | none => simp [hname]
    | some e => simp
  · rw [if_neg hname]
    simp [hname]

/-- The verdict of the rule table for a name. -/
def base (c : Classifier) (o : Occurrence) : Except ClassifyError Verdict :=
  c.answer o (c.baseVerdict o)

/-- The final verdict for a name. -/
def classify (c : Classifier) (o : Occurrence) : Except ClassifyError Verdict :=
  c.answer o (c.verdict o)

end Classifier

end SymbolTags
