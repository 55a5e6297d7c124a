import SymbolTags.Classifier.Basic

namespace SymbolTags.Classifier

open Syntax

/-!
# Classifier sessions — remembered verdicts

A `Session` answers a sequence of queries to one classifier.  It remembers final verdicts
by index, so a policy is asked at most once about an occurrence, and it records every call
of a policy:

* `Session.classify` answers from memory or asks the rules and the policies;
* `Session.base` asks the rules alone and leaves the session as it is.
-/

/-- One call of a policy: its number in the list of policies, the occurrence it was asked
    about and the verdict it was given. -/
structure PolicyCall where
  policy : Nat
  index : Nat
  incoming : Verdict
deriving DecidableEq, Repr, Inhabited

/-- What a classifier remembers between queries. -/
structure Session where
  memo : List (Nat × Verdict) := []
  calls : List PolicyCall := []
deriving Repr, Inhabited

namespace Session

/-- The remembered verdict of an index. -/
def remembered? (s : Session) (i : Nat) : Option Verdict :=
  (s.memo.find? fun p => p.1 == i).map (·.2)

/-- Runs policies, numbered from `first`, over a verdict and lists their calls. -/
def runPolicies (t : Tree) (o : Occurrence) : Nat → List Policy → Verdict →
    Verdict × List PolicyCall
  | _, [], v => (v, [])
  | first, p :: rest, v =>
    let (final, calls) := runPolicies t o (first + 1) rest (p.adjust t o v)
    (final, ⟨first, o.index, v⟩ :: calls)

/-- The verdict of the rule table; nothing is remembered. -/
def base (c : Classifier) (s : Session) (o : Occurrence) :
    Except ClassifyError Verdict × Session :=
  (c.base o, s)

/-- The final verdict, from memory if there is one. -/
def classify (c : Classifier) (s : Session) (o : Occurrence) :
    Except ClassifyError Verdict × Session :=
  match s.remembered? o.index with
  | some v => (.ok v, s)
  | none =>
    match c.base o with
    | .error e => (.error e, s)
    | .ok v =>
      let (final, calls) := runPolicies c.tree o 0 c.policies v
      (.ok final, { memo := (o.index, final) :: s.memo, calls := s.calls ++ calls })

end Session

end SymbolTags.Classifier
