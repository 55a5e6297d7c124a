import SymbolTags.Classifier.Session
import SymbolTags.Proofs.Textual

namespace SymbolTags

open Syntax

/-!
# Memory — remembered verdicts cannot be told from fresh ones

A session answers queries to one classifier, one after another, and remembers final verdicts.
Nothing but the number of calls of policies shows it:

* `Classifier.reply` — the answer to a query, regardless of what has been asked before;
* `Session.Holds` — what a session has in its memory and its record after the names of a past
  have been judged;
* `Session.Holds.ask` and `Session.Holds.run` — one query and a sequence of queries keep this;
* `run_answers_without_memory` — the answers to a sequence are those to its queries one by one,
  and policies are called once for each name, when it is first asked about.
-/

/-! ### Queries -/

namespace Syntax.Tree

/-- An occurrence that stands in a tree at its own index. -/
abbrev Member (t : Tree) : Type :=
  { o : Occurrence // t.get? o.index = some o }

/-- The index tells members apart. -/
theorem Member.eq_of_index {t : Tree} {o p : t.Member} (h : o.val.index = p.val.index) : o = p := by
  have hsome : some o.val = some p.val := by rw [← o.property, h, p.property]
  exact Subtype.ext (Option.some.inj hsome)

instance (t : Tree) : DecidableEq t.Member := fun _ _ =>
  decidable_of_iff _ ⟨Member.eq_of_index, fun h => h ▸ rfl⟩

end Syntax.Tree

/-- A question about an occurrence of a tree: what the rules say, or what is final. -/
inductive Query (t : Tree) where
  | base (o : t.Member)
  | classify (o : t.Member)

/-- The occurrence whose final verdict is asked for. -/
def Query.classified? {t : Tree} : Query t → Option t.Member
  | base _ => none
  | classify o => some o

namespace Classifier

/-- The answer to a query: a final verdict is that of the rules, revised by the policies from
    the first to the last. -/
def reply (c : Classifier) : Query c.tree → Except ClassifyError Verdict
  | .base o => c.base o
  | .classify o => (c.base o).map fun v => c.policies.foldl (fun v p => p.adjust c.tree o v) v

/-- The rules have a verdict about an occurrence. -/
def judges (c : Classifier) (o : c.tree.Member) : Bool :=
  (c.base o).isOk

/-- The occurrences that a sequence of queries asks the final verdict of, as often as it does,
    without those that have none. -/
def judged (c : Classifier) (queries : List (Query c.tree)) : List c.tree.Member :=
  (queries.filterMap Query.classified?).filter c.judges

/-- The call of the policy with a number: it is given what the policies before it made of the
    verdict of the rules. -/
def policyCall (c : Classifier) (o : c.tree.Member) (k : Nat) : PolicyCall :=
  ⟨k, o.val.index, (c.policies.take k).foldl (fun v p => p.adjust c.tree o v) (c.baseVerdict o)⟩

/-- One call of every policy. -/
def policyCalls (c : Classifier) (o : c.tree.Member) : List PolicyCall :=
  (List.range c.policies.length).map (c.policyCall o)

variable {c : Classifier}

/-- The rules give a verdict to names that none of them refuses. -/
theorem judges_iff {o : c.tree.Member} :
    c.judges o = true ↔ o.val.isIdentifier = true ∧ c.fault? o = none := by
  unfold judges
  cases h : c.base o with
  | error e =>
    have hnot : ¬(o.val.isIdentifier = true ∧ c.fault? o = none) := by
      rintro ⟨hname, hfault⟩
      have hok : c.base o = .ok (c.baseVerdict o) := answer_eq_ok_iff.mpr ⟨hname, hfault, rfl⟩
      rw [h] at hok
      cases hok
    simpa [Except.isOk, Except.toBool] using hnot
  | ok v =>
    obtain ⟨hname, hfault, -⟩ := answer_eq_ok_iff.mp h
    simp [Except.isOk, Except.toBool, hname, hfault]

/-- An identifier that can be judged has the verdict of the rules. -/
theorem base_of_judges {o : c.tree.Member} (h : c.judges o = true) :
    c.base o = .ok (c.baseVerdict o) := by
  obtain ⟨hname, hfault⟩ := judges_iff.mp h
  exact answer_eq_ok_iff.mpr ⟨hname, hfault, rfl⟩

theorem reply_of_judges {o : c.tree.Member} (h : c.judges o = true) :
    c.reply (.classify o) = .ok (c.verdict o) := by
  rw [reply, base_of_judges h]
  rfl

/-- Of all calls, those of one policy are one for each occurrence. -/
theorem filter_policyCalls (os : List c.tree.Member) {k : Nat} (hk : k < c.policies.length) :
    (os.flatMap c.policyCalls).filter (fun call => call.policy == k)
      = os.map (c.policyCall · k) := by
  -- Of one round of calls, exactly one is to the policy `k`.
  have hone : (List.range c.policies.length).filter (· == k) = [k] := by
    rw [List.filter_beq, List.count_eq_one_of_mem List.nodup_range (List.mem_range.mpr hk)]
    rfl
  have hcalls : ∀ o : c.tree.Member,
      (c.policyCalls o).filter (fun call => call.policy == k) = [c.policyCall o k] := by
    intro o
    rw [policyCalls, List.filter_map]
    show ((List.range c.policies.length).filter (· == k)).map _ = _
    rw [hone]
    rfl
  rw [List.filter_flatMap, funext hcalls]
  exact List.flatMap_pure_eq_map (c.policyCall · k) os

/-! ### Policies -/

namespace Session

/-- Policies in a row revise a verdict one after the other, and each is called with what those
    before it made of it. -/
theorem runPolicies_eq (t : Tree) (o : Occurrence) (first : Nat) (ps : List Policy) (v : Verdict) :
    runPolicies t o first ps v =
      (ps.foldl (fun v p => p.adjust t o v) v,
        (List.range ps.length).map fun k =>
          ⟨first + k, o.index, (ps.take k).foldl (fun v p => p.adjust t o v) v⟩) := by
  induction ps generalizing first v with
  | nil => rfl
  | cons p rest ih =>
    have hnumber : ∀ k, first + 1 + k = first + (k + 1) := by omega
    rw [runPolicies, ih, List.length_cons, List.range_succ_eq_map]
    simp [Function.comp_def, hnumber]

/-- Asks a query. -/
def ask (c : Classifier) (s : Session) : Query c.tree → Except ClassifyError Verdict × Session
  | .base o => s.base c o
  | .classify o => s.classify c o

/-- Asks queries one after another and lists the answers. -/
def run (c : Classifier) : Session → List (Query c.tree) →
    List (Except ClassifyError Verdict) × Session
  | s, [] => ([], s)
  | s, q :: rest =>
    let asked := s.ask c q
    let later := run c asked.2 rest
    (asked.1 :: later.1, later.2)

/-- Questions asked later are answered from the state the earlier ones leave. -/
theorem run_append (c : Classifier) (s : Session) (queries more : List (Query c.tree)) :
    s.run c (queries ++ more) =
      ((s.run c queries).1 ++ ((s.run c queries).2.run c more).1,
        ((s.run c queries).2.run c more).2) := by
  induction queries generalizing s with
  | nil => rfl
  | cons q rest ih =>
    rw [List.cons_append, run, run, ih]
    rfl

/-- A refused query leaves the session as it was. -/
theorem ask_of_error {s : Session} {q : Query c.tree} {e : ClassifyError}
    (h : (s.ask c q).1 = .error e) : (s.ask c q).2 = s := by
  cases q with
  | base o => rfl
  | classify o =>
    simp only [ask, classify] at h ⊢
    -- what is remembered is no refusal, and what is judged is none either
    cases hmemo : s.remembered? o.val.index with
    | some v => rfl
    | none =>
      cases hbase : c.base o with
      | error e' => rfl
      | ok v =>
        rw [hmemo, hbase] at h
        cases h

/-! ### What a session holds -/

/-- The session after the occurrences of a past have been judged: it remembers the final
    verdicts of these and of no others, and its record has one round of calls for each of them,
    in the order in which they came first. -/
structure Holds (c : Classifier) (past : List c.tree.Member) (s : Session) : Prop where
  judged : ∀ o ∈ past, c.judges o = true
  remembered : ∀ o : c.tree.Member,
    s.remembered? o.val.index = if o ∈ past then some (c.verdict o) else none
  calls : s.calls = past.eraseDups.flatMap c.policyCalls

/-- Nothing asked, nothing remembered, nobody called. -/
theorem Holds.start (c : Classifier) : Holds c [] {} where
  judged := fun _ ho => absurd ho List.not_mem_nil
  remembered := fun _ => rfl
  calls := rfl

namespace Holds

variable {past : List c.tree.Member} {s : Session} {o : c.tree.Member}

/-- What is known already adds nothing. -/
theorem again (h : Holds c past s) (ho : o ∈ past) : Holds c (past ++ [o]) s where
  judged := by
    intro p hp
    rcases List.mem_append.mp hp with hp | hp
    · exact h.judged p hp
    · rw [List.mem_singleton.mp hp]
      exact h.judged o ho
  remembered := by
    intro p
    have hmem : p ∈ past ++ [o] ↔ p ∈ past := by
      rw [List.mem_append, List.mem_singleton]
      exact ⟨fun hp => hp.elim id fun hp => hp ▸ ho, Or.inl⟩
    simp only [h.remembered p, hmem]
  calls := by
    -- Nothing new was asked, so the list without repetitions is the same.
    have hknown : [o].removeAll past = [] := by simp [List.removeAll, ho]
    rw [h.calls, List.eraseDups_append, hknown, List.eraseDups_nil, List.append_nil]

/-- What is judged for the first time is remembered, and recorded with one round of calls. -/
theorem first (h : Holds c past s) (ho : o ∉ past) (hjudges : c.judges o = true) :
    Holds c (past ++ [o])
      { memo := (o.val.index, c.verdict o) :: s.memo
        calls := s.calls ++ c.policyCalls o } where
  judged := by
    intro p hp
    rcases List.mem_append.mp hp with hp | hp
    · exact h.judged p hp
    · rw [List.mem_singleton.mp hp]
      exact hjudges
  remembered := by
    intro p
    by_cases hp : p = o
    · subst hp
      simp [remembered?]
    · have hindex : (o.val.index == p.val.index) = false := by
        rw [beq_eq_false_iff_ne]
        exact fun hindex => hp (Tree.Member.eq_of_index hindex.symm)
      have hrest := h.remembered p
      simp only [remembered?] at hrest
      simp [remembered?, hindex, hrest, hp]
  calls := by
    -- A first question appends itself to the list without repetitions.
    have hnew : [o].removeAll past = [o] := by simp [List.removeAll, ho]
    rw [h.calls, List.eraseDups_append, hnew, List.flatMap_append]
    simp [List.eraseDups_cons]

/-- **One query.**  It is answered as if nothing had been asked before, and it adds to what the
    session holds what it judges. -/
theorem ask (h : Holds c past s) (q : Query c.tree) :
    (s.ask c q).1 = c.reply q ∧ Holds c (past ++ c.judged [q]) (s.ask c q).2 := by
  cases q with
  | base o =>
    have hjudged : c.judged [.base o] = [] := rfl
    rw [hjudged, List.append_nil]
    exact ⟨rfl, h⟩
  | classify o =>
    by_cases hjudges : c.judges o = true
    · have hjudged : c.judged [.classify o] = [o] := by
        simp [Classifier.judged, Query.classified?, hjudges]
      rw [hjudged, reply_of_judges hjudges]
      by_cases ho : o ∈ past
      · have hmemo : s.remembered? o.val.index = some (c.verdict o) := by
          rw [h.remembered, if_pos ho]
        simp only [Session.ask, Session.classify, hmemo]
        exact ⟨trivial, h.again ho⟩
      · have hmemo : s.remembered? o.val.index = none := by
          rw [h.remembered, if_neg ho]
        have hcalls : runPolicies c.tree o 0 c.policies (c.baseVerdict o)
            = (c.verdict o, c.policyCalls o) := by
          rw [runPolicies_eq]
          simp only [Nat.zero_add]
          rfl
        simp only [Session.ask, Session.classify, hmemo, base_of_judges hjudges, hcalls]
        exact ⟨trivial, h.first ho hjudges⟩
    · -- a refusal is never remembered, so the rules are asked, and they refuse again
      have hjudged : c.judged [.classify o] = [] := by
        simp [Classifier.judged, Query.classified?, hjudges]
      have ho : o ∉ past := fun ho => hjudges (h.judged o ho)
      have hmemo : s.remembered? o.val.index = none := by
        rw [h.remembered, if_neg ho]
      rw [hjudged, List.append_nil]
      cases hbase : c.base o with
      | ok v =>
        have hok : c.judges o = true := by rw [judges, hbase]; rfl
        exact absurd hok hjudges
      | error e =>
        simp only [Session.ask, Session.classify, hmemo, hbase, reply]
        exact ⟨rfl, h⟩

/-- **A sequence of queries.** -/
theorem run (h : Holds c past s) (queries : List (Query c.tree)) :
    (s.run c queries).1 = queries.map c.reply ∧
      Holds c (past ++ c.judged queries) (s.run c queries).2 := by
  induction queries generalizing past s with
  | nil =>
    have hjudged : c.judged [] = [] := rfl
    rw [hjudged, List.append_nil]
    exact ⟨rfl, h⟩
  | cons q rest ih =>
    -- The first question extends the past, and the rest run from there.
    obtain ⟨hanswer, hholds⟩ := h.ask q
    obtain ⟨hanswers, hrest⟩ := ih hholds
    have hjudged : c.judged (q :: rest) = c.judged [q] ++ c.judged rest := by
      rw [Classifier.judged, ← List.singleton_append, List.filterMap_append, List.filter_append]
      rfl
    rw [List.append_assoc, ← hjudged] at hrest
    exact ⟨List.cons_eq_cons.mpr ⟨hanswer, hanswers⟩, hrest⟩

end Holds

end Session

/-! ### Sessions -/

/-- **Memory cannot be observed.**  For every tree, rule table and list of policies, and for every
    sequence of queries to one session:

    * every query is answered as it would be on its own, a final verdict being that of the rules
      revised by the policies from the first to the last;
    * the record has one round of calls for every occurrence that is judged, in the order in which
      these are first asked about, and so each policy is called once for each of them, with what
      the policies before it made of the verdict of the rules;
    * a refused query leaves no trace: the other answers and the session are as without it;
    * judged are all names whose final verdict is asked for, if names are texts. -/
theorem run_answers_without_memory (c : Classifier) (queries : List (Query c.tree)) :
    (Session.run c {} queries).1 = queries.map c.reply ∧
    (Session.run c {} queries).2.calls
      = (c.judged queries).eraseDups.flatMap c.policyCalls ∧
    (∀ k < c.policies.length,
      (Session.run c {} queries).2.calls.filter (fun call => call.policy == k)
        = (c.judged queries).eraseDups.map (c.policyCall · k)) ∧
    (∀ before q after e, queries = before ++ q :: after → c.reply q = .error e →
      (Session.run c {} queries).1.eraseIdx before.length
        = (Session.run c {} (before ++ after)).1 ∧
      (Session.run c {} queries).2 = (Session.run c {} (before ++ after)).2) ∧
    (∀ root : Node, c.tree = Tree.ofRoot root → (∀ s ∈ root.unfold [], s.node.name.IsText) →
      c.judged queries
        = (queries.filterMap Query.classified?).filter fun o => o.val.isIdentifier) := by
  have hstart := Session.Holds.start c
  obtain ⟨hanswers, hholds⟩ := hstart.run queries
  refine ⟨hanswers, hholds.calls, fun k hk => ?_, ?_, ?_⟩
  · rw [hholds.calls, List.nil_append]
    exact filter_policyCalls _ hk
  · rintro before q after e rfl hrefused
    have hbefore := (hstart.run before).2
    have hask : ((Session.run c {} before).2.ask c q).2 = (Session.run c {} before).2 :=
      Session.ask_of_error ((hbefore.ask q).1.trans hrefused)
    refine ⟨?_, ?_⟩
    · rw [hanswers, (hstart.run (before ++ after)).1, List.map_append, List.map_append,
        List.map_cons, List.eraseIdx_append_of_length_le (by simp)]
      simp
    · rw [Session.run_append, Session.run_append, Session.run, hask]
  · intro root hroot hnames
    have htexts : (Tree.ofRoot root).TextNamed := Tree.textNamed_of_forall_unfold hnames
    refine List.filter_congr fun o _ => ?_
    rw [Bool.eq_iff_iff, judges_iff]
    exact ⟨And.left, fun hname => ⟨hname, fault?_of_textNamed htexts hroot o.property⟩⟩

/-- Two names in a row. -/
def twoNames : Node :=
  { type := some "SequenceExpression"
    attributes := [("expressions", .list 0
      [.node (Tree.sampleName 1 "a" 0), .node (Tree.sampleName 2 "b" 3)])] }

/-- A classifier of these with two policies, the second of which undoes what the first does. -/
def twoNamesTwice : Classifier where
  tree := Tree.ofRoot twoNames
  policies := [.remap fun _ => .definition, .remap fun v => if v = .definition then .ignore else v]

/-- The sequence itself. -/
def wholeSequence : twoNamesTwice.tree.Member :=
  ⟨{ index := 0, node := twoNames, link := none, children := [1, 2] }, by cbv⟩

/-- The first name. -/
def firstOfTwo : twoNamesTwice.tree.Member :=
  ⟨{ index := 1, node := Tree.sampleName 1 "a" 0, link := some ⟨0, "expressions", some 0⟩ }, by cbv⟩

/-- The second name. -/
def secondOfTwo : twoNamesTwice.tree.Member :=
  ⟨{ index := 2, node := Tree.sampleName 2 "b" 3, link := some ⟨0, "expressions", some 1⟩ }, by cbv⟩

theorem run_answers_without_memory_twoNames :
    let queries : List (Query twoNamesTwice.tree) :=
      [.classify secondOfTwo, .classify wholeSequence, .base firstOfTwo, .classify firstOfTwo,
       .classify secondOfTwo]
    (∀ s ∈ twoNames.unfold [], s.node.name.IsText) ∧
    twoNamesTwice.reply (.classify wholeSequence) = .error (.notIdentifier "SequenceExpression") ∧
    (Session.run twoNamesTwice {} queries).1 =
      [.ok .ignore, .error (.notIdentifier "SequenceExpression"), .ok .reference, .ok .ignore,
       .ok .ignore] ∧
    (Session.run twoNamesTwice {} queries).2.calls =
      [⟨0, 2, .reference⟩, ⟨1, 2, .definition⟩, ⟨0, 1, .reference⟩, ⟨1, 1, .definition⟩] ∧
    (Session.run twoNamesTwice {} queries).2.calls.filter (fun call => call.policy == 1) =
      [⟨1, 2, .definition⟩, ⟨1, 1, .definition⟩] ∧
    (Session.run twoNamesTwice {} queries).2 =
      (Session.run twoNamesTwice {} (queries.eraseIdx 1)).2 ∧
    twoNamesTwice.judged queries = [secondOfTwo, firstOfTwo, secondOfTwo] := by
  intro queries
  have hname : ∀ identity name column above,
      ∀ s ∈ (Tree.sampleName identity name column).unfold above, s.node.name.IsText := by
    intro identity name column above
    rw [Node.forall_mem_unfold]
    exact ⟨trivial, fun e he => absurd he List.not_mem_nil⟩
  have hentries : twoNames.entries = [⟨"expressions", some 0, Tree.sampleName 1 "a" 0⟩,
      ⟨"expressions", some 1, Tree.sampleName 2 "b" 3⟩] := rfl
  have hnames : ∀ s ∈ twoNames.unfold [], s.node.name.IsText := by
    rw [Node.forall_mem_unfold, hentries, List.forall_mem_cons, List.forall_mem_singleton]
    exact ⟨trivial, hname _ _ _ _, hname _ _ _ _⟩
  have hwhole : twoNamesTwice.base wholeSequence =
      .error (.notIdentifier "SequenceExpression") := rfl
  have hfirst : twoNamesTwice.base firstOfTwo = .ok .reference := by cbv
  have hsecond : twoNamesTwice.base secondOfTwo = .ok .reference := by cbv
  have hreplies : queries.map twoNamesTwice.reply =
      [.ok .ignore, .error (.notIdentifier "SequenceExpression"), .ok .reference, .ok .ignore,
       .ok .ignore] := by
    simp only [queries, List.map_cons, List.map_nil, reply, hwhole, hfirst, hsecond]
    rfl
  obtain ⟨hanswers, hcalls, hpolicy, hrefused, hjudged⟩ :=
    run_answers_without_memory twoNamesTwice queries
  have hnamed : twoNamesTwice.judged queries = [secondOfTwo, firstOfTwo, secondOfTwo] :=
    hjudged twoNames rfl hnames
  have hdistinct : [secondOfTwo, firstOfTwo, secondOfTwo].eraseDups =
      [secondOfTwo, firstOfTwo] := by decide
  rw [hnamed, hdistinct] at hcalls hpolicy
  refine ⟨hnames, rfl, hanswers.trans hreplies, hcalls.trans ?_, (hpolicy 1 ?_).trans ?_,
    (hrefused [.classify secondOfTwo] _ _ _ rfl rfl).2, hnamed⟩
  · cbv
  · decide
  · cbv

end Classifier

end SymbolTags
