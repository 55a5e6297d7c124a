import SymbolTags.Proofs.Memory
import SymbolTags.Proofs.Contribution

namespace SymbolTags

open Syntax

/-!
# Emitting — a report from one session

An `Emission` reads verdicts off its classifier.  The work can also be done name by name, by an
emitter and a scanner that ask one session and therefore see each other's questions in its memory:

* `Emitter` — a part of that work, which may end early, with `Emitter.ask`, `Emitter.scan`,
  `Emitter.emitName` and `Emitter.emit`;
* `Emitter.scan_eq` — the scanner asks about a name that the emitter has asked about before, so
  it is answered from memory and leaves the session as it is;
* `Emitter.emitName_eq` and `Emitter.emitNames_eq` — one name and a row of names;
* `Emitter.emit_eq_report` — the outcome is the report, and each policy is called once a name.
-/

/-- What an emitter has at hand: the session that it asks, and the diagnostics that it has
    logged.  Tags are handed on, so that they are lost when the work ends early. -/
structure Emitting where
  session : Classifier.Session := {}
  logged : List Diagnostic := []

/-- A part of the work of an emitter. -/
abbrev Emitter := ExceptT ClassifyError (StateM Emitting)

namespace Emitter

/-- Asks for the final verdict of an occurrence. -/
def ask (c : Classifier) (o : Occurrence) : Emitter Verdict := fun st =>
  let asked := st.session.classify c o
  (asked.1, { st with session := asked.2 })

/-- Ends the work if something is ill-typed. -/
def require (fault? : Option IllTyped) : Emitter Unit :=
  match fault? with
  | some fault => throw (.illTyped fault)
  | none => return ()

/-- Logs a diagnostic. -/
def log (d : Diagnostic) : Emitter Unit :=
  modify fun st => { st with logged := st.logged ++ [d] }

/-- The names in the argument of the lookup call that an identifier names. -/
def scan (c : Classifier) (source : List Char) (o : Occurrence) :
    Emitter (List Selector.Reference) := do
  require o.name.keyFault?
  match Selector.lookupOf? o with
  | none => return []
  | some lookup =>
    let verdict ← ask c o
    if verdict = .reference then
      match Selector.literal? c.tree o with
      | none => return []
      | some literal =>
        require ((Selector.pieces c.tree literal).findSome? (Selector.pieceFault? source))
        return (Selector.segments c.tree source literal).flatMap (·.references lookup)
    else return []

/-- The tags of a name: its own by its verdict, and those of the names that are scanned. -/
def emitName (e : Emission) (ls : Array (List Char)) (o : Occurrence) : Emitter (List Tag) := do
  let verdict ← ask e.classifier o
  let own := (TagKind.ofVerdict? verdict).map fun kind =>
    e.tagAt ls kind (Emission.shownName o) o.position
  let found ← scan e.classifier e.source o
  if verdict = .unknown then log (e.diagnosticOf ls o)
  return own.toList ++ found.map fun r => e.tagAt ls .reference (.str r.name) r.position

/-- The tags of names in a row. -/
def emitNames (e : Emission) (ls : Array (List Char)) : List Occurrence → Emitter (List Tag)
  | [] => return []
  | o :: rest => do
    let tags ← emitName e ls o
    let more ← emitNames e ls rest
    return tags ++ more

/-- The tags of a tree. -/
def emit (e : Emission) : Emitter (List Tag) :=
  emitNames e e.sourceLines e.classifier.tree.identifiers

/-- What is ill-typed ends the work, everything else goes on. -/
def outcome {α : Type} (fault? : Option IllTyped) (a : α) : Except ClassifyError α :=
  match fault? with
  | some fault => .error (.illTyped fault)
  | none => .ok a

variable {c : Classifier} {e : Emission} {source : List Char} {st : Emitting}

theorem require_apply (fault? : Option IllTyped) (st : Emitting) :
    require fault? st = (outcome fault? (), st) := by
  cases fault? <;> rfl

/-- A remembered verdict is the answer, and the session stays. -/
theorem ask_of_remembered {o : Occurrence} {v : Verdict}
    (h : st.session.remembered? o.index = some v) : ask c o st = (.ok v, st) := by
  simp only [ask, Classifier.Session.classify, h]

/-- Parts of the work follow each other. -/
theorem bind_apply {α β : Type} (m : Emitter α) (f : α → Emitter β) (st : Emitting) :
    (m >>= f) st =
      match m st with
      | (.ok a, st') => f a st'
      | (.error err, st') => (.error err, st') := by
  simp only [bind, ExceptT.bind, ExceptT.mk, StateT.bind]
  rcases m st with ⟨_ | _, st'⟩ <;> rfl

theorem pure_apply {α : Type} (a : α) (st : Emitting) : (pure a : Emitter α) st = (.ok a, st) :=
  rfl

/-- **Scanning.**  A scanner that asks about a name whose verdict is remembered leaves the session
    as it is, and finds what is found without one. -/
theorem scan_eq {o : Occurrence} (hfault : c.fault? o = none)
    (hmemo : st.session.remembered? o.index = some (c.verdict o)) :
    scan c source o st =
      (outcome (Selector.fault? c source o) (Selector.references c source o), st) := by
  unfold scan Selector.fault? Selector.references
  rw [bind_apply, require_apply]
  cases o.name.keyFault? with
  | some fault => rfl
  | none =>
    cases hlookup : Selector.lookupOf? o with
    | none => rfl
    | some lookup =>
      -- The verdict is in the memo, so asking again leaves the state as it is.
      simp only [outcome, bind_apply, ask_of_remembered hmemo, hfault]
      by_cases hverdict : c.verdict o = .reference
      · have hargument : Selector.argument? c o = Selector.literal? c.tree o := by
          rw [Selector.argument?, hverdict]
          rfl
        rw [if_pos hverdict, hargument]
        cases Selector.literal? c.tree o with
        | none => rfl
        | some literal =>
          simp only [bind_apply, require_apply, Option.bind_some]
          cases (Selector.pieces c.tree literal).findSome? (Selector.pieceFault? source) <;> rfl
      · have hargument : Selector.argument? c o = none := by
          rw [Selector.argument?, beq_eq_false_iff_ne.mpr hverdict]
          rfl
        rw [if_neg hverdict, hargument]
        rfl

/-! ### Names -/

variable {past : List e.classifier.tree.Member} {o : e.classifier.tree.Member}

/-- A name is asked about, and judged unless a rule refuses it. -/
theorem ask_eq (h : Classifier.Session.Holds e.classifier past st.session)
    (hname : o.val.isIdentifier = true) :
    ∃ session, Classifier.Session.Holds e.classifier
        (past ++ if e.classifier.fault? o = none then [o] else []) session ∧
      ask e.classifier o st =
        (outcome (e.classifier.fault? o) (e.classifier.verdict o), { st with session }) := by
  obtain ⟨hanswer, hholds⟩ := h.ask (.classify o)
  refine ⟨_, ?_, Prod.ext_iff.mpr ⟨hanswer.trans ?_, rfl⟩⟩
  · -- The question counts as judged exactly when it is answered without a fault.
    have hjudged : e.classifier.judged [.classify o] =
        if e.classifier.fault? o = none then [o] else [] := by
      simp [Classifier.judged, Query.classified?, List.filter_cons, Classifier.judges_iff, hname]
    rw [← hjudged]
    exact hholds
  · cases hfault : e.classifier.fault? o with
    | none => exact Classifier.reply_of_judges (Classifier.judges_iff.mpr ⟨hname, hfault⟩)
    | some fault =>
      have hbase : e.classifier.base o = .error (.illTyped fault) := by
        rw [Classifier.base, Classifier.answer, if_pos hname, hfault]
      rw [Classifier.reply, hbase]
      rfl

/-- **One name.**  Its tags are those of the emission, and its diagnostic is logged, unless
    something about it is ill-typed. -/
theorem emitName_eq (ls : Array (List Char))
    (h : Classifier.Session.Holds e.classifier past st.session)
    (hname : o.val.isIdentifier = true) :
    ∃ more session, Classifier.Session.Holds e.classifier (past ++ more) session ∧
      (e.faultOf? o = none → more = [o]) ∧
      emitName e ls o st =
        (outcome (e.faultOf? o) (e.tagsOf ls o),
          { session
            logged := st.logged ++
              if e.faultOf? o = none then (e.diagnostic? ls o).toList else [] }) := by
  obtain ⟨session, hholds, hask⟩ := ask_eq h hname
  cases hfault : e.classifier.fault? o with
  | some fault =>
    have hsome : e.faultOf? o = some fault := by
      rw [Emission.faultOf?, hfault]
      rfl
    rw [if_neg (by simp [hfault])] at hholds
    refine ⟨[], session, hholds, fun hnone => ?_, ?_⟩
    · rw [hsome] at hnone
      cases hnone
    · rw [emitName, bind_apply, hask, hfault, hsome]
      simp [outcome]
  | none =>
    have hscan : e.faultOf? o = Selector.fault? e.classifier e.source o := by
      rw [Emission.faultOf?, hfault]
      rfl
    rw [if_pos hfault] at hholds
    have hmemo : session.remembered? o.val.index = some (e.classifier.verdict o) := by
      rw [hholds.remembered, if_pos (by simp)]
    refine ⟨[o], session, hholds, fun _ => rfl, ?_⟩
    rw [emitName, bind_apply, hask, hfault, hscan]
    simp only [outcome, bind_apply]
    rw [scan_eq hfault hmemo]
    cases Selector.fault? e.classifier e.source o with
    | some fault => simp [outcome]
    | none =>
      -- an unknown name is logged once its lookup has been scanned
      by_cases hverdict : e.classifier.verdict o = .unknown
      · simp only [outcome, if_pos hverdict, Emission.diagnostic?]
        rfl
      · simp only [outcome, if_neg hverdict, Emission.diagnostic?]
        simp [pure_apply, Emission.tagsOf, Emission.ownTag?, Emission.selectorTags]

/-- **Names in a row.**  Those before one that cannot be reported have their diagnostics logged. -/
theorem emitNames_eq (ls : Array (List Char)) (os : List e.classifier.tree.Member) (st : Emitting)
    (h : Classifier.Session.Holds e.classifier past st.session)
    (hnames : ∀ o ∈ os, o.val.isIdentifier = true) :
    ∃ more session, Classifier.Session.Holds e.classifier (past ++ more) session ∧
      ((os.map (·.val)).findSome? e.faultOf? = none → more = os) ∧
      emitNames e ls (os.map (·.val)) st =
        (outcome ((os.map (·.val)).findSome? e.faultOf?) ((os.map (·.val)).flatMap (e.tagsOf ls)),
          { session
            logged := st.logged ++
              ((os.map (·.val)).takeWhile fun o => (e.faultOf? o).isNone).filterMap
                (e.diagnostic? ls) }) := by
  induction os generalizing past st with
  | nil =>
    refine ⟨[], st.session, (List.append_nil past).symm ▸ h, fun _ => rfl, ?_⟩
    simp [emitNames, pure_apply, outcome]
  | cons o rest ih =>
    obtain ⟨ho, hrest⟩ := List.forall_mem_cons.mp hnames
    obtain ⟨more, session, hholds, hmore, hone⟩ := emitName_eq ls h ho
    rw [List.map_cons, emitNames, bind_apply, hone, List.findSome?_cons, List.takeWhile_cons]
    cases hfault : e.faultOf? o with
    | some fault =>
      -- what is ill-typed ends the row, and nothing of it is handed on
      refine ⟨more, session, hholds, fun hnone => ?_, ?_⟩
      · cases hnone
      · simp [outcome]
    | none =>
      obtain ⟨more', session', hholds', hmore', hrow⟩ :=
        ih ⟨session, st.logged ++ (e.diagnostic? ls o).toList⟩ hholds hrest
      refine ⟨more ++ more', session', List.append_assoc .. ▸ hholds', fun hnone => ?_, ?_⟩
      · rw [hmore hfault, hmore' hnone, List.singleton_append]
      · simp only [outcome, if_pos, bind_apply, hrow, Option.isNone_none, List.filterMap_cons,
          List.flatMap_cons, List.append_assoc]
        cases (rest.map (·.val)).findSome? e.faultOf? <;>
          cases e.diagnostic? ls o <;> simp [pure_apply]

/-- What differs is all kept. -/
theorem eraseDups_of_nodup {α : Type} [DecidableEq α] {xs : List α} (h : xs.Nodup) :
    xs.eraseDups = xs := by
  induction xs with
  | nil => rfl
  | cons x xs ih =>
    obtain ⟨hx, hxs⟩ := List.nodup_cons.mp h
    have hkept : xs.filter (fun y => !y == x) = xs := by
      rw [List.filter_eq_self]
      intro y hy
      rw [Bool.not_eq_true', beq_eq_false_iff_ne]
      exact fun heq => hx (heq ▸ hy)
    rw [List.eraseDups_cons, hkept, ih hxs]

/-- **Emitting.**  From a fresh session the work comes to the report of the emission, refused by
    what ends that one, with its diagnostics logged.  If nothing ends it, each policy has been
    called once for every name, in their order, although names of lookups are asked about twice. -/
theorem emit_eq_report (root : Node) (htree : e.classifier.tree = Tree.ofRoot root) :
    (emit e {}).1 = outcome e.fault? e.report.tags ∧
    (emit e {}).2.logged = e.report.diagnostics ∧
    (e.fault? = none → ∃ names : List e.classifier.tree.Member,
      names.map (·.val) = e.classifier.tree.identifiers ∧
      (emit e {}).2.session.calls = names.flatMap e.classifier.policyCalls) := by
  have hmem : ∀ o ∈ e.classifier.tree.identifiers, e.classifier.tree.get? o.index = some o := by
    rw [htree]
    exact fun o ho => Tree.get?_of_mem_identifiers root ho
  -- The identifiers as members of the arena, which is what the classifier is asked about.
  obtain ⟨names, hnames⟩ : ∃ names : List e.classifier.tree.Member,
      names.map (·.val) = e.classifier.tree.identifiers :=
    ⟨e.classifier.tree.identifiers.pmap Subtype.mk hmem, by simp [List.map_pmap]⟩
  have hidentifiers : ∀ o ∈ names, o.val.isIdentifier = true := by
    intro o ho
    have hin : o.val ∈ e.classifier.tree.identifiers := hnames ▸ List.mem_map_of_mem ho
    exact (List.mem_filter.mp hin).2
  obtain ⟨more, session, hholds, hmore, hemit⟩ := emitNames_eq e.sourceLines
    names {} (Classifier.Session.Holds.start e.classifier) hidentifiers
  rw [hnames] at hmore hemit
  rw [emit, hemit]
  refine ⟨?_, rfl, fun hfault => ⟨names, hnames, ?_⟩⟩
  · show outcome e.fault? _ = outcome e.fault? _
    cases hfault : e.fault? with
    | some fault => rfl
    | none => rw [Emission.tags_eq_of_fault? hfault]
  · -- No identifier is met twice, so the calls are one round of policies for each.
    have hnodup : names.Nodup := by
      apply List.Nodup.of_map (·.val)
      rw [hnames, htree]
      exact Tree.nodup_identifiers root
    rw [hholds.calls, hmore hfault, List.nil_append, eraseDups_of_nodup hnodup]

end Emitter

end SymbolTags
