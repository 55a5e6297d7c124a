import SymbolTags.Proofs.Similarity
import SymbolTags.Proofs.Textual
import SymbolTags.Tagging.Source

namespace SymbolTags

open Syntax

/-!
# Twins — one node in two programs

When a statement moves from one program to another, the nodes below it stay what they are and
only the step from the program to the statement changes.  Occurrences that differ in this step
alone are twins:

* `Twins` — the relation, read off the spots, and `Twins.similarity`, which says that lookups
  keep it;
* `Twins.verdict_eq`, `Twins.fault?_eq` and `Twins.tagsOf_eq` — twins get the same verdict, are
  refused for the same reason and have the same tags;
* `Twins.diagnostic?_eq` — their diagnostics differ in the first segment of the trace.
-/

/-- The classifier of a program, as the settings ask for it. -/
def classifierOf (settings : Settings) (root : Node) : Classifier where
  tree := Tree.ofRoot root
  policies := settings.policies

/-- Its tree is that of the root. -/
@[simp] theorem tree_classifierOf (settings : Settings) (root : Node) :
    (classifierOf settings root).tree = Tree.ofRoot root := rfl

/-- The step from a program to one of its statements. -/
def statementStep (program : Node) (k : Nat) : Step :=
  ⟨program, "body", some k⟩

/-- The segment of a trace that leads through a step. -/
def Syntax.Step.segment (s : Step) : String :=
  Link.segment ⟨0, s.prop, s.position⟩ s.parent.kind

/-- The trace of an occurrence follows the steps to its spot. -/
theorem Syntax.Tree.structuralPath_eq_spot (t : Tree) (o : Occurrence) :
    t.structuralPath o = ((t.spot o).above.map Step.segment).reverse := by
  unfold structuralPath spot
  rw [List.map_map]
  rfl

/-- The segment of a trace that leads from a program to one of its statements. -/
def statementMark (k : Nat) : String :=
  "Program.body[" ++ toString k ++ "]"

/-- It is what the step to that statement is written as. -/
theorem segment_statementStep {program : Node} (h : program.kind = programKind) (k : Nat) :
    (statementStep program k).segment = statementMark k := by
  show program.kind ++ "." ++ "body" ++ "[" ++ toString k ++ "]" = _
  rw [h]
  rfl

/-- A diagnostic as it reads when its statement has another index. -/
def Diagnostic.inStatement (k : Nat) (d : Diagnostic) : Diagnostic :=
  { d with trace := statementMark k :: d.trace.tail }

/-- Occurrences of one node below the statement at index `k` of a program and below the one at
    index `k'` of another. -/
structure Twins (root root' : Node) (k k' : Nat) (o o' : Occurrence) : Prop where
  program : root.kind = programKind
  program' : root'.kind = programKind
  get? : (Tree.ofRoot root).get? o.index = some o
  get?' : (Tree.ofRoot root').get? o'.index = some o'
  spot : ∃ s : Spot, (Tree.ofRoot root).spot o = s.under [statementStep root k] ∧
    (Tree.ofRoot root').spot o' = s.under [statementStep root' k']

/-- Lists that answer to each other are mapped to the same list. -/
theorem map_eq_of_forall₂ {α β γ : Type} {r : α → β → Prop} {xs : List α} {ys : List β}
    {f : α → γ} {g : β → γ} (h : List.Forall₂ r xs ys)
    (hfg : ∀ {x : α} {y : β}, r x y → f x = g y) : xs.map f = ys.map g := by
  rw [← List.forall₂_eq_eq_eq, List.forall₂_map_left_iff, List.forall₂_map_right_iff]
  exact h.imp fun _ _ => hfg

/-- The scanned argument of a lookup call, place by place. -/
theorem Selector.argument?_eq_ownerAt? (c : Classifier) (o : Occurrence) :
    argument? c o =
      if c.verdict o = .reference then
        (ownerAt? c.tree ⟨"MemberExpression", "property"⟩ o).bind fun member =>
          (ownerAt? c.tree ⟨"CallExpression", "callee"⟩ member).bind fun call =>
            (c.tree.childrenOf call "arguments").head?.filter isScannable
      else none := by
  have hfirst : ∀ call, (do
      let first ← (c.tree.childrenOf call "arguments").head?
      guard (isScannable first)
      return first) = (c.tree.childrenOf call "arguments").head?.filter isScannable := by
    intro call
    cases (c.tree.childrenOf call "arguments").head? with
    | none => rfl
    | some first => by_cases hscan : isScannable first <;> simp [hscan, Option.filter_some]
  unfold argument? literal?
  by_cases hverdict : c.verdict o = .reference
  · rw [if_pos hverdict, hverdict]
    simp only [bind_link_eq_ownerAt?, hfirst]
    rfl
  · rw [if_neg hverdict, beq_eq_false_iff_ne.mpr hverdict]
    rfl

/-! ### Spots and links -/

namespace Syntax.Tree.Layout

variable {t : Tree} {root : Node} {i : Nat} {o : Occurrence}

/-- Exactly the occurrences that have a link have something above them. -/
theorem above_eq_nil_iff (h : t.Layout root) (ho : t.get? i = some o) :
    (t.spot o).above = [] ↔ o.link = none := by
  constructor
  · intro habove
    cases hl : o.link with
    | none => rfl
    | some l =>
      obtain ⟨-, p, hp, -⟩ := h.exists_parent ho hl
      rw [h.spot_eq ho hl hp] at habove
      simp at habove
  · intro hl
    rw [t.spot_of_link_none hl]

/-- An occurrence with steps above it hangs on its parent through the last of them. -/
theorem exists_up?_of_above (h : t.Layout root) (ho : t.get? i = some o) {step : Step}
    {rest : List Step} (habove : (t.spot o).above = step :: rest) :
    ∃ a, t.up? o = some a ∧ a.2.node = step.parent ∧ a.1.prop = step.prop ∧
      t.get? a.2.index = some a.2 ∧ (t.spot a.2).above = rest := by
  cases hl : o.link with
  | none =>
    rw [(h.above_eq_nil_iff ho).mpr hl] at habove
    simp at habove
  | some l =>
    obtain ⟨-, p, hp, -⟩ := h.exists_parent ho hl
    rw [h.spot_eq ho hl hp, List.cons.injEq] at habove
    obtain ⟨rfl, hrest⟩ := habove
    refine ⟨(l, p), by simp [up?, hl, hp], rfl, rfl, ?_, hrest⟩
    show t.get? p.index = some p
    rw [h.index_eq hp]
    exact hp

end Syntax.Tree.Layout

namespace Twins

variable {root root' : Node} {k k' : Nat} {o o' : Occurrence}

/-- Twins are occurrences of one node. -/
theorem node_eq (h : Twins root root' k k' o o') : o.node = o'.node := by
  obtain ⟨s, hs, hs'⟩ := h.spot
  have hnode : o.node = s.node := congrArg Spot.node hs
  have hnode' : o'.node = s.node := congrArg Spot.node hs'
  rw [hnode, hnode']

/-- So they are of one kind. -/
theorem kind_eq (h : Twins root root' k k' o o') : o.kind = o'.kind := by
  rw [Occurrence.kind, Occurrence.kind, h.node_eq]

/-- They have one name. -/
theorem name_eq (h : Twins root root' k k' o o') : o.name = o'.name := by
  rw [Occurrence.name, Occurrence.name, h.node_eq]

/-- They start at one place. -/
theorem position_eq (h : Twins root root' k k' o o') : o.position = o'.position := by
  rw [Occurrence.position, Occurrence.position, h.node_eq]

/-- **The step up.**  The parents of twins are twins, or else the two programs. -/
theorem up (h : Twins root root' k k' o o') :
    Option.Rel
      (fun a a' => a.1.prop = a'.1.prop ∧ a.2.kind = a'.2.kind ∧
        (Twins root root' k k' a.2 a'.2 ∨
          a.2.kind = programKind ∧ a.2.link = none ∧ a'.2.link = none))
      ((Tree.ofRoot root).up? o) ((Tree.ofRoot root').up? o') := by
  have hlayout := Tree.ofRoot_layout root
  have hlayout' := Tree.ofRoot_layout root'
  obtain ⟨⟨n, above⟩, hs, hs'⟩ := h.spot
  have habove := congrArg Spot.above hs
  have habove' := congrArg Spot.above hs'
  simp only [Spot.under] at habove habove'
  cases above with
  | nil =>
    -- the twins are the statements themselves and hang on the programs
    obtain ⟨a, ha, hnode, hprop, hget, hrest⟩ := hlayout.exists_up?_of_above h.get? habove
    obtain ⟨a', ha', hnode', hprop', hget', hrest'⟩ := hlayout'.exists_up?_of_above h.get?' habove'
    rw [ha, ha']
    have hkind : a.2.kind = programKind := by rw [Occurrence.kind, hnode]; exact h.program
    have hkind' : a'.2.kind = programKind := by rw [Occurrence.kind, hnode']; exact h.program'
    exact .some ⟨by rw [hprop, hprop']; rfl, by rw [hkind, hkind'],
      .inr ⟨hkind, (hlayout.above_eq_nil_iff hget).mp hrest,
        (hlayout'.above_eq_nil_iff hget').mp hrest'⟩⟩
  | cons step rest =>
    -- further down the parents stand at one spot, with one step less above it
    obtain ⟨a, ha, hnode, hprop, hget, hrest⟩ := hlayout.exists_up?_of_above h.get? habove
    obtain ⟨a', ha', hnode', hprop', hget', hrest'⟩ := hlayout'.exists_up?_of_above h.get?' habove'
    rw [ha, ha']
    refine .some ⟨by rw [hprop, hprop'], by rw [Occurrence.kind, Occurrence.kind, hnode, hnode'],
      .inl ⟨h.program, h.program', hget, hget', ⟨step.parent, rest⟩, ?_, ?_⟩⟩
    · rw [← hnode]
      exact congrArg₂ Spot.mk rfl hrest
    · rw [← hnode']
      exact congrArg₂ Spot.mk rfl hrest'

/-! ### The steps down -/

/-- Children that the same entry became are twins. -/
theorem of_became (h : Twins root root' k k' o o') {c c' : Occurrence} {e : Entry}
    (hc : (Tree.ofRoot root).Became o.index c e) (hc' : (Tree.ofRoot root').Became o'.index c' e) :
    Twins root root' k k' c c' := by
  obtain ⟨hget, hnode, hlink⟩ := hc
  obtain ⟨hget', hnode', hlink'⟩ := hc'
  obtain ⟨s, hs, hs'⟩ := h.spot
  -- the spot of the child is one step below that of the parent, on both sides
  refine ⟨h.program, h.program', hget, hget', ⟨e.node, e.step s.node :: s.above⟩, ?_, ?_⟩
  · rw [(Tree.ofRoot_layout root).spot_eq hget hlink h.get?, hs, hnode]
    have : o.node = s.node := congrArg Spot.node hs
    rw [this]
    rfl
  · rw [(Tree.ofRoot_layout root').spot_eq hget' hlink' h.get?', hs', hnode']
    have : o'.node = s.node := congrArg Spot.node hs'
    rw [this]
    rfl

/-- The children of a property of twins are twins, one by one. -/
theorem forall₂_kids (h : Twins root root' k k' o o') (prop : String) :
    List.Forall₂ (Twins root root' k k') ((Tree.ofRoot root).kids o prop)
      ((Tree.ofRoot root').kids o' prop) := by
  have hkids := (Tree.ofRoot_layout root).forall₂_kids h.get? prop
  have hkids' := (Tree.ofRoot_layout root').forall₂_kids h.get?' prop
  rw [← h.node_eq] at hkids'
  -- both lists answer to the entries of the one node
  generalize (Tree.ofRoot root).kids o prop = cs, (Tree.ofRoot root').kids o' prop = cs',
    o.node.children.filter (fun e => e.prop = prop) = es at hkids hkids' ⊢
  induction hkids generalizing cs' with
  | nil =>
    rw [List.forall₂_nil_right_iff] at hkids'
    rw [hkids']
    exact .nil
  | cons hc _ ih =>
    obtain ⟨c', rest', hc', hrest', rfl⟩ := List.forall₂_cons_right_iff.mp hkids'
    exact .cons (h.of_became hc hc') (ih rest' hrest')

/-- So are the first of them. -/
theorem head?_kids_rel (h : Twins root root' k k' o o') (prop : String) :
    Option.Rel (Twins root root' k k') ((Tree.ofRoot root).kids o prop).head?
      ((Tree.ofRoot root').kids o' prop).head? := by
  have hkids := h.forall₂_kids prop
  generalize (Tree.ofRoot root).kids o prop = cs, (Tree.ofRoot root').kids o' prop = cs'
    at hkids ⊢
  cases hkids with
  | nil => exact .none
  | cons hc _ => exact .some hc

/-- **The step down to a single child** leads to twins. -/
theorem child (h : Twins root root' k k' o o') (prop : String) :
    Option.Rel (Twins root root' k k') ((Tree.ofRoot root).child? o prop)
      ((Tree.ofRoot root').child? o' prop) := by
  rw [(Tree.ofRoot_layout root).child?_eq_match h.get?,
    (Tree.ofRoot_layout root').child?_eq_match h.get?', ← h.node_eq]
  split_ifs
  · exact .none
  · split
    · exact h.head?_kids_rel prop
    · exact .none

/-- **The step down to all children** of a property leads to twins. -/
theorem children (h : Twins root root' k k' o o') (prop : String) :
    List.Forall₂ (Twins root root' k k') ((Tree.ofRoot root).childrenOf o prop)
      ((Tree.ofRoot root').childrenOf o' prop) := by
  rw [(Tree.ofRoot_layout root).childrenOf_eq_match h.get?,
    (Tree.ofRoot_layout root').childrenOf_eq_match h.get?', ← h.node_eq]
  split_ifs
  · exact .nil
  · split
    · obtain ⟨hnone, hnone'⟩ | ⟨c, c', hsome, hsome', hc⟩ := rel_cases (h.head?_kids_rel prop)
      · rw [hnone, hnone']
        exact .nil
      · rw [hsome, hsome']
        exact .cons hc .nil
    · exact .nil
    · exact h.forall₂_kids prop
    · exact .nil

/-- **Twins are similar.** -/
theorem similarity (root root' : Node) (k k' : Nat) :
    Similarity root root' (Twins root root' k k') where
  get? h := ⟨h.get?, h.get?'⟩
  kind h := h.kind_eq
  shorthand h := by rw [h.node_eq]
  isTruthy_name h := by rw [h.name_eq]
  isText_constructor h := by rw [h.name_eq]
  same_name ha hb := by rw [ha.name_eq, hb.name_eq]
  up h := h.up
  child h := h.child
  children h prop := ⟨_, .refl _, h.children prop⟩

/-! ### Verdicts and faults -/

variable (settings : Settings)

/-- **Verdicts.**  Twins get the same verdict, with the policy for modules and without. -/
theorem verdict_eq (h : Twins root root' k k' o o') :
    (classifierOf settings root).verdict o = (classifierOf settings root').verdict o' := by
  have hbase : (classifierOf settings root).baseVerdict o
      = (classifierOf settings root').baseVerdict o' :=
    (similarity root root' k k').baseVerdict_eq h rfl rfl rfl RuleTable.standard_isLocal
  show settings.policies.foldl _ _ = settings.policies.foldl _ _
  rw [hbase]
  unfold Settings.policies
  split_ifs
  · refine (similarity root root' k k').adjust_require_eq (fun ht s => ?_) (fun ht => ?_) h _
    · rw [ht.name_eq]
    · rw [ht.node_eq]
  · rfl

/-- Twins declare the same names, as loops. -/
theorem loopDeclaredNames_eq (h : Twins root root' k k' o o') :
    Rule.loopDeclaredNames (Tree.ofRoot root) o
      = Rule.loopDeclaredNames (Tree.ofRoot root') o' := by
  have declared : ∀ {d d' : Occurrence}, Twins root root' k k' d d' →
      Rule.declaredName? (Tree.ofRoot root) d = Rule.declaredName? (Tree.ofRoot root') d' := by
    intro d d' hd
    unfold Rule.declaredName?
    obtain ⟨hid, hid'⟩ | ⟨n, n', hid, hid', hn⟩ := rel_cases (hd.child "id")
    · rw [hid, hid']
    · rw [hid, hid', Option.map_some, Option.map_some, hn.name_eq]
  rw [Rule.loopDeclaredNames_eq, Rule.loopDeclaredNames_eq]
  obtain ⟨hinit, hinit'⟩ | ⟨init, init', hinit, hinit', hi⟩ := rel_cases (h.child "init")
  · rw [hinit, hinit']
    rfl
  · rw [hinit, hinit', Option.elim_some, Option.elim_some, hi.kind_eq]
    split_ifs
    · have hds := map_eq_of_forall₂ (hi.children "declarations") declared
      have hnames := congrArg (List.filterMap id) hds
      rwa [List.filterMap_map, List.filterMap_map] at hnames
    · rfl

/-- A rule can be applied to both twins, or is refused for the same reason. -/
theorem rule_fault?_eq (h : Twins root root' k k' o o') (rule : Rule) :
    rule.fault? (Tree.ofRoot root) o = rule.fault? (Tree.ofRoot root') o' := by
  cases rule with
  | loopScoped =>
    simp only [Rule.fault?]
    obtain ⟨hnone, hnone'⟩ | ⟨loop, loop', hsome, hsome', hloop⟩ :=
      rel_cases ((similarity root root' k k').headerOf?_rel h)
    · rw [hnone, hnone']
      rfl
    · rw [hsome, hsome', Option.bind_some, Option.bind_some, hloop.loopDeclaredNames_eq, h.name_eq]
  | _ => rfl

/-- Both twins can be classified, or neither for the same reason. -/
theorem classifier_fault?_eq (h : Twins root root' k k' o o') :
    (classifierOf settings root).fault? o = (classifierOf settings root').fault? o' := by
  have hrule : (classifierOf settings root).ruleOf? o = (classifierOf settings root').ruleOf? o' :=
    congrArg (Option.bind · RuleTable.standard.rule?)
      ((similarity root root' k k').placeOf?_eq h)
  unfold Classifier.fault?
  rw [hrule]
  exact congrArg _ (funext fun rule => h.rule_fault?_eq rule)

/-! ### Arguments of lookup calls -/

/-- The same literals are scanned. -/
theorem isScannable_eq (h : Twins root root' k k' o o') :
    Selector.isScannable o = Selector.isScannable o' := by
  rw [Selector.isScannable, Selector.isScannable, h.kind_eq, h.node_eq]

/-- The first arguments of twins are twins, and both are scanned or neither. -/
theorem first_rel (h : Twins root root' k k' o o') :
    Option.Rel (Twins root root' k k')
      (((Tree.ofRoot root).childrenOf o "arguments").head?.filter Selector.isScannable)
      (((Tree.ofRoot root').childrenOf o' "arguments").head?.filter Selector.isScannable) := by
  have harguments := h.children "arguments"
  generalize (Tree.ofRoot root).childrenOf o "arguments" = as,
    (Tree.ofRoot root').childrenOf o' "arguments" = as' at harguments ⊢
  cases harguments with
  | nil => exact .none
  | cons ha _ =>
    rw [List.head?_cons, List.head?_cons, Option.filter_some, Option.filter_some, ha.isScannable_eq]
    split_ifs
    · exact .some ha
    · exact .none

/-- Twins have the same argument scanned, up to twins. -/
theorem argument?_rel (h : Twins root root' k k' o o') :
    Option.Rel (Twins root root' k k') (Selector.argument? (classifierOf settings root) o)
      (Selector.argument? (classifierOf settings root') o') := by
  have hsimilar := similarity root root' k k'
  rw [Selector.argument?_eq_ownerAt?, Selector.argument?_eq_ownerAt?, h.verdict_eq settings]
  split_ifs with hverdict
  · refine rel_bind (hsimilar.ownerAt?_rel h ⟨"MemberExpression", "property"⟩ (by decide)) ?_
    intro member member' hmember
    refine rel_bind (hsimilar.ownerAt?_rel hmember ⟨"CallExpression", "callee"⟩ (by decide)) ?_
    intro call call' hcall
    exact hcall.first_rel
  · exact .none

/-- The pieces of a literal and of its twin are parts of the same nodes. -/
theorem forall₂_pieces (h : Twins root root' k k' o o') :
    List.Forall₂ (fun p p' => p.1.node = p'.1.node ∧ p.2 = p'.2)
      (Selector.pieces (Tree.ofRoot root) o) (Selector.pieces (Tree.ofRoot root') o') := by
  unfold Selector.pieces
  rw [h.kind_eq]
  split_ifs
  · exact .cons ⟨h.node_eq, by rw [h.node_eq]⟩ .nil
  · rw [List.forall₂_map_left_iff, List.forall₂_map_right_iff]
    exact (h.children "quasis").imp fun q q' hq => ⟨hq.node_eq, by rw [hq.node_eq]⟩

variable (source : List Char)

/-- A literal and its twin have the same pieces of text. -/
theorem segments_eq (h : Twins root root' k k' o o') :
    Selector.segments (Tree.ofRoot root) source o
      = Selector.segments (Tree.ofRoot root') source o' := by
  refine map_eq_of_forall₂ h.forall₂_pieces ?_
  rintro p p' ⟨hnode, hraw⟩
  simp only [Occurrence.position, hnode, hraw]

/-- Both twins lead to the same selector names. -/
theorem references_eq (h : Twins root root' k k' o o') :
    Selector.references (classifierOf settings root) source o
      = Selector.references (classifierOf settings root') source o' := by
  have hlookup : Selector.lookupOf? o = Selector.lookupOf? o' := by
    rw [Selector.lookupOf?, Selector.lookupOf?, h.name_eq]
  unfold Selector.references
  rw [hlookup]
  cases Selector.lookupOf? o' with
  | none => rfl
  | some lookup =>
    obtain ⟨hnone, hnone'⟩ | ⟨l, l', hsome, hsome', hl⟩ := rel_cases (h.argument?_rel settings)
    · simp only [hnone, hnone']
    · simp only [hsome, hsome', tree_classifierOf, hl.segments_eq source]

/-- The selector names of both twins can be read, or those of neither for the same reason. -/
theorem selector_fault?_eq (h : Twins root root' k k' o o') :
    Selector.fault? (classifierOf settings root) source o
      = Selector.fault? (classifierOf settings root') source o' := by
  have hlookup : Selector.lookupOf? o = Selector.lookupOf? o' := by
    rw [Selector.lookupOf?, Selector.lookupOf?, h.name_eq]
  unfold Selector.fault?
  rw [hlookup, h.name_eq, h.classifier_fault?_eq settings]
  obtain ⟨hnone, hnone'⟩ | ⟨l, l', hsome, hsome', hl⟩ := rel_cases (h.argument?_rel settings)
  · rw [hnone, hnone']
    rfl
  · have hpieces : (Selector.pieces (Tree.ofRoot root) l).findSome? (Selector.pieceFault? source)
        = (Selector.pieces (Tree.ofRoot root') l').findSome? (Selector.pieceFault? source) := by
      -- a search stops at the same piece if all pieces are refused alike
      have hfaults : (Selector.pieces (Tree.ofRoot root) l).map (Selector.pieceFault? source)
          = (Selector.pieces (Tree.ofRoot root') l').map (Selector.pieceFault? source) := by
        refine map_eq_of_forall₂ hl.forall₂_pieces ?_
        rintro p p' ⟨hnode, hraw⟩
        rw [Selector.pieceFault?, Selector.pieceFault?, hnode, hraw]
      have hfirst := congrArg (List.findSome? id) hfaults
      rwa [List.findSome?_map, List.findSome?_map] at hfirst
    simp only [hsome, hsome', Option.bind_some, tree_classifierOf, hpieces]

/-! ### Tags and diagnostics -/

variable (text path : String) (offsets : Offsets) (ls : Array (List Char))

/-- Both twins can be reported, or neither for the same reason. -/
theorem faultOf?_eq (h : Twins root root' k k' o o') :
    (emissionOf settings (Tree.ofRoot root) text path offsets).faultOf? o
      = (emissionOf settings (Tree.ofRoot root') text path offsets).faultOf? o' :=
  congrArg₂ (fun fault fault' => fault <|> fault') (h.classifier_fault?_eq settings)
    (h.selector_fault?_eq settings text.toList)

/-- Twins are reported under one name. -/
theorem shownName_eq (h : Twins root root' k k' o o') :
    Emission.shownName o = Emission.shownName o' := by
  rw [Emission.shownName, Emission.shownName, h.name_eq]

/-- **Tags.**  Twins have the same tags. -/
theorem tagsOf_eq (h : Twins root root' k k' o o') :
    (emissionOf settings (Tree.ofRoot root) text path offsets).tagsOf ls o
      = (emissionOf settings (Tree.ofRoot root') text path offsets).tagsOf ls o' := by
  have hown : (emissionOf settings (Tree.ofRoot root) text path offsets).ownTag? ls o
      = (emissionOf settings (Tree.ofRoot root') text path offsets).ownTag? ls o' := by
    show (TagKind.ofVerdict? ((classifierOf settings root).verdict o)).map _
      = (TagKind.ofVerdict? ((classifierOf settings root').verdict o')).map _
    rw [h.verdict_eq settings, h.shownName_eq, h.position_eq]
    rfl
  have hselectors : (emissionOf settings (Tree.ofRoot root) text path offsets).selectorTags ls o
      = (emissionOf settings (Tree.ofRoot root') text path offsets).selectorTags ls o' :=
    congrArg (List.map _) (h.references_eq settings text.toList)
  rw [Emission.tagsOf, Emission.tagsOf, hown, hselectors]

/-- The traces of twins start with the step to the statement and go on alike. -/
theorem structuralPath_eq (h : Twins root root' k k' o o') :
    ∃ rest, (Tree.ofRoot root).structuralPath o = statementMark k :: rest ∧
      (Tree.ofRoot root').structuralPath o' = statementMark k' :: rest := by
  obtain ⟨s, hs, hs'⟩ := h.spot
  refine ⟨(s.above.map Step.segment).reverse, ?_, ?_⟩
  · rw [Tree.structuralPath_eq_spot, hs, ← segment_statementStep h.program]
    simp [Spot.under]
  · rw [Tree.structuralPath_eq_spot, hs', ← segment_statementStep h.program']
    simp [Spot.under]

/-- **Diagnostics.**  Twins have the same diagnostic, up to the index of the statement. -/
theorem diagnostic?_eq (h : Twins root root' k k' o o') :
    (emissionOf settings (Tree.ofRoot root) text path offsets).diagnostic? ls o
      = ((emissionOf settings (Tree.ofRoot root') text path offsets).diagnostic? ls o').map
          (Diagnostic.inStatement k) := by
  obtain ⟨rest, htrace, htrace'⟩ := h.structuralPath_eq
  have hplace : (emissionOf settings (Tree.ofRoot root) text path offsets).placeText o
      = (emissionOf settings (Tree.ofRoot root') text path offsets).placeText o' := by
    have hplaceOf := (similarity root root' k k').placeOf?_eq h
    simp only [Emission.placeText, emissionOf, hplaceOf]
  have hverdict : (emissionOf settings (Tree.ofRoot root) text path offsets).classifier.verdict o
      = (emissionOf settings (Tree.ofRoot root') text path offsets).classifier.verdict o' :=
    h.verdict_eq settings
  unfold Emission.diagnostic? Emission.diagnosticOf
  rw [hverdict, hplace, h.shownName_eq, h.position_eq]
  split_ifs
  · rw [Option.map_some, Diagnostic.inStatement]
    simp only [emissionOf, htrace, htrace', List.tail_cons]
  · rfl

end Twins

end SymbolTags
