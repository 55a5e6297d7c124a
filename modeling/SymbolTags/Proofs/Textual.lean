import Mathlib.Data.List.TakeWhile
import Mathlib.Data.Option.Basic
import SymbolTags.Proofs.Lookup
import SymbolTags.Report.Emission

namespace SymbolTags

open Syntax

/-!
# Textual trees — reports that reach their end

A report stops at the first name that it cannot classify or scan.  On the trees that a parser
of ECMAScript makes this does not happen, because names and raw forms are texts there:

* `Node.Textual` — names, raw literals and raw template parts below a root are texts, or not
  set at all;
* `Classifier.fault?_eq_none` and `Selector.fault?_eq_none` — then every rule can be applied,
  and every argument can be read;
* `Emission.fault?_eq_none` and `Emission.reported_eq` — so the report covers all names, whatever
  the rules and policies.
-/

/-! ### Textual values -/

namespace Syntax

/-- A text, or nothing. -/
def Value.IsText : Value → Prop
  | .null => True
  | .str _ => True
  | _ => False

/-- A text can be looked up in a set. -/
theorem Value.IsText.keyFault?_eq_none {v : Value} (h : v.IsText) : v.keyFault? = none := by
  cases v with
  | null => rfl
  | str s => rfl
  | _ => exact h.elim

/-- A text can be read as one. -/
theorem Value.IsText.exists_asText {v : Value} (h : v.IsText) : ∃ s, v.asText = .ok s := by
  cases v with
  | null => exact ⟨"", rfl⟩
  | str s =>
    by_cases hs : (Value.str s).isTruthy = true
    · exact ⟨s, if_pos hs⟩
    · exact ⟨"", if_neg hs⟩
  | _ => exact h.elim

/-- What a report reads at a spot is textual: the name of an identifier, the raw form of a
    literal, and the raw form of a template part. -/
structure Spot.Textual (s : Spot) : Prop where
  name : s.node.name.IsText
  raw : s.node.kind = "Literal" → (s.node.attr "raw").IsText
  templateRaw : (∃ step ∈ s.above.head?, step.prop = "quasis") →
    (Selector.templateRaw s.node).IsText

/-- Every spot below a root is textual. -/
def Node.Textual (root : Node) : Prop :=
  ∀ s ∈ root.unfold [], s.Textual

namespace Tree

variable {root : Node} {i : Nat} {o : Occurrence}

/-- Every occurrence of a textual tree is textual where it stands. -/
theorem textual_spot (h : root.Textual) (ho : (ofRoot root).get? i = some o) :
    ((ofRoot root).spot o).Textual :=
  h _ (spot_mem_unfold root ho)

/-- So its name is a text, or it has none. -/
theorem isText_name (h : root.Textual) (ho : (ofRoot root).get? i = some o) : o.name.IsText :=
  (textual_spot h ho).name

/-- The names of an arena are texts, whatever stands in literals and templates. -/
def TextNamed (t : Tree) : Prop :=
  ∀ (i : Nat) (o : Occurrence), t.get? i = some o → o.name.IsText

theorem textNamed_of_forall_unfold (h : ∀ s ∈ root.unfold [], s.node.name.IsText) :
    (ofRoot root).TextNamed :=
  fun _ o ho => h ((ofRoot root).spot o) (spot_mem_unfold root ho)

end Tree

/-! ### Relatives stand in the arena -/

namespace Tree.Layout

variable {t : Tree} {root : Node} {i : Nat} {o : Occurrence}

/-- A child that is looked up stands in the arena at its own index. -/
theorem get?_of_child? (h : t.Layout root) (ho : t.get? i = some o) {prop : String}
    {k : Occurrence} (hk : t.child? o prop = some k) : t.get? k.index = some k :=
  (h.link_of_mem_kids ho (h.mem_kids_of_child? ho hk)).1

theorem get?_of_mem_childrenOf (h : t.Layout root) (ho : t.get? i = some o) {prop : String}
    {k : Occurrence} (hk : k ∈ t.childrenOf o prop) : t.get? k.index = some k :=
  (h.link_of_mem_kids ho (h.mem_kids_of_mem_childrenOf ho hk)).1

end Tree.Layout

/-- What a climb meets stands at the parent of the link that it follows. -/
theorem Tree.get?_of_mem_climb (t : Tree) {steps : Nat} {link : Option Link} {a : Link × Occurrence}
    (ha : a ∈ t.climb steps link) : t.get? a.1.parent = some a.2 := by
  induction steps generalizing link with
  | zero => cases link <;> simp [climb] at ha
  | succ steps ih =>
    cases link with
    | none => simp [climb] at ha
    | some l =>
      rw [climb] at ha
      cases hp : t.get? l.parent with
      | none => simp [hp] at ha
      | some p =>
        simp only [hp, List.mem_cons] at ha
        rcases ha with rfl | ha
        · exact hp
        · exact ih ha

/-- The nearest ancestor of a kind stands in the arena. -/
theorem Tree.get?_of_nearestAncestor? (t : Tree) {o p : Occurrence} {kind side : String}
    (h : t.nearestAncestor? o kind = some (p, side)) : ∃ j, t.get? j = some p := by
  obtain ⟨a, ha, hpair⟩ := Option.map_eq_some_iff.mp h
  rw [Prod.mk.injEq] at hpair
  rw [← hpair.1]
  exact ⟨a.1.parent, t.get?_of_mem_climb (List.mem_of_find?_eq_some ha)⟩

end Syntax

/-! ### Rules -/

section

variable {root : Node} {i : Nat} {o : Occurrence}

/-- The names that a loop declares are texts. -/
theorem Rule.isText_of_mem_loopDeclaredNames (h : (Tree.ofRoot root).TextNamed)
    (ho : (Tree.ofRoot root).get? i = some o) {v : Value}
    (hv : v ∈ loopDeclaredNames (Tree.ofRoot root) o) : v.IsText := by
  have hlayout := Tree.ofRoot_layout root
  unfold loopDeclaredNames at hv
  split at hv
  · simp at hv
  · rename_i init hinit
    split_ifs at hv with hkind
    · obtain ⟨d, hd, hname⟩ := List.mem_filterMap.mp hv
      obtain ⟨hmap, -⟩ := Option.filter_eq_some_iff.mp hname
      obtain ⟨id, hid, rfl⟩ := Option.map_eq_some_iff.mp hmap
      have hget := hlayout.get?_of_mem_childrenOf (hlayout.get?_of_child? ho hinit) hd
      exact h _ _ (hlayout.get?_of_child? hget hid)
    · simp at hv

/-- Every rule can be applied where names are texts. -/
theorem Rule.fault?_eq_none (h : (Tree.ofRoot root).TextNamed)
    (ho : (Tree.ofRoot root).get? i = some o) (rule : Rule) :
    rule.fault? (Tree.ofRoot root) o = none := by
  cases rule with
  | loopScoped =>
    -- the one rule that looks names up: those of the loop and the name itself
    rw [fault?, Option.bind_eq_none_iff]
    intro loop hloop
    obtain ⟨⟨p, side⟩, hp, hside⟩ := Option.bind_eq_some_iff.mp hloop
    obtain ⟨j, hj⟩ := Tree.get?_of_nearestAncestor? _ hp
    have hpl : p = loop := by
      split_ifs at hside
      exact Option.some.inj hside
    subst hpl
    rw [List.findSome?_eq_none_iff]
    intro v hv
    rcases List.mem_append.mp hv with hv | hv
    · exact (isText_of_mem_loopDeclaredNames h hj hv).keyFault?_eq_none
    · rw [List.mem_singleton.mp hv]
      exact (h i o ho).keyFault?_eq_none
  | _ => rfl

variable {c : Classifier} {source : List Char}

/-- Where names are texts, every name can be classified. -/
theorem Classifier.fault?_of_textNamed (h : (Tree.ofRoot root).TextNamed)
    (hc : c.tree = Tree.ofRoot root) (ho : c.tree.get? i = some o) : c.fault? o = none := by
  rw [Classifier.fault?, Option.bind_eq_none_iff]
  intro rule _
  rw [hc] at ho ⊢
  exact rule.fault?_eq_none h ho

/-- Every name of a textual root can be classified. -/
theorem Classifier.fault?_eq_none (h : root.Textual) (hc : c.tree = Tree.ofRoot root)
    (ho : c.tree.get? i = some o) : c.fault? o = none :=
  fault?_of_textNamed (Tree.textNamed_of_forall_unfold fun s hs => (h s hs).name) hc ho

/-! ### Arguments of lookup calls -/

/-- A text, or a known range, gives a piece its text. -/
theorem Selector.pieceFault?_eq_none {p : Occurrence × Value} (hp : p.2.IsText) :
    pieceFault? source p = none := by
  obtain ⟨s, hs⟩ := hp.exists_asText
  -- with both offsets known the source is cut, else the raw form is read
  unfold pieceFault? sourceText
  rw [hs]
  split
  · rfl
  · rename_i e he
    split at he <;> simp [Except.map] at he

/-- Only a reference has an argument that is scanned, and the argument is one of a call in the
    arena. -/
theorem Selector.of_argument? {literal : Occurrence} (h : argument? c o = some literal) :
    c.verdict o = .reference ∧
      ∃ j call, c.tree.get? j = some call ∧ literal ∈ c.tree.childrenOf call "arguments" := by
  simp only [argument?, literal?, Option.bind_eq_bind, Option.bind_eq_some_iff,
    Option.guard_eq_some', Option.pure_def, Option.some.injEq, exists_const, beq_iff_eq] at h
  obtain ⟨hverdict, -, -, -, -, -, -, link, -, -, call, hcall, -, first, hfirst, -, rfl⟩ := h
  exact ⟨hverdict, link.parent, call, hcall, List.mem_of_mem_head? hfirst⟩

/-- The argument of a lookup call stands in the arena. -/
theorem Selector.get?_of_argument? (hc : c.tree = Tree.ofRoot root) {literal : Occurrence}
    (h : argument? c o = some literal) : c.tree.get? literal.index = some literal := by
  obtain ⟨-, j, call, hcall, hmem⟩ := of_argument? h
  rw [hc] at hcall hmem ⊢
  exact (Tree.ofRoot_layout root).get?_of_mem_childrenOf hcall hmem

/-- The raw forms of the pieces of a literal are texts. -/
theorem Selector.isText_of_mem_pieces (h : root.Textual) (hc : c.tree = Tree.ofRoot root)
    (ho : c.tree.get? i = some o) {p : Occurrence × Value} (hp : p ∈ pieces c.tree o) :
    p.2.IsText := by
  rw [hc] at ho hp
  have hlayout := Tree.ofRoot_layout root
  unfold pieces at hp
  split_ifs at hp with hkind
  · rw [List.mem_singleton.mp hp]
    exact (Tree.textual_spot h ho).raw (beq_iff_eq.mp hkind)
  · obtain ⟨q, hq, rfl⟩ := List.mem_map.mp hp
    obtain ⟨hget, l, hl, rfl, hprop⟩ :=
      hlayout.link_of_mem_kids ho (hlayout.mem_kids_of_mem_childrenOf ho hq)
    -- the last step to a part of the template leads through the property of such parts
    have hspot := hlayout.spot_eq hget hl ho
    have htextual := (Tree.textual_spot h hget).templateRaw
    rw [hspot] at htextual
    exact htextual ⟨_, rfl, hprop⟩

/-- Every argument can be read. -/
theorem Selector.fault?_eq_none (h : root.Textual) (hc : c.tree = Tree.ofRoot root)
    (ho : c.tree.get? i = some o) : fault? c source o = none := by
  have hname : o.name.keyFault? = none := by
    rw [hc] at ho
    exact (Tree.isText_name h ho).keyFault?_eq_none
  unfold fault?
  rw [Option.orElse_eq_none]
  refine ⟨hname, Option.bind_eq_none_iff.mpr fun _ _ => ?_⟩
  rw [Option.orElse_eq_none]
  refine ⟨Classifier.fault?_eq_none h hc ho, Option.bind_eq_none_iff.mpr fun literal hliteral => ?_⟩
  rw [List.findSome?_eq_none_iff]
  intro p hp
  exact pieceFault?_eq_none (isText_of_mem_pieces h hc (get?_of_argument? hc hliteral) hp)

end

/-- **Reports reach their end.**  On a textual tree nothing stops a report, whatever the rules,
    the policies and the source. -/
theorem Emission.fault?_eq_none {root : Node} (h : root.Textual) {e : Emission}
    (he : e.classifier.tree = Tree.ofRoot root) : e.fault? = none := by
  rw [fault?, List.findSome?_eq_none_iff]
  intro o ho
  have hget : e.classifier.tree.get? o.index = some o := by
    rw [he] at ho ⊢
    exact Tree.get?_of_mem_identifiers root ho
  rw [faultOf?, Classifier.fault?_eq_none h he hget, Selector.fault?_eq_none h he hget]
  rfl

section

variable {e : Emission}

/-- A report that nothing stops covers all names. -/
theorem Emission.reported_eq (h : e.fault? = none) :
    e.reported = e.classifier.tree.identifiers := by
  rw [reported, List.takeWhile_eq_self_iff]
  intro o ho
  rw [List.findSome?_eq_none_iff.mp h o ho]
  rfl

/-- Its tags are those of the names, one name after another. -/
theorem Emission.tags_eq_of_fault? (h : e.fault? = none) :
    e.report.tags = e.classifier.tree.identifiers.flatMap (e.tagsOf e.sourceLines) := by
  rw [← reported_eq h]
  rfl

/-- Its diagnostics are those of the names. -/
theorem Emission.diagnostics_eq_of_fault? (h : e.fault? = none) :
    e.report.diagnostics
      = e.classifier.tree.identifiers.filterMap (e.diagnostic? e.sourceLines) := by
  rw [← reported_eq h]
  rfl

end

end SymbolTags
