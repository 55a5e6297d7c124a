import SymbolTags.Proofs.Moved
import SymbolTags.Proofs.Similarity

namespace SymbolTags

open Syntax

/-!
# Ways — verdicts do not depend on where code stands

Locations and declaration order decide which index an occurrence gets and in which order children
come.  The way from the root down to it, by properties and positions in lists, does not depend on
either:

* `Tree.way` — the steps from the root down to an occurrence, which with distinct names lead
  nowhere else by `SameWay.eq_of_regular`;
* `SameWay` — occurrences of two arenas with the same way; in moved trees everything has a
  counterpart by `SameWay.exists_right`, and both hold moved nodes by `SameWay.moved`;
* `SameWay.similarity` — so rules and policies cannot tell them apart;
* `moving_keeps_verdicts` — names on the same way get the same verdict.
-/

/-! ### Keys of entries -/

namespace Syntax

/-- Where an entry hangs on its node: the property and, in a list, the position. -/
def Entry.key (e : Entry) : String × Option Nat :=
  (e.prop, e.position)

/-- With distinct names, no two children hang at one place. -/
theorem Node.nodup_keys {n : Node} (h : n.Distinct) : (n.children.map Entry.key).Nodup := by
  rw [(n.children_perm.map _).nodup_iff, List.Nodup, List.pairwise_map]
  refine (entries_pairwise_declaredBefore h).imp ?_
  intro a b hbefore heq
  obtain ⟨hprop, hposition⟩ := Prod.mk.inj heq
  rw [DeclaredBefore, hprop, hposition] at hbefore
  omega

/-- Moved nodes below a regular one have distinct names, too. -/
theorem Node.Moved.regular {ι : Nat → Nat → Prop} {n n' : Node} (h : n.Moved ι n')
    (hregular : n.Regular) : n'.Regular := by
  induction n' using Node.inductionOnChildren generalizing n with
  | step n' ih =>
    rw [regular_iff] at hregular ⊢
    refine ⟨h.distinct hregular.1, fun e' he' => ?_⟩
    have hmem' : e' ∈ n'.children := n'.children_perm.mem_iff.mpr he'
    obtain ⟨e, he, hentries⟩ := h.children.exists_of_mem_right hmem'
    exact ih e' hmem' hentries.2.2 (hregular.2 e (n.children_perm.mem_iff.mp he))

theorem Entry.Moved.key_eq {ι : Nat → Nat → Prop} {e e' : Entry} (h : e.Moved ι e') :
    e.key = e'.key := by
  rw [key, key, h.1, h.2.1]

/-! ### Ways -/

namespace Tree

/-- The steps from the root down to an occurrence. -/
def way (t : Tree) (o : Occurrence) : List (String × Option Nat) :=
  ((t.ancestors o).map fun a => (a.1.prop, a.1.position)).reverse

namespace Layout

variable {t : Tree} {root : Node} {i : Nat} {o : Occurrence}

/-- Every child became an occurrence. -/
theorem exists_became_of_mem (h : t.Layout root) (ho : t.get? i = some o) {e : Entry}
    (he : e ∈ o.node.children) : ∃ k, t.Became i k e := by
  obtain ⟨k, -, hk⟩ := Matched.exists_of_mem_right ⟨_, .refl _, h.forall₂_below ho⟩ he
  exact ⟨k, hk⟩

/-- An occurrence that hangs on another is what one of its children became. -/
theorem exists_entry_of_link (h : t.Layout root) (ho : t.get? i = some o) {l : Link}
    (hl : o.link = some l) :
    ∃ p e, t.get? p.index = some p ∧ p.index < i ∧ e ∈ p.node.children ∧
      t.Became p.index o e := by
  obtain ⟨hlt, p, hp, hmem⟩ := h.exists_parent ho hl
  have hbelow : o ∈ t.below p := List.mem_filterMap.mpr ⟨i, hmem, ho⟩
  obtain ⟨e, he, hbecame⟩ := Matched.exists_of_mem ⟨_, .refl _, h.forall₂_below hp⟩ hbelow
  have hindex : p.index = l.parent := h.index_eq hp
  rw [← hindex] at hp hlt hbecame
  exact ⟨p, e, hp, hlt, he, hbecame⟩

/-- With distinct names, no two children became an occurrence at one place. -/
theorem eq_of_became (h : t.Layout root) (ho : t.get? i = some o) (hd : o.node.Distinct)
    {k k₂ : Occurrence} {e e₂ : Entry} (hk : t.Became i k e) (hk₂ : t.Became i k₂ e₂)
    (hkey : e.key = e₂.key) : k = k₂ := by
  have hkeys : (t.below o).map (fun k => k.link.map fun l => (l.prop, l.position))
      = (o.node.children.map Entry.key).map some := by
    rw [List.map_map, ← List.forall₂_eq_eq_eq, List.forall₂_map_left_iff,
      List.forall₂_map_right_iff]
    refine (h.forall₂_below ho).imp fun k e hbecame => ?_
    rw [hbecame.2.2]
    rfl
  have hnodup := (Node.nodup_keys hd).map (Option.some_injective _)
  rw [← hkeys] at hnodup
  -- links and children agree, so both occurrences are among those below the parent
  have hmem : ∀ {k : Occurrence} {e : Entry}, t.Became i k e → k ∈ t.below o := by
    intro k e hbecame
    refine List.mem_filterMap.mpr ⟨k.index, ?_, hbecame.1⟩
    exact (h.mem_children_iff ho hbecame.1).mpr (by rw [hbecame.2.2]; rfl)
  refine List.inj_on_of_nodup_map hnodup (hmem hk) (hmem hk₂) ?_
  rw [hk.2.2, hk₂.2.2]
  exact congrArg some hkey

/-- The way to a child is the way to its parent and one more step. -/
theorem way_of_became (h : t.Layout root) (ho : t.get? i = some o) {k : Occurrence} {e : Entry}
    (hk : t.Became i k e) : t.way k = t.way o ++ [e.key] := by
  obtain ⟨hget, -, hlink⟩ := hk
  rw [way, h.ancestors_eq hget hlink ho, List.map_cons, List.reverse_cons]
  rfl

/-- Only the way to the root has no steps. -/
theorem way_eq_nil_iff (h : t.Layout root) (ho : t.get? i = some o) :
    t.way o = [] ↔ o.link = none := by
  constructor
  · intro hway
    cases hl : o.link with
    | none => rfl
    | some l =>
      obtain ⟨p, e, hp, -, -, hbecame⟩ := h.exists_entry_of_link ho hl
      rw [h.way_of_became hp hbecame] at hway
      simp at hway
  · intro hl
    rw [way, h.ancestors_eq_up? ho, t.up?_of_link_none hl]
    rfl

/-- What hangs on nothing is the root. -/
theorem node_eq_of_link_none (h : t.Layout root) (ho : t.get? i = some o) (hl : o.link = none) :
    o.node = root := by
  obtain ⟨r, hr, hnode, -⟩ := h.root_get
  rw [(h.link_eq_none_iff ho).mp hl, hr, Option.some.injEq] at ho
  rwa [← ho]

end Layout

end Tree

end Syntax

/-! ### Counterparts -/

/-- Occurrences of two arenas with the same way from the root. -/
structure SameWay (root root' : Node) (o o' : Occurrence) : Prop where
  get? : (Tree.ofRoot root).get? o.index = some o
  get?' : (Tree.ofRoot root').get? o'.index = some o'
  way_eq : (Tree.ofRoot root).way o = (Tree.ofRoot root').way o'

namespace SameWay

variable {root root' : Node} {o o' : Occurrence}

/-- Counterparts are the two roots, or children at one place of counterparts. -/
theorem top_or_below (h : SameWay root root' o o') :
    (o.link = none ∧ o'.link = none) ∨
      ∃ p p' e e', SameWay root root' p p' ∧ p.index < o.index ∧
        e ∈ p.node.children ∧ (Tree.ofRoot root).Became p.index o e ∧
        e' ∈ p'.node.children ∧ (Tree.ofRoot root').Became p'.index o' e' ∧ e.key = e'.key := by
  have hlayout := Tree.ofRoot_layout root
  have hlayout' := Tree.ofRoot_layout root'
  cases hl : o.link with
  | none =>
    have hway := (hlayout.way_eq_nil_iff h.get?).mpr hl
    rw [h.way_eq, hlayout'.way_eq_nil_iff h.get?'] at hway
    exact .inl ⟨rfl, hway⟩
  | some l =>
    cases hl' : o'.link with
    | none =>
      have hway := (hlayout'.way_eq_nil_iff h.get?').mpr hl'
      rw [← h.way_eq, hlayout.way_eq_nil_iff h.get?, hl] at hway
      simp at hway
    | some l' =>
      obtain ⟨p, e, hp, hlt, he, hbecame⟩ := hlayout.exists_entry_of_link h.get? hl
      obtain ⟨p', e', hp', -, he', hbecame'⟩ := hlayout'.exists_entry_of_link h.get?' hl'
      have hway := h.way_eq
      rw [hlayout.way_of_became hp hbecame, hlayout'.way_of_became hp' hbecame'] at hway
      -- the ways agree in their last step and in what comes before it
      obtain ⟨hparents, hkeys⟩ := List.append_inj' hway rfl
      exact .inr ⟨p, p', e, e', ⟨hp, hp', hparents⟩, hlt, he, hbecame, he', hbecame',
        (List.cons.inj hkeys).1⟩

/-- Children at one place of counterparts are counterparts. -/
theorem of_became (h : SameWay root root' o o') {k k' : Occurrence} {e e' : Entry}
    (hk : (Tree.ofRoot root).Became o.index k e) (hk' : (Tree.ofRoot root').Became o'.index k' e')
    (hkey : e.key = e'.key) : SameWay root root' k k' := by
  refine ⟨hk.1, hk'.1, ?_⟩
  rw [(Tree.ofRoot_layout root).way_of_became h.get? hk,
    (Tree.ofRoot_layout root').way_of_became h.get?' hk', h.way_eq, hkey]

/-- The steps up from counterparts lead to counterparts. -/
theorem up (h : SameWay root root' o o') :
    Option.Rel (fun a a' => a.1.prop = a'.1.prop ∧ SameWay root root' a.2 a'.2)
      ((Tree.ofRoot root).up? o) ((Tree.ofRoot root').up? o') := by
  rcases h.top_or_below with ⟨hl, hl'⟩ | ⟨p, p', e, e', hp, -, -, hbecame, -, hbecame', hkey⟩
  · rw [Tree.up?_of_link_none _ hl, Tree.up?_of_link_none _ hl']
    exact .none
  · rw [Tree.up?, Tree.up?, hbecame.2.2, hbecame'.2.2, Option.bind_some, Option.bind_some, hp.get?,
      hp.get?']
    exact .some ⟨(Prod.mk.inj hkey).1, hp⟩

/-- With distinct names, a way leads to one occurrence. -/
theorem eq_of_regular (hregular : root.Regular) {o₂ : Occurrence}
    (h : SameWay root root o o₂) : o = o₂ := by
  have hlayout := Tree.ofRoot_layout root
  induction hi : o.index using Nat.strong_induction_on generalizing o o₂ with
  | _ i ih =>
    rcases h.top_or_below with ⟨hl, hl₂⟩ | ⟨p, p₂, e, e₂, hp, hlt, -, hbecame, -, hbecame₂, hkey⟩
    · -- both are the root
      have hget := h.get?
      have hget₂ := h.get?'
      rw [(hlayout.link_eq_none_iff hget).mp hl] at hget
      rw [(hlayout.link_eq_none_iff hget₂).mp hl₂, hget, Option.some.injEq] at hget₂
      exact hget₂
    · -- the parents are one occurrence, and both hang at one place of it
      obtain rfl := ih p.index (hi ▸ hlt) hp rfl
      have hd : p.node.Distinct := hregular _ (Tree.spot_mem_unfold root hp.get?)
      exact hlayout.eq_of_became hp.get? hd hbecame hbecame₂ hkey

section

variable {ι : Nat → Nat → Prop} (hregular : root.Regular) (hmoved : root.Moved ι root')

include hregular

theorem distinct (h : SameWay root root' o o') : o.node.Distinct :=
  hregular _ (Tree.spot_mem_unfold root h.get?)

include hmoved

/-- **Nodes.**  Counterparts hold moved nodes. -/
theorem moved (h : SameWay root root' o o') : o.node.Moved ι o'.node := by
  have hlayout := Tree.ofRoot_layout root
  have hlayout' := Tree.ofRoot_layout root'
  -- from the roots downwards: the parents are counterparts with smaller indices
  induction hi : o.index using Nat.strong_induction_on generalizing o o' with
  | _ i ih =>
    rcases h.top_or_below with
      ⟨hl, hl'⟩ | ⟨p, p', e, e', hp, hlt, he, hbecame, he', hbecame', hkey⟩
    · rw [hlayout.node_eq_of_link_none h.get? hl, hlayout'.node_eq_of_link_none h.get?' hl']
      exact hmoved
    · -- the entry that answers to that of `o` hangs at the place of that of `o'`
      have hparents := ih p.index (hi ▸ hlt) hp rfl
      obtain ⟨e₂, he₂, hentries⟩ := hparents.children.exists_of_mem he
      have hd' : p'.node.Distinct := hparents.distinct (hp.distinct hregular)
      have heq : e₂ = e' := List.inj_on_of_nodup_map (Node.nodup_keys hd') he₂ he'
        (hentries.key_eq.symm.trans hkey)
      rw [hbecame.2.1, hbecame'.2.1, ← heq]
      exact hentries.2.2

/-- Every occurrence has a counterpart. -/
theorem exists_right (ho : (Tree.ofRoot root).get? o.index = some o) :
    ∃ o', SameWay root root' o o' := by
  have hlayout := Tree.ofRoot_layout root
  have hlayout' := Tree.ofRoot_layout root'
  induction hi : o.index using Nat.strong_induction_on generalizing o with
  | _ i ih =>
    cases hl : o.link with
    | none =>
      obtain ⟨r, hr, -, hlink⟩ := hlayout'.root_get
      refine ⟨r, ho, by rw [hlayout'.index_eq hr]; exact hr, ?_⟩
      rw [(hlayout.way_eq_nil_iff ho).mpr hl, (hlayout'.way_eq_nil_iff hr).mpr hlink]
    | some l =>
      obtain ⟨p, e, hp, hlt, he, hbecame⟩ := hlayout.exists_entry_of_link ho hl
      obtain ⟨p', hparents⟩ := ih p.index (hi ▸ hlt) hp rfl
      obtain ⟨e', he', hentries⟩ :=
        (hparents.moved hregular hmoved).children.exists_of_mem he
      obtain ⟨k', hk'⟩ := hlayout'.exists_became_of_mem hparents.get?' he'
      exact ⟨k', hparents.of_became hbecame hk' hentries.key_eq⟩

/-- With its way, every occurrence has one counterpart. -/
theorem existsUnique_right (ho : (Tree.ofRoot root).get? o.index = some o) :
    ∃! o', SameWay root root' o o' := by
  obtain ⟨o', h⟩ := exists_right hregular hmoved ho
  refine ⟨o', h, fun o₂ h₂ => ?_⟩
  exact eq_of_regular (hmoved.regular hregular)
    ⟨h₂.get?', h.get?', h₂.way_eq.symm.trans h.way_eq⟩

/-! ### Lookups -/

/-- The children of a property of counterparts are counterparts, in some order. -/
theorem matched_childrenOf (h : SameWay root root' o o') (prop : String) :
    Matched (SameWay root root') ((Tree.ofRoot root).childrenOf o prop)
      ((Tree.ofRoot root').childrenOf o' prop) := by
  have hlayout := Tree.ofRoot_layout root
  have hlayout' := Tree.ofRoot_layout root'
  have hnodes := h.moved hregular hmoved
  have hd := h.distinct hregular
  rw [hlayout.childrenOf_eq h.get? hd, hlayout'.childrenOf_eq h.get?' (hnodes.distinct hd)]
  have hentries : Matched (Entry.Moved ι) (o.node.children.filter fun e => e.prop = prop)
      (o'.node.children.filter fun e => e.prop = prop) :=
    hnodes.children.filter fun he => by rw [he.1]
  exact hentries.of_forall₂ (hlayout.forall₂_kids h.get? prop)
    (hlayout'.forall₂_kids h.get?' prop) fun hk hk' he => h.of_became hk hk' he.key_eq

/-- Single children of counterparts are counterparts. -/
theorem child?_rel (h : SameWay root root' o o') (prop : String) :
    Option.Rel (SameWay root root') ((Tree.ofRoot root).child? o prop)
      ((Tree.ofRoot root').child? o' prop) := by
  have hlayout := Tree.ofRoot_layout root
  have hlayout' := Tree.ofRoot_layout root'
  have hnodes := h.moved hregular hmoved
  have hd := h.distinct hregular
  have no_child : (prop ∈ structuralNames ∨
        (∀ m, Fields.get? o.node.attributes prop ≠ some (.node m)) ∧
          ∀ m, Fields.get? o'.node.attributes prop ≠ some (.node m)) →
      Option.Rel (SameWay root root') ((Tree.ofRoot root).child? o prop)
        ((Tree.ofRoot root').child? o' prop) := by
    intro hno
    rw [hlayout.child?_eq_none h.get? (hno.imp_right And.left),
      hlayout'.child?_eq_none h.get?' (hno.imp_right And.right)]
    exact .none
  by_cases hprop : prop ∈ structuralNames
  · exact no_child (.inl hprop)
  obtain ⟨hget, hget'⟩ | ⟨v, v', hget, hget', hv⟩ := rel_cases (hnodes.get?_rel hd hprop)
  · exact no_child (.inr ⟨by simp [hget], by simp [hget']⟩)
  · cases hv with
    | node hn =>
      -- an attribute that is a node has one child, and the children of the property are matched
      obtain ⟨k, hkids, -, hchild⟩ := hlayout.child?_of_node h.get? hd hprop hget
      obtain ⟨k', hkids', -, hchild'⟩ :=
        hlayout'.child?_of_node h.get?' (hnodes.distinct hd) hprop hget'
      have hmatched := h.matched_childrenOf hregular hmoved prop
      rw [hkids, hkids'] at hmatched
      obtain ⟨k₂, hk₂, hk⟩ := hmatched.exists_of_mem (List.mem_singleton_self k)
      rw [hchild, hchild', ← List.mem_singleton.mp hk₂]
      exact .some hk
    | _ => exact no_child (.inr ⟨by simp [hget], by simp [hget']⟩)

/-- Names of counterparts are moved values. -/
theorem name_moved (h : SameWay root root' o o') : o.name.Moved ι o'.name :=
  (h.moved hregular hmoved).name (h.distinct hregular)

/-- **Counterparts are similar**, when objects answer to each other one to one or when names are
    texts. -/
theorem similarity
    (hnames : Relator.BiUnique ι ∨ ∀ s ∈ root.unfold [], s.node.name.IsText) :
    Similarity root root' (SameWay root root') where
  get? h := ⟨h.get?, h.get?'⟩
  kind h := (h.moved hregular hmoved).kind_eq
  shorthand h :=
    ((h.moved hregular hmoved).attr (h.distinct hregular) (by decide) (by decide)).isTruthy_eq
  isTruthy_name h := (h.name_moved hregular hmoved).isTruthy_eq
  isText_constructor h := (h.name_moved hregular hmoved).isText_eq "constructor"
  same_name := by
    intro a a' b b' ha hb
    have hmoveda := ha.name_moved hregular hmoved
    have hmovedb := hb.name_moved hregular hmoved
    rcases hnames with hι | htexts
    · exact Value.same_of_moved hι a.name hmoveda hmovedb
    · rw [hmoveda.eq_of_isText (htexts _ (Tree.spot_mem_unfold root ha.get?)),
        hmovedb.eq_of_isText (htexts _ (Tree.spot_mem_unfold root hb.get?))]
  up h := by
    obtain ⟨hup, hup'⟩ | ⟨a, a', hup, hup', hprop, hparents⟩ := rel_cases h.up
    · rw [hup, hup']
      exact .none
    · rw [hup, hup']
      exact .some ⟨hprop, (hparents.moved hregular hmoved).kind_eq, .inl hparents⟩
  child h := h.child?_rel hregular hmoved
  children h := h.matched_childrenOf hregular hmoved

/-! ### Faults -/

/-- Counterparts declare names that answer to each other, as loops. -/
theorem matched_loopDeclaredNames (h : SameWay root root' o o') :
    Matched (Value.Moved ι) (Rule.loopDeclaredNames (Tree.ofRoot root) o)
      (Rule.loopDeclaredNames (Tree.ofRoot root') o') := by
  have declared : ∀ {d d' : Occurrence}, SameWay root root' d d' →
      Option.Rel (Value.Moved ι) (Rule.declaredName? (Tree.ofRoot root) d)
        (Rule.declaredName? (Tree.ofRoot root') d') := by
    intro d d' hd
    unfold Rule.declaredName?
    obtain ⟨hid, hid'⟩ | ⟨k, k', hid, hid', hk⟩ := rel_cases (hd.child?_rel hregular hmoved "id")
    · rw [hid, hid']
      exact .none
    · have hname := hk.name_moved hregular hmoved
      rw [hid, hid', Option.map_some, Option.map_some, Option.filter_some, Option.filter_some,
        hname.isTruthy_eq]
      split_ifs
      · exact .some hname
      · exact .none
  rw [Rule.loopDeclaredNames_eq, Rule.loopDeclaredNames_eq]
  obtain ⟨hinit, hinit'⟩ | ⟨init, init', hinit, hinit', hi⟩ :=
    rel_cases (h.child?_rel hregular hmoved "init")
  · rw [hinit, hinit']
    exact ⟨[], .refl _, .nil⟩
  · rw [hinit, hinit', Option.elim_some, Option.elim_some, Occurrence.kind, Occurrence.kind,
      (hi.moved hregular hmoved).kind_eq]
    split_ifs
    · exact (hi.matched_childrenOf hregular hmoved "declarations").filterMap declared
    · exact ⟨[], .refl _, .nil⟩

variable (hnames : Relator.BiUnique ι ∨ ∀ s ∈ root.unfold [], s.node.name.IsText)

include hnames

/-- A rule can be applied to both counterparts or to neither.  The reason may differ, because
    names are looked up in the order in which they stand. -/
theorem rule_fault?_eq_none_iff (h : SameWay root root' o o') (rule : Rule) :
    rule.fault? (Tree.ofRoot root) o = none ↔ rule.fault? (Tree.ofRoot root') o' = none := by
  cases rule with
  | loopScoped =>
    simp only [Rule.fault?]
    obtain ⟨hnone, hnone'⟩ | ⟨loop, loop', hsome, hsome', hloop⟩ :=
      rel_cases ((similarity hregular hmoved hnames).headerOf?_rel h)
    · rw [hnone, hnone']
      exact Iff.rfl
    · rw [hsome, hsome', Option.bind_some, Option.bind_some, List.findSome?_eq_none_iff,
        List.findSome?_eq_none_iff, List.forall_mem_append, List.forall_mem_append,
        List.forall_mem_singleton, List.forall_mem_singleton,
        (h.name_moved hregular hmoved).keyFault?_eq]
      refine and_congr_left fun _ => ?_
      exact (hloop.matched_loopDeclaredNames hregular hmoved).forall_iff fun hv => by
        rw [hv.keyFault?_eq]
  | _ => exact Iff.rfl

end

end SameWay

/-! ### Verdicts -/

theorem Classifier.classify_eq_ok_iff {c : Classifier} {o : Occurrence} {v : Verdict} :
    c.classify o = .ok v ↔ o.isIdentifier = true ∧ c.fault? o = none ∧ c.verdict o = v :=
  answer_eq_ok_iff

/-- The standard classifier of a root with some policies. -/
def standardClassifier (policies : List Policy) (root : Node) : Classifier where
  tree := Tree.ofRoot root
  policies := policies

section

variable {ι : Nat → Nat → Prop} {root root' : Node} {o o' : Occurrence} {policies : List Policy}
  (hregular : root.Regular) (hmoved : root.Moved ι root')
  (hnames : Relator.BiUnique ι ∨ ∀ s ∈ root.unfold [], s.node.name.IsText)

include hregular hmoved hnames

theorem SameWay.verdict_eq (h : SameWay root root' o o')
    (hpolicies : policies = [] ∨ policies = [Policy.require]) :
    (standardClassifier policies root).verdict o
      = (standardClassifier policies root').verdict o' := by
  have hsimilar := similarity hregular hmoved hnames
  have hbase : (standardClassifier policies root).baseVerdict o
      = (standardClassifier policies root').baseVerdict o' :=
    hsimilar.baseVerdict_eq h rfl rfl rfl RuleTable.standard_isLocal
  show policies.foldl _ _ = policies.foldl _ _
  rw [hbase]
  rcases hpolicies with rfl | rfl
  · rfl
  · refine hsimilar.adjust_require_eq (fun h s => ?_) (fun h => ?_) h _
    · exact (h.name_moved hregular hmoved).isText_eq s
    · exact ((h.moved hregular hmoved).attr (h.distinct hregular) (by decide) (by decide)).str?_eq

theorem SameWay.fault?_eq_none_iff (h : SameWay root root' o o') :
    (standardClassifier policies root).fault? o = none
      ↔ (standardClassifier policies root').fault? o' = none := by
  have hrule : (standardClassifier policies root).ruleOf? o
      = (standardClassifier policies root').ruleOf? o' :=
    congrArg (Option.bind · RuleTable.standard.rule?)
      ((similarity hregular hmoved hnames).placeOf?_eq h)
  rw [Classifier.fault?, Classifier.fault?, hrule, Option.bind_eq_none_iff,
    Option.bind_eq_none_iff]
  exact forall₂_congr fun rule _ => h.rule_fault?_eq_none_iff hregular hmoved hnames rule

end

/-- **Moving code.**  Take two roots that are equal without locations and ranges after a
    reordering of attributes, where objects answer to each other one to one or names are texts.
    Every occurrence of the first has one counterpart in the second on the same way from the
    root.  Counterparts are names together, and what the standard rules say about them, with the
    policy for modules or without it, is the same verdict.  If names and raw forms are texts,
    every name has a verdict. -/
theorem moving_keeps_verdicts {ι : Nat → Nat → Prop} {root root' : Node} {policies : List Policy}
    (hregular : root.Regular) (hmoved : root.Moved ι root')
    (hnames : Relator.BiUnique ι ∨ ∀ s ∈ root.unfold [], s.node.name.IsText)
    (hpolicies : policies = [] ∨ policies = [Policy.require]) :
    (∀ o, (Tree.ofRoot root).get? o.index = some o → ∃! o', SameWay root root' o o') ∧
    ∀ o o', SameWay root root' o o' →
      o'.isIdentifier = o.isIdentifier ∧
      (∀ v, (standardClassifier policies root').classify o' = .ok v
        ↔ (standardClassifier policies root).classify o = .ok v) ∧
      (root.Textual → o.isIdentifier = true →
        ∃ v, (standardClassifier policies root).classify o = .ok v) := by
  refine ⟨fun o ho => SameWay.existsUnique_right hregular hmoved ho, fun o o' h => ?_⟩
  have hname : o'.isIdentifier = o.isIdentifier := by
    show (o'.node.kind == _) = (o.node.kind == _)
    rw [(h.moved hregular hmoved).kind_eq]
  refine ⟨hname, fun v => ?_, fun htextual hidentifier => ?_⟩
  · rw [Classifier.classify_eq_ok_iff, Classifier.classify_eq_ok_iff, hname,
      h.verdict_eq hregular hmoved hnames hpolicies,
      h.fault?_eq_none_iff hregular hmoved hnames]
  · exact ⟨_, Classifier.classify_eq_ok_iff.mpr
      ⟨hidentifier, Classifier.fault?_eq_none htextual rfl h.get?, rfl⟩⟩

/-- The text that names a module. -/
def moduleLiteral (identity : Nat) : Node :=
  { type := some "Literal", identity := identity, attributes := [("value", .str "fs")] }

/-- The call that loads the module. -/
def loadingCall : Node :=
  { type := some "CallExpression", identity := 3, loc := some (some ⟨1, 5⟩)
    attributes :=
      [("callee", .node (Tree.sampleName 4 "require" 5)),
       ("arguments", .list 0 [.node (moduleLiteral 5)])] }

/-- A variable that binds the module under its own name. -/
def ownModuleDeclarator : Node :=
  { type := some "VariableDeclarator", identity := 1
    attributes := [("id", .node (Tree.sampleName 2 "fs" 0)), ("init", .node loadingCall)] }

/-- The call on another line, with its attributes the other way round. -/
def movedCall : Node :=
  { type := some "CallExpression", identity := 13, loc := some (some ⟨0, 9⟩)
    attributes :=
      [("arguments", .list 0 [.node (moduleLiteral 15)]),
       ("callee", .node (Tree.sampleName 14 "require" 2))] }

/-- The declarator with its name behind the call. -/
def movedDeclarator : Node :=
  { type := some "VariableDeclarator", identity := 11, range := some [0, 20]
    attributes := [("init", .node movedCall), ("id", .node (Tree.sampleName 12 "fs" 7))] }

/-- The name of the declarator. -/
def ownName : Occurrence :=
  { index := 1, node := Tree.sampleName 2 "fs" 0, link := some ⟨0, "id", none⟩ }

/-- The name of the moved declarator, which now comes after the call. -/
def movedName : Occurrence :=
  { index := 2, node := Tree.sampleName 12 "fs" 7, link := some ⟨0, "id", none⟩ }

theorem moving_keeps_verdicts_ownModuleDeclarator :
    ownModuleDeclarator.Regular ∧
    ownModuleDeclarator.Moved (fun i j => j = i + 10) movedDeclarator ∧
    Relator.BiUnique (fun i j : Nat => j = i + 10) ∧
    SameWay ownModuleDeclarator movedDeclarator ownName movedName ∧
    (standardClassifier [Policy.require] ownModuleDeclarator).classify ownName = .ok .reference ∧
    (standardClassifier [Policy.require] movedDeclarator).classify movedName = .ok .reference := by
  have hleaf : ∀ n : Node, n.Distinct → n.entries = [] → n.Regular := by
    intro n hd hentries
    rw [Node.regular_iff, hentries]
    exact ⟨hd, fun e he => absurd he List.not_mem_nil⟩
  have hname : ∀ identity name column, (Tree.sampleName identity name column).Regular :=
    fun _ _ _ => hleaf _ (List.nodup_singleton _) rfl
  have hliteral : (moduleLiteral 5).Regular := hleaf _ (List.nodup_singleton _) rfl
  have hcall : loadingCall.Regular := by
    have hentries : loadingCall.entries =
        [⟨"callee", none, Tree.sampleName 4 "require" 5⟩, ⟨"arguments", some 0, moduleLiteral 5⟩] :=
      rfl
    rw [Node.regular_iff, hentries, List.forall_mem_cons, List.forall_mem_singleton]
    exact ⟨by decide, hname _ _ _, hliteral⟩
  have hregular : ownModuleDeclarator.Regular := by
    have hentries : ownModuleDeclarator.entries =
        [⟨"id", none, Tree.sampleName 2 "fs" 0⟩, ⟨"init", none, loadingCall⟩] := rfl
    rw [Node.regular_iff, hentries, List.forall_mem_cons, List.forall_mem_singleton]
    exact ⟨by decide, hname _ _ _, hcall⟩
  have hmovedName : ∀ i name column column',
      (Tree.sampleName i name column).Moved (fun i j => j = i + 10)
        (Tree.sampleName (i + 10) name column') :=
    fun i name column column' => .mk rfl (.refl _) (.cons (.held "name" (.str name)) .nil)
  have hmovedLiteral : (moduleLiteral 5).Moved (fun i j => j = i + 10) (moduleLiteral 15) :=
    .mk rfl (.refl _) (.cons (.held "value" (.str "fs")) .nil)
  have hmovedCall : loadingCall.Moved (fun i j => j = i + 10) movedCall :=
    .mk rfl (.swap _ _ _) (.cons (.held _ (.list (.cons (.node hmovedLiteral) .nil)))
      (.cons (.held _ (.node (hmovedName 4 _ _ _))) .nil))
  have hmoved : ownModuleDeclarator.Moved (fun i j => j = i + 10) movedDeclarator :=
    .mk rfl (.swap _ _ _) (.cons (.held _ (.node hmovedCall))
      (.cons (.held _ (.node (hmovedName 2 _ _ _))) .nil))
  have hunique : Relator.BiUnique (fun i j : Nat => j = i + 10) :=
    ⟨fun i j k hi hj => by omega, fun i j k hi hj => by omega⟩
  have hway : SameWay ownModuleDeclarator movedDeclarator ownName movedName :=
    ⟨by cbv, by cbv, by cbv⟩
  have hclassify : (standardClassifier [Policy.require] ownModuleDeclarator).classify ownName
      = .ok .reference := by cbv
  obtain ⟨-, hverdicts⟩ :=
    moving_keeps_verdicts hregular hmoved (.inl hunique) (.inr rfl : [Policy.require] = [] ∨ _)
  exact ⟨hregular, hmoved, hunique, hway, hclassify,
    ((hverdicts _ _ hway).2.1 _).mpr hclassify⟩

end SymbolTags
