import Mathlib.Data.Option.Basic
import SymbolTags.Classifier.Basic
import SymbolTags.Proofs.Lookup

namespace SymbolTags

open Syntax

/-!
# Similarity — names that look alike get the same verdict

A rule looks at the name itself, at its ancestors, and at what a few of these hold.  So the
verdict stays the same when the name is replaced by one in another tree, as long as all of
this looks alike from there:

* `Tree.up?` — the step to the parent, off which place, parent and ancestors are read;
* `Similarity` — a relation between the occurrences of two arenas that the steps up and down
  keep.  Above a program nothing is looked at, so the way up may part there;
* `Similarity.apply_eq` — every rule that is not given from outside answers the same for
  related names, hence `Similarity.baseVerdict_eq`;
* `Similarity.adjust_require_eq` — and so does the policy for modules.
-/

/-- Related optional values are both absent, or both present and related. -/
theorem rel_cases {α β : Type} {r : α → β → Prop} {x : Option α} {y : Option β}
    (h : Option.Rel r x y) :
    (x = none ∧ y = none) ∨ ∃ a b, x = some a ∧ y = some b ∧ r a b := by
  cases h with
  | none => exact .inl ⟨rfl, rfl⟩
  | some h => exact .inr ⟨_, _, rfl, rfl, h⟩

/-- Relations pass through steps that may fail. -/
theorem rel_bind {α β γ δ : Type} {r : α → β → Prop} {s : γ → δ → Prop} {x : Option α}
    {y : Option β} {f : α → Option γ} {g : β → Option δ} (h : Option.Rel r x y)
    (hfg : ∀ {a : α} {b : β}, r a b → Option.Rel s (f a) (g b)) :
    Option.Rel s (x.bind f) (y.bind g) := by
  cases h with
  | none => exact .none
  | some h => exact hfg h

/-- Lists that answer to each other hold something on both sides or on neither. -/
theorem any_filterMap_eq {α β γ δ : Type} {r : α → β → Prop} {xs : List α} {ys : List β}
    {f : α → Option γ} {g : β → Option δ} {p : γ → Bool} {q : δ → Bool}
    (h : List.Forall₂ r xs ys) (hfg : ∀ {x : α} {y : β}, r x y → (f x).any p = (g y).any q) :
    (xs.filterMap f).any p = (ys.filterMap g).any q := by
  induction h with
  | nil => rfl
  | @cons x y xs ys hxy _ ih =>
    have hhead := hfg hxy
    rw [List.filterMap_cons, List.filterMap_cons]
    cases hx : f x <;> cases hy : g y <;> simp_all

/-! ### The step up -/

namespace Syntax.Tree

/-- The parent of an occurrence with the link that leads to it. -/
def up? (t : Tree) (o : Occurrence) : Option (Link × Occurrence) :=
  o.link.bind fun l => (t.get? l.parent).map fun p => (l, p)

/-- The parent is what one step up leads to. -/
theorem parent?_eq_up? (t : Tree) (o : Occurrence) : t.parent? o = (t.up? o).map (·.2) := by
  unfold parent? up?
  cases o.link with
  | none => rfl
  | some l => cases hp : t.get? l.parent <;> simp [hp]

/-- That step goes along the link. -/
theorem up?_eq_some {t : Tree} {o : Occurrence} {a : Link × Occurrence} (h : t.up? o = some a) :
    o.link = some a.1 ∧ t.get? a.1.parent = some a.2 := by
  obtain ⟨l, hl, hmap⟩ := Option.bind_eq_some_iff.mp h
  obtain ⟨p, hp, rfl⟩ := Option.map_eq_some_iff.mp hmap
  exact ⟨hl, hp⟩

/-- The root has nothing above it. -/
theorem up?_of_link_none (t : Tree) {o : Occurrence} (h : o.link = none) : t.up? o = none := by
  rw [up?, h]
  rfl

/-- The ancestors of an occurrence are its parent and the ancestors of that. -/
theorem Layout.ancestors_eq_up? {t : Tree} {root : Node} (h : t.Layout root) {i : Nat}
    {o : Occurrence} (ho : t.get? i = some o) :
    t.ancestors o = (t.up? o).elim [] fun a => a :: t.ancestors a.2 := by
  cases hl : o.link with
  | none =>
    rw [t.up?_of_link_none hl, ancestors, hl]
    cases o.index <;> rfl
  | some l =>
    obtain ⟨-, p, hp, -⟩ := h.exists_parent ho hl
    rw [h.ancestors_eq ho hl hp, up?, hl, Option.bind_some, hp]
    rfl

end Syntax.Tree

/-- The place of an occurrence is read off one step up. -/
theorem placeOf?_eq_up? (t : Tree) (o : Occurrence) :
    placeOf? t o = (t.up? o).map fun a => ⟨a.2.kind, a.1.prop⟩ := by
  unfold placeOf? Tree.up?
  cases o.link with
  | none => rfl
  | some l => cases hp : t.get? l.parent <;> simp [hp]

/-- The parent of an occurrence that hangs at a given place. -/
def ownerAt? (t : Tree) (place : Place) (o : Occurrence) : Option Occurrence :=
  (t.up? o).bind fun a => if a.2.kind = place.kind ∧ a.1.prop = place.prop then some a.2 else none

/-- Asking for the link, its property, the parent and its kind one after another comes down to
    asking for the parent at a place. -/
theorem bind_link_eq_ownerAt? {α : Type} (t : Tree) (o : Occurrence) (kind prop : String)
    (f : Occurrence → Option α) :
    (do
        let l ← o.link
        guard (l.prop == prop)
        let p ← t.get? l.parent
        guard (p.kind == kind)
        f p) = (ownerAt? t ⟨kind, prop⟩ o).bind f := by
  unfold ownerAt? Tree.up?
  cases o.link with
  | none => rfl
  | some l =>
    by_cases hprop : l.prop = prop
    · cases hp : t.get? l.parent with
      | none => simp [hprop, hp]
      | some p => by_cases hkind : p.kind = kind <;> simp [hprop, hp, hkind]
    · cases hp : t.get? l.parent <;> simp [hprop, hp]

/-- The declarator of a name is the parent at one place. -/
theorem declaratorOf?_eq_ownerAt? (t : Tree) (o : Occurrence) :
    Policy.declaratorOf? t o = ownerAt? t ⟨"VariableDeclarator", "id"⟩ o := by
  have h := bind_link_eq_ownerAt? t o "VariableDeclarator" "id" some
  rw [Option.bind_fun_some] at h
  exact h

/-- The name that a declarator declares, if it has one. -/
def Rule.declaredName? (t : Tree) (d : Occurrence) : Option Value :=
  ((t.child? d "id").map (·.name)).filter Value.isTruthy

/-- The names of a loop header are those of its declarators, one by one. -/
theorem Rule.loopDeclaredNames_eq (t : Tree) (loop : Occurrence) :
    loopDeclaredNames t loop = (t.child? loop "init").elim [] fun init =>
      if init.kind = "VariableDeclaration" then
        (t.childrenOf init "declarations").filterMap (declaredName? t)
      else [] := by
  unfold loopDeclaredNames
  cases t.child? loop "init" with
  | none => rfl
  | some init =>
    by_cases hkind : init.kind = "VariableDeclaration"
    · simp only [hkind, beq_self_eq_true, if_true, Option.elim_some]
      rfl
    · simp only [hkind, beq_iff_eq, if_false, Option.elim_some]

/-! ### Local rules -/

/-- The kind of the nodes at which the way up may end. -/
def programKind : String := "Program"

/-- A rule that is given from outside. -/
def Rule.isCustom : Rule → Bool
  | custom _ => true
  | _ => false

/-- A table whose rules are known, none of them for what hangs on a program. -/
def RuleTable.IsLocal (table : RuleTable) : Prop :=
  ∀ entry ∈ table, entry.1.kind ≠ programKind ∧ entry.2.isCustom = false

instance (table : RuleTable) : Decidable table.IsLocal :=
  inferInstanceAs (Decidable (∀ entry ∈ table, _))

/-- The standard rules are such rules. -/
theorem RuleTable.standard_isLocal : RuleTable.standard.IsLocal := by
  decide

/-- What holds of all rules holds of the one at a place. -/
theorem RuleTable.IsLocal.of_rule? {table : RuleTable} (h : table.IsLocal) {place : Place}
    {rule : Rule} (hrule : table.rule? place = some rule) :
    place.kind ≠ programKind ∧ rule.isCustom = false := by
  obtain ⟨entry, hfind, rfl⟩ := Option.map_eq_some_iff.mp hrule
  have hplace : entry.1 = place := by simpa using List.find?_some hfind
  rw [← hplace]
  exact h entry (List.mem_reverse.mp (List.mem_of_find?_eq_some hfind))

/-! ### Similar occurrences -/

/-- Steps up that look alike: they lead through the same property to parents of one kind, which
    are related unless they are programs. -/
def AlikeUp (R : Occurrence → Occurrence → Prop) (a a' : Link × Occurrence) : Prop :=
  a.1.prop = a'.1.prop ∧ a.2.kind = a'.2.kind ∧ (a.2.kind ≠ programKind → R a.2 a'.2)

/-- A relation between the occurrences of two arenas that lookups keep, and that does not tell
    names apart differently on both sides. -/
structure Similarity (root root' : Node) (R : Occurrence → Occurrence → Prop) : Prop where
  get? : ∀ {o o' : Occurrence}, R o o' →
    (Tree.ofRoot root).get? o.index = some o ∧ (Tree.ofRoot root').get? o'.index = some o'
  kind : ∀ {o o' : Occurrence}, R o o' → o.kind = o'.kind
  shorthand : ∀ {o o' : Occurrence}, R o o' →
    (o.node.attr "shorthand").isTruthy = (o'.node.attr "shorthand").isTruthy
  isTruthy_name : ∀ {o o' : Occurrence}, R o o' → o.name.isTruthy = o'.name.isTruthy
  isText_constructor : ∀ {o o' : Occurrence}, R o o' →
    o.name.isText "constructor" = o'.name.isText "constructor"
  same_name : ∀ {a a' b b' : Occurrence}, R a a' → R b b' →
    a.name.same b.name = a'.name.same b'.name
  /-- Parents are related, or else both are programs on top. -/
  up : ∀ {o o' : Occurrence}, R o o' →
    Option.Rel
      (fun a a' => a.1.prop = a'.1.prop ∧ a.2.kind = a'.2.kind ∧
        (R a.2 a'.2 ∨ a.2.kind = programKind ∧ a.2.link = none ∧ a'.2.link = none))
      ((Tree.ofRoot root).up? o) ((Tree.ofRoot root').up? o')
  child : ∀ {o o' : Occurrence}, R o o' → ∀ prop,
    Option.Rel R ((Tree.ofRoot root).child? o prop) ((Tree.ofRoot root').child? o' prop)
  /-- The order of children does not matter. -/
  children : ∀ {o o' : Occurrence}, R o o' → ∀ prop, ∃ os,
    os.Perm ((Tree.ofRoot root).childrenOf o prop) ∧
      List.Forall₂ R os ((Tree.ofRoot root').childrenOf o' prop)

namespace Similarity

variable {root root' : Node} {R : Occurrence → Occurrence → Prop} {o o' : Occurrence}

/-- The steps up from related occurrences look alike. -/
theorem alikeUp (h : Similarity root root' R) (hR : R o o') :
    Option.Rel (AlikeUp R) ((Tree.ofRoot root).up? o) ((Tree.ofRoot root').up? o') := by
  obtain ⟨hup, hup'⟩ | ⟨a, a', hup, hup', hprop, hkind, hparent⟩ := rel_cases (h.up hR)
  · rw [hup, hup']
    exact .none
  · rw [hup, hup']
    exact .some ⟨hprop, hkind, fun hne => hparent.resolve_right fun htop => hne htop.1⟩

/-- The ways up to the root look alike, step by step. -/
theorem forall₂_ancestors (h : Similarity root root' R) (hR : R o o') :
    List.Forall₂ (AlikeUp R) ((Tree.ofRoot root).ancestors o)
      ((Tree.ofRoot root').ancestors o') := by
  have hlayout := Tree.ofRoot_layout root
  have hlayout' := Tree.ofRoot_layout root'
  -- a parent stands before its child, so the climb is an induction on the index
  induction hi : o.index using Nat.strong_induction_on generalizing o o' with
  | _ i ih =>
    obtain ⟨hget, hget'⟩ := h.get? hR
    rw [hlayout.ancestors_eq_up? hget, hlayout'.ancestors_eq_up? hget']
    have halike := h.alikeUp hR
    obtain ⟨hup, hup'⟩ | ⟨a, a', hup, hup', -, -, hstep⟩ := rel_cases (h.up hR)
    · rw [hup, hup']
      exact .nil
    · rw [hup, hup', Option.rel_some_some] at halike
      rw [hup, hup']
      refine .cons halike ?_
      obtain ⟨hlink, hparent⟩ := Tree.up?_eq_some hup
      obtain ⟨-, hparent'⟩ := Tree.up?_eq_some hup'
      rcases hstep with hnext | ⟨-, htop, htop'⟩
      · -- related parents, and the climb goes on from them
        have hlt : a.2.index < i := by
          rw [hlayout.index_eq hparent, ← hi]
          exact (hlayout.exists_parent hget hlink).1
        exact ih a.2.index hlt hnext rfl
      · -- programs on top, where both climbs end
        rw [hlayout.ancestors_eq_up? hparent, hlayout'.ancestors_eq_up? hparent',
          Tree.up?_of_link_none _ htop, Tree.up?_of_link_none _ htop']
        exact .nil

/-- Related occurrences hang at the same place. -/
theorem placeOf?_eq (h : Similarity root root' R) (hR : R o o') :
    placeOf? (Tree.ofRoot root) o = placeOf? (Tree.ofRoot root') o' := by
  rw [placeOf?_eq_up?, placeOf?_eq_up?]
  obtain ⟨hup, hup'⟩ | ⟨a, a', hup, hup', hprop, hkind, -⟩ := rel_cases (h.alikeUp hR)
  · rw [hup, hup']
  · rw [hup, hup', Option.map_some, Option.map_some, hprop, hkind]

/-- Parents at a place are related. -/
theorem ownerAt?_rel (h : Similarity root root' R) (hR : R o o') (place : Place)
    (hplace : place.kind ≠ programKind) :
    Option.Rel R (ownerAt? (Tree.ofRoot root) place o) (ownerAt? (Tree.ofRoot root') place o') := by
  unfold ownerAt?
  obtain ⟨hup, hup'⟩ | ⟨a, a', hup, hup', hprop, hkind, hparent⟩ := rel_cases (h.alikeUp hR)
  · rw [hup, hup']
    exact .none
  · rw [hup, hup', Option.bind_some, Option.bind_some, ← hprop, ← hkind]
    split_ifs with hat
    · exact .some (hparent (by rw [hat.1]; exact hplace))
    · exact .none

/-- Nearest ancestors of a kind are related. -/
theorem nearestAncestor?_rel (h : Similarity root root' R) (hR : R o o') {kind : String}
    (hkind : kind ≠ programKind) :
    Option.Rel (fun a a' => R a.1 a'.1 ∧ a.2 = a'.2)
      ((Tree.ofRoot root).nearestAncestor? o kind)
      ((Tree.ofRoot root').nearestAncestor? o' kind) := by
  have hancestors := h.forall₂_ancestors hR
  unfold Tree.nearestAncestor?
  generalize (Tree.ofRoot root).ancestors o = as, (Tree.ofRoot root').ancestors o' = as'
    at hancestors ⊢
  induction hancestors with
  | nil => exact .none
  | @cons a a' as as' halike _ ih =>
    obtain ⟨hprop, hkinds, hparent⟩ := halike
    rw [List.find?_cons, List.find?_cons, ← hkinds]
    by_cases hfound : a.2.kind = kind
    · simp only [hfound, beq_self_eq_true]
      exact .some ⟨hparent (by rw [hfound]; exact hkind), hprop⟩
    · simp only [beq_eq_false_iff_ne.mpr hfound]
      exact ih

/-! ### Rules -/

/-- Related occurrences compare alike with related ones. -/
theorem sameName_eq (h : Similarity root root' R) (hR : R o o') {b b' : Option Occurrence}
    (hb : Option.Rel R b b') : Rule.sameName o b = Rule.sameName o' b' := by
  have isIdentifier_eq : ∀ {a a' : Occurrence}, R a a' → a.isIdentifier = a'.isIdentifier := by
    intro a a' ha
    show (a.kind == Node.identifierKind) = (a'.kind == Node.identifierKind)
    rw [h.kind ha]
  cases hb with
  | none => rfl
  | some hb => simp only [Rule.sameName, isIdentifier_eq hR, isIdentifier_eq hb, h.same_name hR hb]

/-- Declarations bind the variables of a loop on both sides or on neither. -/
theorem bindsLoop_eq (h : Similarity root root' R) (hR : R o o') :
    Rule.bindsLoop (Tree.ofRoot root) o = Rule.bindsLoop (Tree.ofRoot root') o' := by
  rw [Rule.bindsLoop, Rule.bindsLoop, h.kind hR, h.placeOf?_eq hR]

/-- The parent binds the variables of a loop on both sides or on neither. -/
theorem parent_bindsLoop_eq (h : Similarity root root' R) (hR : R o o') :
    ((Tree.ofRoot root).parent? o).any (Rule.bindsLoop (Tree.ofRoot root))
      = ((Tree.ofRoot root').parent? o').any (Rule.bindsLoop (Tree.ofRoot root')) := by
  rw [Tree.parent?_eq_up?, Tree.parent?_eq_up?]
  obtain ⟨hup, hup'⟩ | ⟨a, a', hup, hup', -, hkinds, hparent⟩ := rel_cases (h.alikeUp hR)
  · rw [hup, hup']
    rfl
  · rw [hup, hup']
    by_cases hkind : a.2.kind = "VariableDeclaration"
    · have hne : a.2.kind ≠ programKind := by rw [hkind]; decide
      exact h.bindsLoop_eq (hparent hne)
    · -- only declarations bind anything
      have hkind' : a'.2.kind ≠ "VariableDeclaration" := by rwa [← hkinds]
      show Rule.bindsLoop _ a.2 = Rule.bindsLoop _ a'.2
      rw [Rule.bindsLoop, Rule.bindsLoop, beq_eq_false_iff_ne.mpr hkind,
        beq_eq_false_iff_ne.mpr hkind', Bool.false_and, Bool.false_and]

/-- Occurrences stand in the headers of related loops. -/
theorem headerOf?_rel (h : Similarity root root' R) (hR : R o o') :
    Option.Rel R (Rule.headerOf? (Tree.ofRoot root) o) (Rule.headerOf? (Tree.ofRoot root') o') := by
  unfold Rule.headerOf?
  have hloop := h.nearestAncestor?_rel hR (show "ForStatement" ≠ programKind by decide)
  obtain ⟨hfor, hfor'⟩ | ⟨a, a', hfor, hfor', hrelated, hside⟩ := rel_cases hloop
  · rw [hfor, hfor']
    exact .none
  · rw [hfor, hfor', Option.bind_some, Option.bind_some, ← hside]
    split_ifs
    · exact .some hrelated
    · exact .none

/-- The name that a declarator declares is that of `o` on both sides or on neither. -/
theorem any_declaredName_eq (h : Similarity root root' R) (hR : R o o') {d d' : Occurrence}
    (hd : R d d') :
    (Rule.declaredName? (Tree.ofRoot root) d).any (o.name.same ·)
      = (Rule.declaredName? (Tree.ofRoot root') d').any (o'.name.same ·) := by
  unfold Rule.declaredName?
  obtain ⟨hid, hid'⟩ | ⟨k, k', hid, hid', hk⟩ := rel_cases (h.child hd "id")
  · rw [hid, hid']
    rfl
  · rw [hid, hid', Option.map_some, Option.map_some, Option.filter_some, Option.filter_some,
      h.isTruthy_name hk]
    split_ifs
    · exact h.same_name hR hk
    · rfl

/-- A name is declared by both of two related loops or by neither. -/
theorem any_loopDeclaredNames_eq (h : Similarity root root' R) (hR : R o o')
    {loop loop' : Occurrence} (hloop : R loop loop') :
    (Rule.loopDeclaredNames (Tree.ofRoot root) loop).any (o.name.same ·)
      = (Rule.loopDeclaredNames (Tree.ofRoot root') loop').any (o'.name.same ·) := by
  rw [Rule.loopDeclaredNames_eq, Rule.loopDeclaredNames_eq]
  obtain ⟨hinit, hinit'⟩ | ⟨init, init', hinit, hinit', hrelated⟩ :=
    rel_cases (h.child hloop "init")
  · rw [hinit, hinit']
    rfl
  · rw [hinit, hinit', Option.elim_some, Option.elim_some, ← h.kind hrelated]
    split_ifs
    · obtain ⟨ds, hperm, hds⟩ := h.children hrelated "declarations"
      rw [(hperm.symm.filterMap _).any_eq]
      exact any_filterMap_eq hds (h.any_declaredName_eq hR)
    · rfl

/-- **Rules.**  Below related parents, a rule answers the same for related occurrences. -/
theorem apply_eq (h : Similarity root root' R) (hR : R o o') {p p' : Occurrence} (hp : R p p')
    {rule : Rule} (hrule : rule.isCustom = false) :
    rule.apply (Tree.ofRoot root) o p = rule.apply (Tree.ofRoot root') o' p' := by
  cases rule with
  | always v => rfl
  | exportedName =>
    simp only [Rule.apply, h.sameName_eq hR (h.child hp "local")]
  | importedBinding =>
    simp only [Rule.apply, h.sameName_eq hR (h.child hp "imported")]
  | methodName =>
    simp only [Rule.apply, h.isText_constructor hR]
  | propertyKey =>
    simp only [Rule.apply, h.shorthand hp, h.sameName_eq hR (h.child hp "value")]
    have hkind : "VariableDeclarator" ≠ programKind := by decide
    obtain ⟨hnone, hnone'⟩ | ⟨a, a', hsome, hsome', -, hside⟩ :=
      rel_cases (h.nearestAncestor?_rel hR hkind)
    · simp only [hnone, hnone']
    · simp only [hsome, hsome', hside]
  | declaredName =>
    simp only [Rule.apply, h.parent_bindsLoop_eq hp]
  | loopScoped =>
    simp only [Rule.apply]
    obtain ⟨hnone, hnone'⟩ | ⟨loop, loop', hsome, hsome', hloop⟩ := rel_cases (h.headerOf?_rel hR)
    · simp only [hnone, hnone']
    · simp only [hsome, hsome', h.any_loopDeclaredNames_eq hR hloop]
  | custom judge => cases hrule

/-- **Verdicts.**  A table of known rules gives related occurrences the same verdict. -/
theorem baseVerdict_eq (h : Similarity root root' R) (hR : R o o') {c c' : Classifier}
    (hc : c.tree = Tree.ofRoot root) (hc' : c'.tree = Tree.ofRoot root')
    (hrules : c'.rules = c.rules) (hlocal : c.rules.IsLocal) :
    c.baseVerdict o = c'.baseVerdict o' := by
  have hrule : c'.ruleOf? o' = c.ruleOf? o := by
    rw [Classifier.ruleOf?, Classifier.ruleOf?, hc, hc', hrules, h.placeOf?_eq hR]
  unfold Classifier.baseVerdict
  rw [hrule, hc, hc', Tree.parent?_eq_up?, Tree.parent?_eq_up?]
  obtain ⟨hup, hup'⟩ | ⟨a, a', hup, hup', -, -, hparent⟩ := rel_cases (h.alikeUp hR)
  · rw [hup, hup']
    rfl
  · rw [hup, hup', Option.map_some, Option.map_some]
    cases hfound : c.ruleOf? o with
    | none => rfl
    | some rule =>
      -- a rule has been found, so the parent is no program and the parents are related
      obtain ⟨place, hplace, htable⟩ := Option.bind_eq_some_iff.mp hfound
      obtain ⟨hkind, hknown⟩ := hlocal.of_rule? htable
      rw [hc, placeOf?_eq_up?, hup, Option.map_some, Option.some.injEq] at hplace
      rw [← hplace] at hkind
      exact h.apply_eq hR (hparent hkind) hknown

/-! ### The policy for modules -/

section Require

variable (htext : ∀ {o o' : Occurrence}, R o o' → ∀ s, o.name.isText s = o'.name.isText s)
  (hvalue : ∀ {o o' : Occurrence}, R o o' →
    (o.node.attr "value").str? = (o'.node.attr "value").str?)

include htext hvalue

/-- Related declarators bind the same module. -/
theorem requiredModule?_eq (h : Similarity root root' R) (hR : R o o') :
    Policy.requiredModule? (Tree.ofRoot root) o
      = Policy.requiredModule? (Tree.ofRoot root') o' := by
  unfold Policy.requiredModule?
  obtain ⟨hinit, hinit'⟩ | ⟨call, call', hinit, hinit', hcall⟩ := rel_cases (h.child hR "init")
  · rw [hinit, hinit']
    rfl
  obtain ⟨hcallee, hcallee'⟩ | ⟨callee, callee', hcallee, hcallee', hrelated⟩ :=
    rel_cases (h.child hcall "callee")
  · simp only [hinit, hinit', hcallee, hcallee', Option.bind_eq_bind, Option.bind_some,
      Option.bind_none, Option.bind_fun_none]
  simp only [hinit, hinit', hcallee, hcallee', Option.bind_eq_bind, Option.bind_some, h.kind hcall,
    htext hrelated]
  -- exactly one argument on one side is exactly one on the other
  obtain ⟨as, hperm, has⟩ := h.children hcall "arguments"
  generalize (Tree.ofRoot root).childrenOf call "arguments" = xs,
    (Tree.ofRoot root').childrenOf call' "arguments" = ys at hperm has ⊢
  have hlength : xs.length = ys.length := by rw [← has.length_eq, hperm.length_eq]
  cases xs with
  | nil =>
    rw [List.eq_nil_of_length_eq_zero hlength.symm]
  | cons x xs =>
    cases ys with
    | nil => simp at hlength
    | cons y ys =>
      cases xs with
      | nil =>
        rw [List.eq_nil_of_length_eq_zero (Nat.succ.inj hlength).symm] at has ⊢
        rw [List.perm_singleton] at hperm
        subst hperm
        have hxy : R x y := (List.forall₂_cons.mp has).1
        simp only [h.kind hxy, hvalue hxy]
      | cons x₂ xs =>
        cases ys with
        | nil => simp at hlength
        | cons y₂ ys => rfl

/-- Related names bind their own modules on both sides or on neither. -/
theorem bindsOwnModule_eq (h : Similarity root root' R) (hR : R o o') :
    Policy.bindsOwnModule (Tree.ofRoot root) o = Policy.bindsOwnModule (Tree.ofRoot root') o' := by
  unfold Policy.bindsOwnModule
  rw [declaratorOf?_eq_ownerAt?, declaratorOf?_eq_ownerAt?]
  obtain ⟨hnone, hnone'⟩ | ⟨d, d', hsome, hsome', hd⟩ :=
    rel_cases (h.ownerAt?_rel hR ⟨"VariableDeclarator", "id"⟩ (by decide))
  · rw [hnone, hnone']
    rfl
  · rw [hsome, hsome', Option.bind_some, Option.bind_some, h.requiredModule?_eq htext hvalue hd]
    simp only [htext hR]

/-- **The policy for modules.**  Related names keep or change the same verdict. -/
theorem adjust_require_eq (h : Similarity root root' R) (hR : R o o') (v : Verdict) :
    Policy.require.adjust (Tree.ofRoot root) o v
      = Policy.require.adjust (Tree.ofRoot root') o' v := by
  show (if v == .definition && Policy.bindsOwnModule _ o then Verdict.reference else v)
    = if v == .definition && Policy.bindsOwnModule _ o' then Verdict.reference else v
  rw [h.bindsOwnModule_eq htext hvalue hR]

end Require

end Similarity

end SymbolTags
