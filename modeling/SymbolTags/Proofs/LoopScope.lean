import SymbolTags.Proofs.Renaming

namespace SymbolTags

open Syntax

/-!
# Loop scope — which names a loop header hides

In a few places a name is not reported when it is a variable of the loop in whose header it
stands.  The rule climbs to the nearest loop, looks at the part of the loop that it came through,
and collects what the declaration in the header declares.  This file says which names these are:

* `Tree.NearestAbove` — the climb as a relation, and `Tree.Layout.nearestAncestor?_eq_some_iff`;
* `Tree.InHeader` — an occurrence in the header of its nearest loop;
* `Tree.Binds` — the names that a target binds, alone or anywhere inside of a pattern;
* `Tree.DeclaresPlainly` and `Tree.Declares` — the names that the declaration of a loop declares,
  without patterns and with them;
* `loopScoped_hides_plain_names` — the rule hides the former only.
-/

namespace Syntax.Tree

/-! ### Nearest ancestors -/

/-- An occurrence, its nearest strict ancestor of a kind, and the property of that ancestor through
    which the way down leads. -/
inductive NearestAbove (t : Tree) (kind : String) : Occurrence → Occurrence → String → Prop
  | parent {o p : Occurrence} {l : Link} (hlink : o.link = some l) (hget : t.get? l.parent = some p)
      (hkind : p.kind = kind) : NearestAbove t kind o p l.prop
  | above {o p q : Occurrence} {l : Link} {side : String} (hlink : o.link = some l)
      (hget : t.get? l.parent = some p) (hkind : p.kind ≠ kind)
      (hnearest : NearestAbove t kind p q side) : NearestAbove t kind o q side

namespace Layout

variable {t : Tree} {root : Node} {i : Nat} {o p : Occurrence} {kind side : String}

/-- The parent is the nearest ancestor, or has the same one. -/
theorem nearestAncestor?_eq (h : t.Layout root) (ho : t.get? i = some o) {l : Link}
    (hl : o.link = some l) (hp : t.get? l.parent = some p) :
    t.nearestAncestor? o kind =
      if p.kind = kind then some (p, l.prop) else t.nearestAncestor? p kind := by
  unfold nearestAncestor?
  rw [h.ancestors_eq ho hl hp, List.find?_cons]
  by_cases hkind : p.kind = kind
  · simp [hkind]
  · simp only [beq_eq_false_iff_ne.mpr hkind, if_neg hkind]

/-- Nothing is found above what hangs on nothing. -/
theorem nearestAncestor?_of_link_none (h : t.Layout root) (ho : t.get? i = some o)
    (hl : o.link = none) : t.nearestAncestor? o kind = none := by
  rw [nearestAncestor?, h.ancestors_eq_up? ho, t.up?_of_link_none hl]
  rfl

/-- Climbing finds the nearest ancestor. -/
theorem nearestAncestor?_eq_some_iff (h : t.Layout root) (ho : t.get? i = some o) :
    t.nearestAncestor? o kind = some (p, side) ↔ t.NearestAbove kind o p side := by
  constructor
  · -- a parent stands before its child, so the climb is an induction on the index
    induction i using Nat.strong_induction_on generalizing o with
    | _ i ih =>
      intro hnearest
      cases hl : o.link with
      | none =>
        rw [h.nearestAncestor?_of_link_none ho hl] at hnearest
        cases hnearest
      | some l =>
        obtain ⟨hlt, q, hq, -⟩ := h.exists_parent ho hl
        rw [h.nearestAncestor?_eq ho hl hq] at hnearest
        split_ifs at hnearest with hkind
        · rw [Option.some.injEq, Prod.mk.injEq] at hnearest
          obtain ⟨rfl, rfl⟩ := hnearest
          exact .parent hl hq hkind
        · exact .above hl hq hkind (ih l.parent hlt hq hnearest)
  · -- the way back follows the relation, which stops at the first parent of the kind
    intro hnearest
    induction hnearest generalizing i with
    | parent hl hp hkind => rw [h.nearestAncestor?_eq ho hl hp, if_pos hkind]
    | above hl hp hkind _ ih => rw [h.nearestAncestor?_eq ho hl hp, if_neg hkind, ih hp]

end Layout

/-! ### Loop headers -/

/-- An occurrence in the header of a loop: the loop is the nearest one above it, and is entered
    through its header. -/
def InHeader (t : Tree) (o loop : Occurrence) : Prop :=
  ∃ side ∈ Rule.loopHeaderProps, t.NearestAbove "ForStatement" o loop side

theorem Layout.headerOf?_eq_some_iff {t : Tree} {root : Node} (h : t.Layout root) {i : Nat}
    {o loop : Occurrence} (ho : t.get? i = some o) :
    Rule.headerOf? t o = some loop ↔ t.InHeader o loop := by
  unfold Rule.headerOf? InHeader
  rw [Option.bind_eq_some_iff]
  constructor
  · rintro ⟨⟨p, side⟩, hnearest, hside⟩
    split_ifs at hside with hheader
    rw [Option.some.injEq] at hside
    subst hside
    exact ⟨side, hheader, (h.nearestAncestor?_eq_some_iff ho).mp hnearest⟩
  · rintro ⟨side, hheader, hnearest⟩
    exact ⟨(loop, side), (h.nearestAncestor?_eq_some_iff ho).mpr hnearest, if_pos hheader⟩

/-- An occurrence stands in the header of one loop at most. -/
theorem Layout.inHeader_unique {t : Tree} {root : Node} (h : t.Layout root) {i : Nat}
    {o loop loop' : Occurrence} (ho : t.get? i = some o) (hloop : t.InHeader o loop)
    (hloop' : t.InHeader o loop') : loop = loop' := by
  rw [← h.headerOf?_eq_some_iff ho] at hloop hloop'
  exact Option.some.inj (hloop.symm.trans hloop')

/-! ### Declared names -/

/-- The targets that a name is bound by: the name itself, or a pattern with such a target in it. -/
inductive Binds (t : Tree) (name : String) : Occurrence → Prop
  | name {target : Occurrence} (hidentifier : target.isIdentifier)
      (hname : target.name = .str name) : Binds t name target
  | element {target part : Occurrence} (hkind : target.kind = "ArrayPattern")
      (hpart : part ∈ t.childrenOf target "elements") (hbinds : Binds t name part) :
      Binds t name target
  | property {target property part : Occurrence} (hkind : target.kind = "ObjectPattern")
      (hproperty : property ∈ t.childrenOf target "properties")
      (hkind' : property.kind = "Property") (hpart : part ∈ t.childrenOf property "value")
      (hbinds : Binds t name part) : Binds t name target
  /-- An object pattern may end with a rest. -/
  | remainder {target part : Occurrence} (hkind : target.kind = "ObjectPattern")
      (hpart : part ∈ t.childrenOf target "properties") (hkind' : part.kind = "RestElement")
      (hbinds : Binds t name part) : Binds t name target
  | default {target part : Occurrence} (hkind : target.kind = "AssignmentPattern")
      (hpart : part ∈ t.childrenOf target "left") (hbinds : Binds t name part) :
      Binds t name target
  | rest {target part : Occurrence} (hkind : target.kind = "RestElement")
      (hpart : part ∈ t.childrenOf target "argument") (hbinds : Binds t name part) :
      Binds t name target

/-- A target that the declaration in the header of a loop declares. -/
def LoopTarget (t : Tree) (loop target : Occurrence) : Prop :=
  ∃ init declarator, t.child? loop "init" = some init ∧ init.kind = "VariableDeclaration" ∧
    declarator ∈ t.childrenOf init "declarations" ∧ t.child? declarator "id" = some target

/-- The header of a loop declares a name without a pattern around it. -/
def DeclaresPlainly (t : Tree) (loop : Occurrence) (name : String) : Prop :=
  ∃ target, t.LoopTarget loop target ∧ target.isIdentifier ∧ target.name = .str name

/-- The header of a loop declares a name, alone or in a pattern. -/
def Declares (t : Tree) (loop : Occurrence) (name : String) : Prop :=
  ∃ target, t.LoopTarget loop target ∧ t.Binds name target

theorem DeclaresPlainly.declares {t : Tree} {loop : Occurrence} {name : String}
    (h : t.DeclaresPlainly loop name) : t.Declares loop name := by
  obtain ⟨target, htarget, hidentifier, hname⟩ := h
  exact ⟨target, htarget, .name hidentifier hname⟩

end Syntax.Tree

/-! ### The rule -/

/-- A text is equal to itself alone. -/
theorem Syntax.Value.same_str {s : String} {v : Value} :
    (Value.str s).same v = true ↔ v = .str s := by
  cases v with
  | str r =>
    rw [Value.same, beq_iff_eq, Value.str.injEq]
    exact eq_comm
  | _ => exact ⟨fun h => absurd h Bool.false_ne_true, fun h => absurd h (by simp)⟩

/-- What has a text as its name is an identifier. -/
theorem Syntax.Occurrence.isIdentifier_of_name {o : Occurrence} {name : String}
    (h : o.name = .str name) : o.isIdentifier := by
  by_contra hno
  have hnull : o.name = .null := if_neg hno
  rw [hnull] at h
  simp at h

namespace Rule

/-- The names that the rule collects are those of the targets that have one. -/
theorem mem_loopDeclaredNames_iff {t : Tree} {loop : Occurrence} {v : Value} :
    v ∈ loopDeclaredNames t loop ↔
      v.isTruthy ∧ ∃ target, t.LoopTarget loop target ∧ target.name = v := by
  rw [loopDeclaredNames_eq]
  constructor
  · intro hv
    obtain ⟨init, hinit, hv⟩ : ∃ init, t.child? loop "init" = some init ∧ v ∈
        if init.kind = "VariableDeclaration" then
          (t.childrenOf init "declarations").filterMap (declaredName? t)
        else [] := by
      cases hinit : t.child? loop "init" with
      | none => simp [hinit] at hv
      | some init => exact ⟨init, rfl, by simpa [hinit] using hv⟩
    split_ifs at hv with hkind
    · obtain ⟨d, hd, hdeclared⟩ := List.mem_filterMap.mp hv
      obtain ⟨hmap, htruthy⟩ := Option.filter_eq_some_iff.mp hdeclared
      obtain ⟨target, htarget, rfl⟩ := Option.map_eq_some_iff.mp hmap
      exact ⟨htruthy, target, ⟨init, d, hinit, hkind, hd, htarget⟩, rfl⟩
    · simp at hv
  · rintro ⟨htruthy, target, ⟨init, d, hinit, hkind, hd, htarget⟩, rfl⟩
    rw [hinit, Option.elim_some, if_pos hkind]
    refine List.mem_filterMap.mpr ⟨d, hd, Option.filter_eq_some_iff.mpr ⟨?_, htruthy⟩⟩
    rw [htarget]
    rfl

/-- The places at which the uses of a loop variable are hidden. -/
def loopScopedPlaces : List Place :=
  [⟨"BinaryExpression", "left"⟩, ⟨"BinaryExpression", "right"⟩, ⟨"UnaryExpression", "argument"⟩,
   ⟨"UpdateExpression", "argument"⟩, ⟨"ForStatement", "update"⟩]

theorem rule?_of_mem_loopScopedPlaces {place : Place} (h : place ∈ loopScopedPlaces) :
    RuleTable.standard.rule? place = some loopScoped := by
  simp only [loopScopedPlaces, List.mem_cons, List.not_mem_nil, or_false] at h
  rcases h with rfl | rfl | rfl | rfl | rfl <;> rfl

/-- Looking a name up finds the targets that are that name, and no patterns. -/
theorem any_loopDeclaredNames_iff {t : Tree} {loop o : Occurrence} {name : String}
    (hname : o.name = .str name) (hne : name ≠ "") :
    (loopDeclaredNames t loop).any (o.name.same ·) = true ↔ t.DeclaresPlainly loop name := by
  rw [List.any_eq_true, hname]
  constructor
  · rintro ⟨v, hv, hsame⟩
    obtain ⟨-, target, htarget, htargetName⟩ := mem_loopDeclaredNames_iff.mp hv
    rw [Value.same_str.mp hsame] at htargetName
    exact ⟨target, htarget, Occurrence.isIdentifier_of_name htargetName, htargetName⟩
  · rintro ⟨target, htarget, -, htargetName⟩
    have htruthy : (Value.str name).isTruthy := by simpa [Value.isTruthy] using hne
    exact ⟨.str name, mem_loopDeclaredNames_iff.mpr ⟨htruthy, target, htarget, htargetName⟩,
      Value.same_str.mpr rfl⟩

/-- The verdict of the rule on a name: hidden by a plain declarator of the loop in whose header it
    stands, or else a reference. -/
theorem apply_loopScoped {t : Tree} {root : Node} (h : t.Layout root) {i : Nat} {o : Occurrence}
    (ho : t.get? i = some o) (parent : Occurrence) {name : String} (hname : o.name = .str name)
    (hne : name ≠ "") :
    (loopScoped.apply t o parent = .ignore ∧
        ∃ loop, t.InHeader o loop ∧ t.DeclaresPlainly loop name) ∨
      (loopScoped.apply t o parent = .reference ∧
        ∀ loop, t.InHeader o loop → ¬t.DeclaresPlainly loop name) := by
  unfold apply
  cases hheader : headerOf? t o with
  | none =>
    refine .inr ⟨rfl, fun loop hloop => ?_⟩
    rw [← h.headerOf?_eq_some_iff ho, hheader] at hloop
    simp at hloop
  | some loop =>
    have hloop : t.InHeader o loop := (h.headerOf?_eq_some_iff ho).mp hheader
    by_cases hplain : t.DeclaresPlainly loop name
    · exact .inl ⟨if_pos ((any_loopDeclaredNames_iff hname hne).mpr hplain), loop, hloop, hplain⟩
    · refine .inr ⟨if_neg (mt (any_loopDeclaredNames_iff hname hne).mp hplain), ?_⟩
      intro loop' hloop'
      rwa [← h.inHeader_unique ho hloop hloop']

end Rule

/-- The verdict at a place that the standard table gives to the rule. -/
theorem baseVerdict_of_mem_loopScopedPlaces (root : Node) (policies : List Policy)
    {o : Occurrence} {place : Place} (hplace : placeOf? (Tree.ofRoot root) o = some place)
    (hscoped : place ∈ Rule.loopScopedPlaces) :
    ∃ parent, (standardClassifier policies root).baseVerdict o
      = Rule.loopScoped.apply (Tree.ofRoot root) o parent := by
  have hrule : (standardClassifier policies root).ruleOf? o = some .loopScoped := by
    show (placeOf? (Tree.ofRoot root) o).bind RuleTable.standard.rule? = _
    rw [hplace, Option.bind_some, Rule.rule?_of_mem_loopScopedPlaces hscoped]
  rw [placeOf?_eq_up?] at hplace
  obtain ⟨a, hup, -⟩ := Option.map_eq_some_iff.mp hplace
  have hparent : (standardClassifier policies root).tree.parent? o = some a.2 := by
    rw [Tree.parent?_eq_up?]
    show ((Tree.ofRoot root).up? o).map _ = _
    rw [hup, Option.map_some]
  refine ⟨a.2, ?_⟩
  rw [Classifier.baseVerdict, hparent, hrule]
  rfl

/-- The verdict at such a place is that of the rule. -/
theorem baseVerdict_loopScoped_cases (root : Node) (policies : List Policy) {i : Nat}
    {o : Occurrence} (ho : (Tree.ofRoot root).get? i = some o) {name : String}
    (hname : o.name = .str name) (hne : name ≠ "") {place : Place}
    (hplace : placeOf? (Tree.ofRoot root) o = some place)
    (hscoped : place ∈ Rule.loopScopedPlaces) :
    ((standardClassifier policies root).baseVerdict o = .ignore ∧
        ∃ loop, (Tree.ofRoot root).InHeader o loop ∧
          (Tree.ofRoot root).DeclaresPlainly loop name) ∨
      ((standardClassifier policies root).baseVerdict o = .reference ∧
        ∀ loop, (Tree.ofRoot root).InHeader o loop →
          ¬(Tree.ofRoot root).DeclaresPlainly loop name) := by
  obtain ⟨parent, hbase⟩ := baseVerdict_of_mem_loopScopedPlaces root policies hplace hscoped
  rw [hbase]
  exact Rule.apply_loopScoped (Tree.ofRoot_layout root) ho parent hname hne

/-- **Loop headers.**  Take any identifier with a name in a place where loop variables are hidden.
    The standard rules ignore it if the nearest loop above it is entered through its header and
    the declaration there has a declarator of that name alone; otherwise they call it a reference.
    So a name that the header declares inside of patterns only is not hidden there: being declared,
    alone or in a pattern, and being hidden are the same for an identifier exactly if its loop
    does not declare it so.  On a tree whose names are texts, no rule refuses an answer. -/
theorem loopScoped_hides_plain_names (root : Node) (policies : List Policy) {i : Nat}
    {o : Occurrence} (ho : (Tree.ofRoot root).get? i = some o) {name : String}
    (hname : o.name = .str name) (hne : name ≠ "") {place : Place}
    (hplace : placeOf? (Tree.ofRoot root) o = some place)
    (hscoped : place ∈ Rule.loopScopedPlaces) :
    let t := Tree.ofRoot root
    let c := standardClassifier policies root
    (c.baseVerdict o = .ignore ↔ ∃ loop, t.InHeader o loop ∧ t.DeclaresPlainly loop name) ∧
    (c.baseVerdict o = .ignore ∨ c.baseVerdict o = .reference) ∧
    ((c.baseVerdict o = .ignore ↔ ∃ loop, t.InHeader o loop ∧ t.Declares loop name) ↔
      ∀ loop, t.InHeader o loop → t.Declares loop name → t.DeclaresPlainly loop name) ∧
    (t.TextNamed → c.base o = .ok (c.baseVerdict o)) := by
  intro t c
  have hlayout : t.Layout root := Tree.ofRoot_layout root
  have hverdict : (c.baseVerdict o = .ignore ∧ _) ∨ (c.baseVerdict o = .reference ∧ _) :=
    baseVerdict_loopScoped_cases root policies ho hname hne hplace hscoped
  -- the two cases exclude each other, so each of them can be told by the verdict
  have hplain : c.baseVerdict o = .ignore ↔
      ∃ loop, t.InHeader o loop ∧ t.DeclaresPlainly loop name := by
    constructor
    · intro hignore
      obtain ⟨-, hloop⟩ | ⟨hreference, -⟩ := hverdict
      · exact hloop
      · rw [hignore] at hreference
        exact absurd hreference (by decide)
    · rintro ⟨loop, hloop, hdeclares⟩
      obtain ⟨hignore, -⟩ | ⟨-, hno⟩ := hverdict
      · exact hignore
      · exact absurd hdeclares (hno loop hloop)
  refine ⟨hplain, hverdict.imp And.left And.left, ?_, fun htexts => ?_⟩
  · rw [hplain]
    constructor
    · intro hiff loop hloop hdeclares
      -- the loop that hides the name can only be the one that declares it
      obtain ⟨loop', hloop', hplain'⟩ := hiff.mpr ⟨loop, hloop, hdeclares⟩
      rwa [hlayout.inHeader_unique ho hloop hloop']
    · rintro hpatterns
      refine ⟨fun ⟨loop, hloop, hdeclares⟩ => ⟨loop, hloop, hdeclares.declares⟩, ?_⟩
      exact fun ⟨loop, hloop, hdeclares⟩ => ⟨loop, hloop, hpatterns loop hloop hdeclares⟩
  · exact Classifier.answer_eq_ok_iff.mpr ⟨Occurrence.isIdentifier_of_name hname,
      Classifier.fault?_of_textNamed htexts rfl ho, rfl⟩

theorem loopScoped_hides_plain_names_countingLoop :
    let t := Tree.ofRoot countingLoop
    let c := standardClassifier [] countingLoop
    t.get? 3 = some counterUse ∧ counterUse.name = .str "i" ∧ "i" ≠ "" ∧
    placeOf? t counterUse = some ⟨"BinaryExpression", "left"⟩ ∧
    (⟨"BinaryExpression", "left"⟩ : Place) ∈ Rule.loopScopedPlaces ∧
    c.base counterUse = .ok .ignore ∧
    ∃ loop, t.InHeader counterUse loop ∧ t.DeclaresPlainly loop "i" := by
  intro t c
  have hget : t.get? 3 = some counterUse := by cbv
  have hplace : placeOf? t counterUse = some ⟨"BinaryExpression", "left"⟩ := by cbv
  have hscoped : (⟨"BinaryExpression", "left"⟩ : Place) ∈ Rule.loopScopedPlaces := by decide
  have hbase : c.base counterUse = .ok .ignore := by cbv
  obtain ⟨hiff, -⟩ := loopScoped_hides_plain_names countingLoop [] hget rfl
    (show "i" ≠ "" by decide) hplace hscoped
  exact ⟨hget, rfl, by decide, hplace, hscoped, hbase,
    hiff.mp (Classifier.answer_eq_ok_iff.mp hbase).2.2⟩

/-- A pattern of one name. -/
def counterPattern : Node :=
  { type := some "ArrayPattern", identity := 7
    attributes := [("elements", .list 0 [.node (Tree.sampleName 3 "i" 5)])] }

/-- A declaration of the name by the pattern. -/
def patternDeclarator : Node :=
  { type := some "VariableDeclarator", identity := 2
    attributes := [("id", .node counterPattern)] }

/-- A declaration with a pattern in it. -/
def patternDeclaration : Node :=
  { type := some "VariableDeclaration", identity := 1
    attributes := [("declarations", .list 0 [.node patternDeclarator])] }

/-- A loop that declares its variable by a pattern, and uses it in its header. -/
def patternLoop : Node :=
  { type := some "ForStatement", identity := 0
    attributes :=
      [("init", .node patternDeclaration), ("update", .node (Tree.sampleName 5 "i" 14))] }

/-- The use of the variable. -/
def patternUse : Occurrence :=
  { index := 2, node := Tree.sampleName 5 "i" 14, link := some ⟨0, "update", none⟩ }

/-- The header of the loop declares the variable, and yet its use there is called a reference. -/
theorem loopScoped_misses_patternLoop :
    let t := Tree.ofRoot patternLoop
    t.get? 2 = some patternUse ∧ patternUse.name = .str "i" ∧
    placeOf? t patternUse = some ⟨"ForStatement", "update"⟩ ∧
    (∃ loop, t.InHeader patternUse loop ∧ t.Declares loop "i") ∧
    (standardClassifier [] patternLoop).base patternUse = .ok .reference := by
  intro t
  have hget : t.get? 2 = some patternUse := by cbv
  have hplace : placeOf? t patternUse = some ⟨"ForStatement", "update"⟩ := by cbv
  have hloop : t.get? 0 = some ⟨0, patternLoop, none, [1, 2]⟩ := by cbv
  have hheader : t.InHeader patternUse ⟨0, patternLoop, none, [1, 2]⟩ :=
    ⟨"update", by decide, .parent (l := ⟨0, "update", none⟩) rfl hloop (by decide)⟩
  have hdeclares : t.Declares ⟨0, patternLoop, none, [1, 2]⟩ "i" := by
    have hinit : t.child? ⟨0, patternLoop, none, [1, 2]⟩ "init"
        = some ⟨1, patternDeclaration, some ⟨0, "init", none⟩, [3]⟩ := by cbv
    have hdeclarators : t.childrenOf ⟨1, patternDeclaration, some ⟨0, "init", none⟩, [3]⟩
        "declarations" = [⟨3, patternDeclarator, some ⟨1, "declarations", some 0⟩, [4]⟩] := by cbv
    have htarget : t.child? ⟨3, patternDeclarator, some ⟨1, "declarations", some 0⟩, [4]⟩ "id"
        = some ⟨4, counterPattern, some ⟨3, "id", none⟩, [5]⟩ := by cbv
    have hparts : t.childrenOf ⟨4, counterPattern, some ⟨3, "id", none⟩, [5]⟩ "elements"
        = [⟨5, Tree.sampleName 3 "i" 5, some ⟨4, "elements", some 0⟩, []⟩] := by cbv
    refine ⟨_, ⟨_, _, hinit, by decide, by rw [hdeclarators]; exact List.mem_singleton_self _,
      htarget⟩, ?_⟩
    exact .element (by decide) (by rw [hparts]; exact List.mem_singleton_self _)
      (.name (by decide) rfl)
  have hverdict : (standardClassifier [] patternLoop).baseVerdict patternUse = .reference := by
    obtain ⟨parent, hparent⟩ :=
      baseVerdict_of_mem_loopScopedPlaces patternLoop [] hplace (by decide)
    have hnames : Rule.loopDeclaredNames t ⟨0, patternLoop, none, [1, 2]⟩ = [] := by cbv
    have hloop := ((Tree.ofRoot_layout patternLoop).headerOf?_eq_some_iff hget).mpr hheader
    -- the target is a pattern, so the rule collects no name at all
    rw [hparent, Rule.apply, hloop]
    show (if (Rule.loopDeclaredNames t _).any _ = true then _ else _) = _
    rw [hnames]
    rfl
  have hfault : (standardClassifier [] patternLoop).fault? patternUse = none := by cbv
  have hbase : (standardClassifier [] patternLoop).base patternUse = .ok .reference :=
    Classifier.answer_eq_ok_iff.mpr ⟨by decide, hfault, hverdict⟩
  exact ⟨hget, rfl, hplace, ⟨_, hheader, hdeclares⟩, hbase⟩

end SymbolTags
