import Mathlib.Logic.Equiv.Basic
import SymbolTags.Proofs.Relabelling
import SymbolTags.Proofs.Ways

namespace SymbolTags

open Syntax

/-!
# Renaming — verdicts do not depend on the choice of names

Rules compare names with each other, with the empty one, and with the one that constructors
have.  So it does not matter which names are chosen, as long as different names stay different
and these two stay what they are:

* `Renaming` — a choice of other names, and `Node.renamed`, which gives them to every identifier
  at and below a node;
* `Node.name_renamed` — what identifiers are called then, and `Renaming.relabelling`, by which
  the arena keeps its shape;
* `Renaming.similarity` — the comparisons that rules make come out the same;
* `renaming_keeps_baseVerdicts` — so every name keeps its verdict.
-/

namespace Syntax

/-! ### Renamed trees -/

/-- Other names for names.  No two of them become one, and the name of constructors and the
    empty name stay. -/
structure Renaming where
  newName : String → String
  injective : Function.Injective newName
  newName_constructor : newName "constructor" = "constructor"
  newName_empty : newName "" = ""

/-- Changes a text and leaves other values alone. -/
def Value.mapText (g : String → String) : Value → Value
  | .str s => .str (g s)
  | v => v

/-- Changes what is held under `name`. -/
def mapNameEntry (g : String → String) (entries : List (String × Value)) :
    List (String × Value) :=
  entries.map fun p => if p.1 = "name" then (p.1, p.2.mapText g) else p

mutual

/-- A value with the identifiers in it renamed. -/
def Value.renamed (ρ : Renaming) : Value → Value
  | .list identity items => .list identity (renamedItems ρ items)
  | .node n => .node (n.renamed ρ)
  | .object identity entries => .object identity (renamedEntries ρ entries)
  | .dictionary identity entries => .dictionary identity (renamedEntries ρ entries)
  | .record identity entries => .record identity (renamedEntries ρ entries)
  | v => v

/-- A node with the identifiers at and below it renamed. -/
def Node.renamed (ρ : Renaming) : Node → Node
  | ⟨type, identity, loc, range, attributes⟩ =>
    let below := renamedEntries ρ attributes
    let own := if type = some Node.identifierKind then mapNameEntry ρ.newName below else below
    ⟨type, identity, loc, range, own⟩

/-- List items with the identifiers in them renamed. -/
def renamedItems (ρ : Renaming) : List Value → List Value
  | [] => []
  | v :: rest => v.renamed ρ :: renamedItems ρ rest

/-- Named values with the identifiers in them renamed. -/
def renamedEntries (ρ : Renaming) : List (String × Value) → List (String × Value)
  | [] => []
  | (name, v) :: rest => (name, v.renamed ρ) :: renamedEntries ρ rest

end

/-- An occurrence with its node renamed; it stays where it is. -/
def Occurrence.renamed (ρ : Renaming) (o : Occurrence) : Occurrence :=
  { o with node := o.node.renamed ρ }

/-! ### Attributes -/

section

variable (ρ : Renaming)

/-- Reading a named value commutes with renaming. -/
theorem get?_renamedEntries (entries : List (String × Value)) (name : String) :
    Fields.get? (renamedEntries ρ entries) name
      = (Fields.get? entries name).map (Value.renamed ρ) := by
  induction entries with
  | nil => rfl
  | cons p rest ih =>
    obtain ⟨k, v⟩ := p
    simp only [renamedEntries, Fields.get?]
    split_ifs
    · rfl
    · exact ih

/-- Only what is held under `name` is read differently. -/
theorem get?_mapNameEntry (g : String → String) (entries : List (String × Value))
    (name : String) :
    Fields.get? (mapNameEntry g entries) name
      = (Fields.get? entries name).map fun v => if name = "name" then v.mapText g else v := by
  induction entries with
  | nil => rfl
  | cons p rest ih =>
    obtain ⟨k, v⟩ := p
    -- the entry that is asked for may be the one that changes, or another one
    by_cases hk : k = "name" <;> by_cases hname : k = name <;>
      simp_all [mapNameEntry, Fields.get?]

/-- New names inside of a value do not make it empty. -/
theorem Value.isTruthy_renamed (v : Value) : (v.renamed ρ).isTruthy = v.isTruthy := by
  cases v with
  | list identity items => cases items <;> rfl
  | dictionary identity entries => cases entries <;> rfl
  | _ => rfl

/-- A text holds no identifiers. -/
theorem Value.IsText.renamed_eq {v : Value} (h : v.IsText) : v.renamed ρ = v := by
  cases v with
  | null => rfl
  | str s => rfl
  | _ => exact h.elim

namespace Node

/-- Renaming keeps the type. -/
theorem type_renamed (n : Node) : (n.renamed ρ).type = n.type := by cases n; rfl

/-- It keeps the location. -/
theorem loc_renamed (n : Node) : (n.renamed ρ).loc = n.loc := by cases n; rfl

/-- It goes through the attributes, and an identifier gets its own new name besides. -/
theorem attributes_renamed (n : Node) :
    (n.renamed ρ).attributes = if n.type = some identifierKind
      then mapNameEntry ρ.newName (renamedEntries ρ n.attributes)
      else renamedEntries ρ n.attributes := by
  cases n
  rfl

/-- Only the type makes a node an identifier, because that of none has another kind. -/
theorem isIdentifier_iff (n : Node) : n.isIdentifier = true ↔ n.type = some identifierKind := by
  rw [isIdentifier, beq_iff_eq, kind]
  cases n.type with
  | none => decide
  | some t =>
    by_cases ht : t = ""
    · subst ht
      decide
    · simp [ht]

/-- A name of which nodes know nothing by themselves is read off the attributes. -/
theorem attr_eq_getD (n : Node) {name : String} (hstructural : name ∉ structuralNames)
    (hown : name ∉ originName :: abilities) :
    n.attr name = (Fields.get? n.attributes name).getD .null := by
  have hne : name ≠ "type" ∧ name ≠ "loc" ∧ name ≠ "range" := by
    refine ⟨?_, ?_, ?_⟩ <;> (rintro rfl; exact hstructural (by decide))
  rw [List.mem_cons, not_or] at hown
  rw [attr, if_neg hne.1, if_neg hne.2.1, if_neg hne.2.2, if_neg hown.1, if_neg hown.2]
  cases Fields.get? n.attributes name <;> rfl

/-- Attributes other than names are renamed within. -/
theorem attr_renamed (n : Node) {name : String} (hname : name ≠ "name")
    (hstructural : name ∉ structuralNames) (hown : name ∉ originName :: abilities) :
    (n.renamed ρ).attr name = (n.attr name).renamed ρ := by
  have hget : Fields.get? (n.renamed ρ).attributes name
      = (Fields.get? n.attributes name).map (Value.renamed ρ) := by
    rw [attributes_renamed, ← get?_renamedEntries]
    split_ifs
    · simp [get?_mapNameEntry, hname]
    · rfl
  rw [attr_eq_getD _ hstructural hown, attr_eq_getD _ hstructural hown, hget]
  cases Fields.get? n.attributes name <;> rfl

/-- **Names.**  Identifiers get their new names. -/
theorem name_renamed (n : Node) :
    (n.renamed ρ).name = (n.name.renamed ρ).mapText ρ.newName := by
  -- Only names of identifiers are renamed, and renaming keeps the kind.
  have hsame : (n.renamed ρ).isIdentifier = n.isIdentifier := by
    rw [isIdentifier, isIdentifier, kind, kind, type_renamed]
  unfold Node.name
  rw [hsame]
  split_ifs with hidentifier
  · rw [attr_eq_getD _ (by decide) (by decide), attr_eq_getD _ (by decide) (by decide),
      attributes_renamed, if_pos (n.isIdentifier_iff.mp hidentifier), get?_mapNameEntry,
      get?_renamedEntries]
    cases Fields.get? n.attributes "name" <;> rfl
  · rfl

end Node

/-! ### Shapes -/

mutual

/-- Renaming changes the nodes of a value and nothing that shows in a shape. -/
theorem Value.relabelled_renamed (v : Value) : v.Relabelled (Node.renamed ρ) (v.renamed ρ) := by
  match v with
  | .null => exact .null
  | .list identity items => exact .list identity identity (forall₂_renamedItems items)
  | .node n => exact .node n
  | .bool _ | .int _ | .str _ | .object _ _ | .dictionary _ _ | .record _ _ | .fault _ _ =>
    exact .plain trivial trivial

/-- So it does in lists. -/
theorem forall₂_renamedItems (items : List Value) :
    List.Forall₂ (Value.Relabelled (Node.renamed ρ)) items (renamedItems ρ items) := by
  match items with
  | [] => exact .nil
  | v :: rest => exact .cons v.relabelled_renamed (forall₂_renamedItems rest)

end

/-- Changing a text does not change where nodes hang. -/
theorem Value.Relabelled.mapText {f : Node → Node} {v v' : Value} (h : v.Relabelled f v')
    (g : String → String) : v.Relabelled f (v'.mapText g) := by
  cases h with
  | null => exact .null
  | node n => exact .node n
  | list i i' hitems => exact .list i i' hitems
  | plain hv hv' =>
    refine .plain hv ?_
    cases v' with
    | str s => trivial
    | _ => exact hv'

/-- So it does in attributes. -/
theorem forall₂_renamedEntries (entries : List (String × Value)) :
    List.Forall₂ (AttributeRelabelled (Node.renamed ρ)) entries (renamedEntries ρ entries) := by
  induction entries with
  | nil => exact .nil
  | cons p rest ih => exact .cons ⟨rfl, p.2.relabelled_renamed ρ⟩ ih

/-- A new text under `name` does not show either. -/
theorem forall₂_mapNameEntry {f : Node → Node} (g : String → String)
    {entries entries' : List (String × Value)}
    (h : List.Forall₂ (AttributeRelabelled f) entries entries') :
    List.Forall₂ (AttributeRelabelled f) entries (mapNameEntry g entries') := by
  rw [mapNameEntry, List.forall₂_map_right_iff]
  refine h.imp fun p p' hp => ?_
  split_ifs
  · exact ⟨hp.1, hp.2.mapText g⟩
  · exact hp

/-- **Names do not show** in the shape of a tree. -/
theorem Renaming.relabelling : Relabelling (Node.renamed ρ) where
  type_eq := Node.type_renamed ρ
  loc_eq := Node.loc_renamed ρ
  attributes n := by
    rw [Node.attributes_renamed]
    split_ifs
    · exact forall₂_mapNameEntry ρ.newName (forall₂_renamedEntries ρ n.attributes)
    · exact forall₂_renamedEntries ρ n.attributes

/-! ### Comparisons -/

namespace Renaming

/-- Different names stay different. -/
theorem beq_newName (s t : String) : (ρ.newName s == ρ.newName t) = (s == t) := by
  rw [Bool.eq_iff_iff, beq_iff_eq, beq_iff_eq]
  exact ρ.injective.eq_iff

/-- No other name becomes one that stays. -/
theorem newName_beq {t : String} (ht : ρ.newName t = t) (s : String) :
    (ρ.newName s == t) = (s == t) := by
  have h := ρ.beq_newName s t
  rwa [ht] at h

variable {v w : Value}

/-- A new name is a text, or not set like the old one. -/
theorem isText_mapText (hv : v.IsText) : (v.mapText ρ.newName).IsText := by
  cases v with
  | null => trivial
  | str s => trivial
  | _ => exact hv.elim

/-- It is empty just if the old one is. -/
theorem isTruthy_mapText (hv : v.IsText) : (v.mapText ρ.newName).isTruthy = v.isTruthy := by
  cases v with
  | null => rfl
  | str s => exact congrArg not (ρ.newName_beq ρ.newName_empty s)
  | _ => exact hv.elim

/-- It is the one of constructors just if the old one is. -/
theorem isConstructor_mapText (hv : v.IsText) :
    (v.mapText ρ.newName).isText "constructor" = v.isText "constructor" := by
  cases v with
  | null => rfl
  | str s => exact ρ.newName_beq ρ.newName_constructor s
  | _ => exact hv.elim

/-- Two new names are the same just if the old ones are. -/
theorem same_mapText (hv : v.IsText) (hw : w.IsText) :
    (v.mapText ρ.newName).same (w.mapText ρ.newName) = v.same w := by
  cases v with
  | null => cases w <;> rfl
  | str s =>
    cases w with
    | null => rfl
    | str t =>
      simp only [Value.mapText, Value.same]
      exact ρ.beq_newName s t
    | _ => exact hw.elim
  | _ => exact hv.elim

end Renaming

end

end Syntax

/-! ### Similar occurrences -/

/-- An occurrence of an arena, and what renaming makes of it. -/
def BecomesRenamed (ρ : Renaming) (root : Node) (o o' : Occurrence) : Prop :=
  (Tree.ofRoot root).get? o.index = some o ∧ o' = o.renamed ρ

namespace Syntax.Renaming

variable (ρ : Renaming) {root : Node}

/-- The way up leads to the renamed parent through the same property. -/
theorem up?_renamed (o : Occurrence) :
    (Tree.ofRoot (root.renamed ρ)).up? (o.renamed ρ)
      = ((Tree.ofRoot root).up? o).map fun a => (a.1, a.2.renamed ρ) := by
  unfold Tree.up?
  show (o.link.bind fun l => ((Tree.ofRoot (root.renamed ρ)).get? l.parent).map _) = _
  cases o.link with
  | none => rfl
  | some l =>
    rw [Option.bind_some, Option.bind_some, ρ.relabelling.get?_ofRoot, Option.map_map,
      Option.map_map]
    rfl

/-- Where names are texts, identifiers are called by their new names. -/
theorem name_eq (hnames : (Tree.ofRoot root).TextNamed) {i : Nat} {o : Occurrence}
    (ho : (Tree.ofRoot root).get? i = some o) :
    (o.renamed ρ).name = o.name.mapText ρ.newName := by
  have hname : o.name.renamed ρ = o.name := (hnames i o ho).renamed_eq ρ
  show (o.node.renamed ρ).name = o.name.mapText ρ.newName
  rw [← hname]
  exact Node.name_renamed ρ o.node

/-- New names are texts again. -/
theorem textNamed_renamed (hnames : (Tree.ofRoot root).TextNamed) :
    (Tree.ofRoot (root.renamed ρ)).TextNamed := by
  intro i o' ho'
  rw [ρ.relabelling.get?_ofRoot] at ho'
  obtain ⟨o, ho, rfl⟩ := Option.map_eq_some_iff.mp ho'
  have hname : (o.renamed ρ).name = o.name.mapText ρ.newName := ρ.name_eq hnames ho
  show (o.renamed ρ).name.IsText
  rw [hname]
  exact ρ.isText_mapText (hnames i o ho)

/-- **Renamed occurrences are similar** to what they were, where names are texts. -/
theorem similarity (hnames : (Tree.ofRoot root).TextNamed) :
    Similarity root (root.renamed ρ) (BecomesRenamed ρ root) where
  get? := by
    rintro o o' ⟨ho, rfl⟩
    refine ⟨ho, ?_⟩
    show (Tree.ofRoot (root.renamed ρ)).get? o.index = _
    rw [ρ.relabelling.get?_ofRoot, ho]
    rfl
  kind := by
    rintro o o' ⟨ho, rfl⟩
    exact (ρ.relabelling.kind_eq o.node).symm
  shorthand := by
    rintro o o' ⟨ho, rfl⟩
    show _ = ((o.node.renamed ρ).attr "shorthand").isTruthy
    rw [Node.attr_renamed ρ o.node (by decide) (by decide) (by decide), Value.isTruthy_renamed]
  isTruthy_name := by
    rintro o o' ⟨ho, rfl⟩
    rw [ρ.name_eq hnames ho, ρ.isTruthy_mapText (hnames _ _ ho)]
  isText_constructor := by
    rintro o o' ⟨ho, rfl⟩
    rw [ρ.name_eq hnames ho, ρ.isConstructor_mapText (hnames _ _ ho)]
  same_name := by
    rintro a a' b b' ⟨ha, rfl⟩ ⟨hb, rfl⟩
    rw [ρ.name_eq hnames ha, ρ.name_eq hnames hb,
      ρ.same_mapText (hnames _ _ ha) (hnames _ _ hb)]
  up := by
    rintro o o' ⟨ho, rfl⟩
    rw [ρ.up?_renamed]
    cases hup : (Tree.ofRoot root).up? o with
    | none => exact .none
    | some a =>
      have hparent := (Tree.up?_eq_some hup).2
      -- The parent is found by its own index, so its renamed copy stands there too.
      have hindex : a.2.index = a.1.parent := (Tree.ofRoot_layout root).index_eq hparent
      rw [← hindex] at hparent
      exact .some ⟨rfl, (ρ.relabelling.kind_eq a.2.node).symm, .inl ⟨hparent, rfl⟩⟩
  child := by
    rintro o o' ⟨ho, rfl⟩ prop
    have hchild : (Tree.ofRoot (root.renamed ρ)).child? (o.renamed ρ) prop
        = ((Tree.ofRoot root).child? o prop).map (Occurrence.renamed ρ) :=
      ρ.relabelling.child?_ofRoot root o prop
    rw [hchild]
    cases hk : (Tree.ofRoot root).child? o prop with
    | none => exact .none
    | some k => exact .some ⟨(Tree.ofRoot_layout root).get?_of_child? ho hk, rfl⟩
  children := by
    rintro o o' ⟨ho, rfl⟩ prop
    have hchildren : (Tree.ofRoot (root.renamed ρ)).childrenOf (o.renamed ρ) prop
        = ((Tree.ofRoot root).childrenOf o prop).map (Occurrence.renamed ρ) :=
      ρ.relabelling.childrenOf_ofRoot root o prop
    -- Renaming keeps the order of the children, so no permutation is needed.
    refine ⟨_, .refl _, ?_⟩
    rw [hchildren, List.forall₂_map_right_iff, List.forall₂_same]
    intro k hk
    exact ⟨(Tree.ofRoot_layout root).get?_of_mem_childrenOf ho hk, rfl⟩

end Syntax.Renaming

/-! ### Verdicts -/

/-- **Renaming.**  Take a root below which names are texts or not set, and give every identifier
    another name, different names for different ones, but keep the empty name and the one of
    constructors.  The names of the renamed root are the renamed names, in the same places and
    in the same order, and the standard rules give each of them the verdict that they gave it
    before. -/
theorem renaming_keeps_baseVerdicts (ρ : Renaming) (root : Node) (policies : List Policy)
    (hnames : ∀ s ∈ root.unfold [], s.node.name.IsText) :
    (Tree.ofRoot (root.renamed ρ)).identifiers
        = (Tree.ofRoot root).identifiers.map (Occurrence.renamed ρ) ∧
    ∀ o ∈ (Tree.ofRoot root).identifiers,
      (o.renamed ρ).name = o.name.mapText ρ.newName ∧
      ∃ v, (standardClassifier policies root).base o = .ok v ∧
        (standardClassifier policies (root.renamed ρ)).base (o.renamed ρ) = .ok v := by
  have htexts : (Tree.ofRoot root).TextNamed := Tree.textNamed_of_forall_unfold hnames
  have hsimilar := ρ.similarity htexts
  refine ⟨ρ.relabelling.identifiers_ofRoot root, fun o ho => ?_⟩
  have hget : (Tree.ofRoot root).get? o.index = some o := Tree.get?_of_mem_identifiers root ho
  -- from here on renaming is one similarity among others
  have hrelated : BecomesRenamed ρ root o (o.renamed ρ) := ⟨hget, rfl⟩
  have hidentifier : o.isIdentifier = true := (List.mem_filter.mp ho).2
  have hbase : (standardClassifier policies root).baseVerdict o
      = (standardClassifier policies (root.renamed ρ)).baseVerdict (o.renamed ρ) :=
    hsimilar.baseVerdict_eq hrelated rfl rfl rfl RuleTable.standard_isLocal
  refine ⟨ρ.name_eq htexts hget, (standardClassifier policies root).baseVerdict o, ?_, ?_⟩
  -- no rule refuses a name on either side
  · exact Classifier.answer_eq_ok_iff.mpr
      ⟨hidentifier, Classifier.fault?_of_textNamed htexts rfl hget, rfl⟩
  · refine Classifier.answer_eq_ok_iff.mpr ⟨?_, ?_, ?_⟩
    · exact (ρ.relabelling.isIdentifier_eq o.node).trans hidentifier
    · exact Classifier.fault?_of_textNamed (ρ.textNamed_renamed htexts) rfl
        (hsimilar.get? hrelated).2
    · exact hbase.symm

/-- A variable that is declared. -/
def counterDeclarator : Node :=
  { type := some "VariableDeclarator", identity := 2
    attributes := [("id", .node (Tree.sampleName 3 "i" 4))] }

/-- Its declaration. -/
def counterDeclaration : Node :=
  { type := some "VariableDeclaration", identity := 1
    attributes := [("declarations", .list 0 [.node counterDeclarator])] }

/-- The comparison of the variable with one that is not declared there. -/
def counterTest : Node :=
  { type := some "BinaryExpression", identity := 4, loc := some (some ⟨1, 7⟩)
    attributes :=
      [("left", .node (Tree.sampleName 5 "i" 7)), ("right", .node (Tree.sampleName 6 "n" 9))] }

/-- A loop with both in its header. -/
def countingLoop : Node :=
  { type := some "ForStatement", identity := 0
    attributes := [("init", .node counterDeclaration), ("test", .node counterTest)] }

/-- The names of the two variables of the loop change places. -/
def swapCounterNames : Renaming where
  newName := Equiv.swap "i" "n"
  injective := (Equiv.swap "i" "n").injective
  newName_constructor := by decide
  newName_empty := by decide

/-- The variable in the comparison. -/
def counterUse : Occurrence :=
  { index := 3, node := Tree.sampleName 5 "i" 7, link := some ⟨2, "left", none⟩ }

/-- The variable of the loop is left out under both of its names. -/
theorem renaming_keeps_baseVerdicts_countingLoop :
    (∀ s ∈ countingLoop.unfold [], s.node.name.IsText) ∧
    counterUse ∈ (Tree.ofRoot countingLoop).identifiers ∧
    (counterUse.renamed swapCounterNames).name = .str "n" ∧
    (standardClassifier [] countingLoop).base counterUse = .ok .ignore ∧
    (standardClassifier [] (countingLoop.renamed swapCounterNames)).base
        (counterUse.renamed swapCounterNames) = .ok .ignore := by
  -- leaves first, then what holds them
  have hname : ∀ identity name column above,
      ∀ s ∈ (Tree.sampleName identity name column).unfold above, s.node.name.IsText := by
    intro identity name column above
    rw [Node.forall_mem_unfold]
    exact ⟨trivial, fun e he => absurd he List.not_mem_nil⟩
  have hdeclaration : ∀ above, ∀ s ∈ counterDeclaration.unfold above, s.node.name.IsText := by
    intro above
    have hentries : counterDeclaration.entries = [⟨"declarations", some 0, counterDeclarator⟩] :=
      rfl
    have hid : counterDeclarator.entries = [⟨"id", none, Tree.sampleName 3 "i" 4⟩] := rfl
    rw [Node.forall_mem_unfold, hentries, List.forall_mem_singleton, Node.forall_mem_unfold, hid,
      List.forall_mem_singleton]
    exact ⟨trivial, trivial, hname _ _ _ _⟩
  have htest : ∀ above, ∀ s ∈ counterTest.unfold above, s.node.name.IsText := by
    intro above
    have hentries : counterTest.entries =
        [⟨"left", none, Tree.sampleName 5 "i" 7⟩, ⟨"right", none, Tree.sampleName 6 "n" 9⟩] := rfl
    rw [Node.forall_mem_unfold, hentries, List.forall_mem_cons, List.forall_mem_singleton]
    exact ⟨trivial, hname _ _ _ _, hname _ _ _ _⟩
  have hnames : ∀ s ∈ countingLoop.unfold [], s.node.name.IsText := by
    have hentries : countingLoop.entries =
        [⟨"init", none, counterDeclaration⟩, ⟨"test", none, counterTest⟩] := rfl
    rw [Node.forall_mem_unfold, hentries, List.forall_mem_cons, List.forall_mem_singleton]
    exact ⟨trivial, hdeclaration _, htest _⟩
  have hget : (Tree.ofRoot countingLoop).get? 3 = some counterUse := by cbv
  have hmem : counterUse ∈ (Tree.ofRoot countingLoop).identifiers :=
    List.mem_filter.mpr ⟨Tree.mem_walk countingLoop hget, by decide⟩
  have hbase : (standardClassifier [] countingLoop).base counterUse = .ok .ignore := by cbv
  obtain ⟨-, hverdicts⟩ := renaming_keeps_baseVerdicts swapCounterNames countingLoop [] hnames
  obtain ⟨hrenamed, v, hbefore, hafter⟩ := hverdicts counterUse hmem
  have hv : v = .ignore := Except.ok.inj (hbefore.symm.trans hbase)
  rw [hv] at hafter
  have hswap : counterUse.name.mapText swapCounterNames.newName = .str "n" :=
    congrArg Value.str (Equiv.swap_apply_left "i" "n")
  exact ⟨hnames, hmem, hrenamed.trans hswap, hbase, hafter⟩

end SymbolTags
