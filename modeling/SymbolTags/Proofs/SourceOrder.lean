import SymbolTags.Proofs.Contribution

namespace SymbolTags

open Syntax

/-!
# Source order — from siblings to whole reports

A node hands its children over by location, whatever order its attributes and lists hold them in.
That alone does not put the names of a tree in source order: the names below a child come before
the next child.  This file derives the order of a whole walk from that of siblings:

* `Node.Orderly` — no child starts before the node, and nothing below an earlier child starts
  after a later one;
* `Node.pairwise_nodes` — if all nodes at and below a root are orderly, its pre-order goes from
  the start of the source to its end;
* `Emission.report_keeps_sourceOrder` — so do the names of the arena, the own tags and the
  diagnostics.
-/

namespace Syntax

/-! ### Positions -/

namespace Position

/-- No position is in front of itself. -/
theorem le_refl (p : Position) : p.le p := by
  rw [le_iff]
  omega

/-- A position, so many lines and columns further on. -/
def moved (p : Position) (lines columns : Int) : Position :=
  ⟨p.line + lines, p.column + columns⟩

/-- Moving two positions alike keeps their order. -/
theorem moved_le_moved {p q : Position} (h : p.le q) (lines columns : Int) :
    (p.moved lines columns).le (q.moved lines columns) := by
  rw [le_iff] at *
  simp only [moved]
  omega

end Position

/-! ### Orderly nodes -/

namespace Node

/-- A leaf is all that is at and below it. -/
theorem nodes_of_leaf {n : Node} (h : n.entries = []) : n.nodes = [n] := by
  have hchildren : n.children = [] := List.perm_nil.mp (h ▸ n.children_perm)
  rw [nodes_eq, hchildren, List.flatMap_nil]

/-- The location of the children of a node, as parsers give it. -/
structure Orderly (n : Node) : Prop where
  /-- No child starts before the node. -/
  below : ∀ e ∈ n.entries, n.position.le e.node.position
  /-- What is at and below an earlier child starts no later than a later child.  Which of two is
      earlier is said by line and column, then by the declaration order of the property and by
      the position in its list. -/
  across : ∀ a ∈ n.entries, ∀ b ∈ n.entries, n.sourceKey a < n.sourceKey b →
    ∀ m ∈ a.node.nodes, m.position.le b.node.position

/-- A child with a smaller key does not start later. -/
theorem position_le_of_sourceKey_lt {n : Node} {a b : Entry}
    (h : n.sourceKey a < n.sourceKey b) : a.node.position.le b.node.position := by
  simp only [sourceKey, Prod.Lex.toLex_lt_toLex] at h
  rw [Position.le_iff]
  omega

/-- Every node at and below a root is orderly. -/
def SourceOrdered (root : Node) : Prop :=
  ∀ n ∈ root.nodes, n.Orderly

/-- A node is source-ordered when it is orderly and what hangs on it is source-ordered. -/
theorem sourceOrdered_iff (n : Node) :
    n.SourceOrdered ↔ n.Orderly ∧ ∀ e ∈ n.entries, e.node.SourceOrdered :=
  n.forall_mem_nodes

/-- Nothing hangs on a leaf that could be out of order. -/
theorem sourceOrdered_of_leaf {n : Node} (h : n.entries = []) : n.SourceOrdered := by
  rw [sourceOrdered_iff, h]
  exact ⟨⟨by simp [h], by simp [h]⟩, by simp⟩

/-- Nothing below a node starts before it. -/
theorem position_le_of_mem_nodes {n m : Node} (h : n.SourceOrdered) (hm : m ∈ n.nodes) :
    n.position.le m.position := by
  induction n using inductionOnChildren with
  | step n ih =>
    obtain ⟨horderly, hbelow⟩ := (sourceOrdered_iff n).mp h
    rw [nodes_eq, List.mem_cons, List.mem_flatMap] at hm
    obtain rfl | ⟨e, he, hm⟩ := hm
    · exact Position.le_refl _
    · have hentry : e ∈ n.entries := n.children_perm.mem_iff.mp he
      exact Position.le_trans (horderly.below e hentry) (ih e he (hbelow e hentry) hm)

/-- **From siblings to subtrees.**  The pre-order of a source-ordered root goes through the
    source from its start to its end. -/
theorem pairwise_nodes {n : Node} (hregular : n.Regular) (hordered : n.SourceOrdered) :
    n.nodes.Pairwise fun m m' => m.position.le m'.position := by
  induction n using inductionOnChildren with
  | step n ih =>
    obtain ⟨hdistinct, hregular⟩ := (regular_iff n).mp hregular
    obtain ⟨horderly, hbelow⟩ := (sourceOrdered_iff n).mp hordered
    have hentry : ∀ e ∈ n.children, e ∈ n.entries := fun e => n.children_perm.mem_iff.mp
    have hfirst : ∀ m ∈ n.nodes, n.position.le m.position :=
      fun m hm => position_le_of_mem_nodes hordered hm
    rw [nodes_eq] at hfirst ⊢
    refine List.pairwise_cons.mpr ⟨fun m hm => hfirst m (List.mem_cons_of_mem _ hm), ?_⟩
    refine List.pairwise_flatMap.mpr ⟨fun e he => ?_, ?_⟩
    · exact ih e he (hregular e (hentry e he)) (hbelow e (hentry e he))
    · -- what is below the earlier child comes up to the later one, and that starts its subtree
      refine (children_pairwise_sourceKey hdistinct).imp_of_mem ?_
      intro a b ha hb hlt m hm m' hm'
      exact Position.le_trans (horderly.across a (hentry a ha) b (hentry b hb) hlt m hm)
        (position_le_of_mem_nodes (hbelow b (hentry b hb)) hm')

end Node

namespace Tree

/-- The walk over the arena of a root meets the nodes in pre-order. -/
theorem map_node_walk (root : Node) : (ofRoot root).walk.map (·.node) = root.nodes := by
  rw [Node.nodes, ← (traverses_walk root).2, List.map_map]
  rfl

/-- The names of a source-ordered root come in source order. -/
theorem pairwise_identifiers {root : Node} (hregular : root.Regular)
    (hordered : root.SourceOrdered) :
    (ofRoot root).identifiers.Pairwise fun o o' => o.position.le o'.position := by
  have h := Node.pairwise_nodes hregular hordered
  rw [← map_node_walk, List.pairwise_map] at h
  exact h.filter _

end Tree

end Syntax

/-! ### Reports -/

/-- Where a tag is. -/
def Tag.position (t : Tag) : Position := ⟨t.line, t.column⟩

/-- Where a diagnostic is. -/
def Diagnostic.position (d : Diagnostic) : Position := ⟨d.line, d.column⟩

namespace Emission

variable {e : Emission} {o : Occurrence}

/-- The own tag of a name is where the name is. -/
theorem position_of_own {tag : Tag} (h : (e.contribution o).own = some tag) :
    tag.position = o.position.moved e.lineOffset e.columnOffset := by
  obtain ⟨kind, -, rfl⟩ := Option.map_eq_some_iff.mp h
  rfl

/-- The diagnostic of a name is where the name is. -/
theorem position_of_diagnostic {d : Diagnostic} (h : (e.contribution o).diagnostic = some d) :
    d.position = o.position.moved e.lineOffset e.columnOffset := by
  change e.diagnostic? e.sourceLines o = some d at h
  unfold diagnostic? at h
  split_ifs at h
  rw [← Option.some.inj h]
  rfl

/-- What each name has at most one of, and where the name is, comes in the order of the names. -/
theorem pairwise_filterMap_position {α : Type} {os : List Occurrence}
    (hos : os.Pairwise fun o o' => o.position.le o'.position) {pick : Contribution → Option α}
    {position : α → Position}
    (hpick : ∀ o x, pick (e.contribution o) = some x →
      position x = o.position.moved e.lineOffset e.columnOffset) :
    ((os.map e.contribution).filterMap pick).Pairwise
      fun x y => (position x).le (position y) := by
  rw [List.filterMap_map, List.pairwise_filterMap]
  refine hos.imp fun {o o'} hle x hx y hy => ?_
  rw [hpick o x hx, hpick o' y hy]
  exact Position.moved_le_moved hle _ _

/-- The names that are reported contribute to the report one after another. -/
theorem forall₂_contributes_reported (e : Emission) :
    List.Forall₂ e.Contributes e.reported (e.reported.map e.contribution) := by
  rw [List.forall₂_map_right_iff, List.forall₂_same]
  intro o ho
  have hnone : e.faultOf? o = none := by simpa using List.mem_takeWhile_imp ho
  have hclassified : e.classifier.fault? o = none := ((Option.orElse_eq_none _ _).mp hnone).1
  have hname : o ∈ e.classifier.tree.identifiers := (List.takeWhile_sublist _).mem ho
  exact contributes_contribution (List.mem_filter.mp hname).2 hclassified

/-- **Source order.**  Take a tree whose nodes hold each attribute once, in which no child starts
    before its parent and nothing below an earlier child starts after a later one.  Whatever the
    order of attributes and lists, its names come by nondecreasing line and column.  For every
    rule table, list of policies, source and offsets the same holds of the diagnostics, and of
    the own tags, between which the report has tags of selector names only. -/
theorem report_keeps_sourceOrder (root : Node) (hregular : root.Regular)
    (hordered : root.SourceOrdered) (rules : RuleTable) (policies : List Policy)
    (source : List Char) (path : String) (lineOffset columnOffset : Int) :
    let e : Emission :=
      ⟨⟨Tree.ofRoot root, rules, policies⟩, source, path, lineOffset, columnOffset⟩
    e.classifier.tree.identifiers.Pairwise (fun o o' => o.position.le o'.position) ∧
    ∃ contributions,
      List.Forall₂ e.Contributes e.reported contributions ∧
      e.report.tags = contributions.flatMap Contribution.tags ∧
      (contributions.filterMap Contribution.own).Pairwise
        (fun t t' => t.position.le t'.position) ∧
      e.report.diagnostics = contributions.filterMap Contribution.diagnostic ∧
      e.report.diagnostics.Pairwise (fun d d' => d.position.le d'.position) := by
  intro e
  have hnames := Tree.pairwise_identifiers hregular hordered
  have hreported : e.reported.Pairwise fun o o' => o.position.le o'.position :=
    hnames.sublist (List.takeWhile_sublist _)
  have hdiagnostics : e.report.diagnostics
      = (e.reported.map e.contribution).filterMap Contribution.diagnostic := by
    rw [List.filterMap_map]
    rfl
  -- each name has one contribution, so own tags and diagnostics keep the order of the names
  refine ⟨hnames, e.reported.map e.contribution, e.forall₂_contributes_reported, ?_,
    pairwise_filterMap_position hreported fun o tag => position_of_own, hdiagnostics, ?_⟩
  · rw [List.flatMap_map]
    rfl
  · rw [hdiagnostics]
    exact pairwise_filterMap_position hreported fun o d => position_of_diagnostic

/-- A part of a template, at a column of the first line. -/
def sampleQuasi (column : Int) : Node :=
  { type := some "TemplateElement", loc := some (some ⟨1, column⟩) }

/-- The call of a function with a name, at the third column of the first line. -/
def sampleCall : Node :=
  { type := some "CallExpression", loc := some (some ⟨1, 3⟩)
    attributes :=
      [("callee", .node (Tree.sampleName 1 "f" 3)),
       ("arguments", .list 2 [.node (Tree.sampleName 3 "a" 5)])] }

/-- A template that declares all its parts before the expressions between them, and lists the
    expressions backwards. -/
def sampleTemplate : Node :=
  { type := some "TemplateLiteral", loc := some (some ⟨1, 0⟩)
    attributes :=
      [("quasis", .list 4 [.node (sampleQuasi 0), .node (sampleQuasi 7), .node (sampleQuasi 12)]),
       ("expressions", .list 5 [.node (Tree.sampleName 6 "b" 10), .node sampleCall])] }

/-- The call holds its function and its argument. -/
theorem entries_sampleCall : sampleCall.entries =
    [⟨"callee", none, Tree.sampleName 1 "f" 3⟩, ⟨"arguments", some 0, Tree.sampleName 3 "a" 5⟩] :=
  rfl

/-- The template holds its texts first and its expressions then. -/
theorem entries_sampleTemplate : sampleTemplate.entries =
    [⟨"quasis", some 0, sampleQuasi 0⟩, ⟨"quasis", some 1, sampleQuasi 7⟩,
     ⟨"quasis", some 2, sampleQuasi 12⟩, ⟨"expressions", some 0, Tree.sampleName 6 "b" 10⟩,
     ⟨"expressions", some 1, sampleCall⟩] :=
  rfl

/-- What there is of the call, in pre-order. -/
theorem nodes_sampleCall :
    sampleCall.nodes = [sampleCall, Tree.sampleName 1 "f" 3, Tree.sampleName 3 "a" 5] := by
  have hchildren : sampleCall.children = sampleCall.entries :=
    Node.children_eq_entries (by rw [entries_sampleCall]; decide)
  rw [Node.nodes_eq, hchildren, entries_sampleCall, List.flatMap_cons, List.flatMap_singleton,
    Node.nodes_of_leaf rfl, Node.nodes_of_leaf rfl]
  rfl

/-- No node of the template has two attributes of one name. -/
theorem regular_sampleTemplate : sampleTemplate.Regular := by
  have hleaf : ∀ n : Node, n.Distinct → n.entries = [] → n.Regular := by
    intro n hn hleaf
    rw [Node.regular_iff, hleaf]
    exact ⟨hn, by simp⟩
  have hcall : sampleCall.Regular := by
    rw [Node.regular_iff, entries_sampleCall, List.forall_mem_cons, List.forall_mem_singleton]
    exact ⟨by decide, hleaf _ (by decide) rfl, hleaf _ (by decide) rfl⟩
  rw [Node.regular_iff, entries_sampleTemplate]
  simp only [List.forall_mem_cons, List.not_mem_nil, false_implies, implies_true, and_true]
  exact ⟨by decide, hleaf _ (by decide) rfl, hleaf _ (by decide) rfl, hleaf _ (by decide) rfl,
    hleaf _ (by decide) rfl, hcall⟩

/-- Its parts stand in the source as they are written. -/
theorem sourceOrdered_sampleTemplate : sampleTemplate.SourceOrdered := by
  -- a leaf has nothing below it, so the order of the children is all there is to check
  have hleaf : ∀ (n : Node) (a b : Entry), a.node.entries = [] → n.sourceKey a < n.sourceKey b →
      ∀ m ∈ a.node.nodes, m.position.le b.node.position := by
    intro n a b ha hlt m hm
    rw [Node.nodes_of_leaf ha, List.mem_singleton] at hm
    rw [hm]
    exact Node.position_le_of_sourceKey_lt hlt
  have hcall : sampleCall.SourceOrdered := by
    rw [Node.sourceOrdered_iff]
    refine ⟨⟨by rw [entries_sampleCall]; decide, fun a ha b _ => ?_⟩, fun e he => ?_⟩
    · exact hleaf _ a b (by rw [entries_sampleCall] at ha; revert a; decide)
    · exact Node.sourceOrdered_of_leaf (by rw [entries_sampleCall] at he; revert e; decide)
  -- the call is in front of the second part and the other expression
  have hcross : ∀ b ∈ sampleTemplate.entries,
      sampleTemplate.sourceKey ⟨"expressions", some 1, sampleCall⟩ < sampleTemplate.sourceKey b →
      ∀ m ∈ sampleCall.nodes, m.position.le b.node.position := by
    rw [entries_sampleTemplate, nodes_sampleCall]
    decide
  have hentry : ∀ e ∈ sampleTemplate.entries,
      e.node.entries = [] ∨ e = ⟨"expressions", some 1, sampleCall⟩ := by
    intro e he
    simp only [entries_sampleTemplate, List.mem_cons, List.not_mem_nil, or_false] at he
    rcases he with rfl | rfl | rfl | rfl | rfl
    all_goals first | exact .inl rfl | exact .inr rfl
  rw [Node.sourceOrdered_iff]
  refine ⟨⟨by rw [entries_sampleTemplate]; decide, fun a ha b hb hlt => ?_⟩, fun e he => ?_⟩
  · obtain hnil | rfl := hentry a ha
    · exact hleaf _ a b hnil hlt
    · exact hcross b hb hlt
  · obtain hnil | rfl := hentry e he
    · exact Node.sourceOrdered_of_leaf hnil
    · exact hcall

/-- The names of the template are reported from left to right. -/
theorem report_keeps_sourceOrder_sampleTemplate :
    let e : Emission :=
      ⟨⟨Tree.ofRoot sampleTemplate, RuleTable.standard, []⟩, "`${f(a)} ${b}`".toList,
        "sample.js", -2, 7⟩
    sampleTemplate.Regular ∧ sampleTemplate.SourceOrdered ∧
    e.classifier.tree.identifiers.Pairwise (fun o o' => o.position.le o'.position) ∧
    ∃ contributions,
      List.Forall₂ e.Contributes e.reported contributions ∧
      e.report.tags = contributions.flatMap Contribution.tags ∧
      (contributions.filterMap Contribution.own).Pairwise
        (fun t t' => t.position.le t'.position) ∧
      e.report.diagnostics = contributions.filterMap Contribution.diagnostic ∧
      e.report.diagnostics.Pairwise (fun d d' => d.position.le d'.position) :=
  ⟨regular_sampleTemplate, sourceOrdered_sampleTemplate,
    report_keeps_sourceOrder sampleTemplate regular_sampleTemplate sourceOrdered_sampleTemplate
      RuleTable.standard [] "`${f(a)} ${b}`".toList "sample.js" (-2) 7⟩

end Emission

end SymbolTags
