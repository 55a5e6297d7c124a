import SymbolTags.Proofs.Contribution
import SymbolTags.Proofs.Twins

namespace SymbolTags

open Syntax

/-!
# Statements — programs are tagged one statement at a time

Adding a statement to a program renumbers the whole arena.  Still the names of the other
statements are reported as before, since a name sees nothing outside of its own statement:

* `Syntax.Node.IsProgram` — a program that holds its statements in the list `body` and nothing
  else;
* `Split` — the names of a program, cut into those of its statements, each of them a twin of a
  name in a program with that statement alone;
* `Split.fault?_eq`, `Split.tags_eq` and `Split.diagnostics_eq` — what the report makes of the
  cut, and `report_by_statement`, which assembles them.
-/

/-! ### Programs -/

namespace Syntax

/-- A program whose statements are the items of its list `body`, and whose other attributes hold
    no nodes.  Items that are no nodes are holes. -/
structure Node.IsProgram (root : Node) (items : List Value) : Prop where
  kind : root.kind = programKind
  body : ∃ before identity after,
    root.attributes = before ++ ("body", .list identity items) :: after ∧
      ∀ p ∈ before ++ after, attributeEntries p.1 p.2 = []

/-- The node that a value is. -/
def Value.node? : Value → Option Node
  | .node n => some n
  | _ => none

/-- The nodes among the items stand in the order of their locations. -/
def InOrder (items : List Value) : Prop :=
  (items.filterMap Value.node?).Pairwise fun m n => m.position.le n.position = true

instance (items : List Value) : Decidable (InOrder items) :=
  inferInstanceAs (Decidable (List.Pairwise _ _))

/-- The statements of a program are its only entries. -/
theorem Node.IsProgram.entries_eq {root : Node} {items : List Value} (h : root.IsProgram items) :
    root.entries = listEntries "body" 0 items := by
  obtain ⟨before, identity, after, hattributes, hothers⟩ := h.body
  obtain ⟨hbefore, hafter⟩ := List.forall_mem_append.mp hothers
  rw [Node.entries, hattributes, List.flatMap_append, List.flatMap_cons,
    List.flatMap_eq_nil_iff.mpr hbefore, List.flatMap_eq_nil_iff.mpr hafter, List.append_nil]
  rfl

/-- Items in order are entries in order. -/
theorem InOrder.pairwise_listEntries {items : List Value} (h : InOrder items) (prop : String)
    (first : Nat) : (listEntries prop first items).Pairwise fun a b => a.le b = true := by
  fun_induction listEntries prop first items with
  | case1 => exact .nil
  | case2 first n rest ih =>
    obtain ⟨hn, hrest⟩ := List.pairwise_cons.mp h
    refine List.pairwise_cons.mpr ⟨?_, ih hrest⟩
    intro e he
    obtain ⟨k, hk, -⟩ := (mem_listEntries prop (first + 1) rest e).mp he
    exact hn _ (List.mem_filterMap.mpr ⟨_, List.mem_of_getElem? hk, rfl⟩)
  | case3 first v rest hv ih =>
    -- A value that is no node yields no entry and carries no position.
    have hhole : v.node? = none := by
      cases v with
      | node n => exact absurd rfl (hv n)
      | _ => rfl
    rw [InOrder, List.filterMap_cons_none hhole] at h
    exact ih h

theorem Node.IsProgram.children_eq {root : Node} {items : List Value} (h : root.IsProgram items)
    (hordered : InOrder items) : root.children = listEntries "body" 0 items := by
  have hpairwise := hordered.pairwise_listEntries "body" 0
  rw [← h.entries_eq] at hpairwise ⊢
  exact Node.children_eq_entries hpairwise

/-- The names at and below a node. -/
def Node.nameSpots (n : Node) : List Spot :=
  (n.unfold []).filter fun s => s.node.isIdentifier

/-- The names of a statement; a hole has none. -/
def Value.nameSpots : Value → List Spot
  | .node n => n.nameSpots
  | _ => []

/-- The names at and below a node, seen from further above. -/
theorem Node.filter_unfold (n : Node) (outer : List Step) :
    (n.unfold outer).filter (fun s => s.node.isIdentifier)
      = n.nameSpots.map (Spot.under outer) := by
  have hunder := n.unfold_append [] outer
  rw [List.nil_append] at hunder
  rw [hunder, List.filter_map]
  rfl

/-- The names of statements that hang on a program. -/
theorem filter_flatMap_listEntries (root : Node) (first : Nat) (items : List Value) :
    ((listEntries "body" first items).flatMap fun e => e.node.unfold [e.step root]).filter
        (fun s => s.node.isIdentifier)
      = (items.zipIdx first).flatMap fun p =>
          p.1.nameSpots.map (Spot.under [statementStep root p.2]) := by
  fun_induction listEntries "body" first items with
  | case1 => rfl
  | case2 first n rest ih =>
    rw [List.flatMap_cons, List.filter_append, ih, Node.filter_unfold, List.zipIdx_cons,
      List.flatMap_cons]
    rfl
  | case3 first v rest hv ih =>
    -- a hole has an index of its own, but no names
    rw [ih, List.zipIdx_cons, List.flatMap_cons]
    cases v with
    | node n => exact absurd rfl (hv n)
    | _ => rfl

/-- The names of a program are those of its statements. -/
theorem Node.IsProgram.nameSpots_eq {root : Node} {items : List Value} (h : root.IsProgram items)
    (hordered : InOrder items) :
    root.nameSpots = items.zipIdx.flatMap fun p =>
      p.1.nameSpots.map (Spot.under [statementStep root p.2]) := by
  have hroot : root.isIdentifier = false := by
    rw [Node.isIdentifier, h.kind]
    decide
  rw [Node.nameSpots, Node.unfold_eq, List.filter_cons_of_neg (by simp [hroot]),
    h.children_eq hordered]
  exact filter_flatMap_listEntries root 0 items

/-- The names of a program with one statement are those of the statement. -/
theorem Node.IsProgram.nameSpots_singleton {root : Node} {item : Value}
    (h : root.IsProgram [item]) :
    root.nameSpots = item.nameSpots.map (Spot.under [statementStep root 0]) := by
  have hordered : InOrder [item] := by
    cases item with
    | node n => exact List.pairwise_singleton _ _
    | _ => exact .nil
  rw [h.nameSpots_eq hordered, List.zipIdx_cons, List.zipIdx_nil, List.flatMap_singleton]

end Syntax

/-! ### Cutting a program into statements -/

/-- The names of a program from the statement at index `k` on, cut into blocks: each block is
    made of twins of the names in a program with the statement alone. -/
inductive Split (root : Node) : Nat → List Node → List Occurrence → Prop
  | nil {k : Nat} : Split root k [] []
  | cons {k : Nat} {part : Node} {parts : List Node} {os rest : List Occurrence} :
      List.Forall₂ (Twins root part k 0) os (Tree.ofRoot part).identifiers →
      Split root (k + 1) parts rest → Split root k (part :: parts) (os ++ rest)

/-- Occurrences that stand for the same spots below their statements are twins. -/
theorem Twins.forall₂_of_spots {root root' : Node} {k k' : Nat} (hroot : root.kind = programKind)
    (hroot' : root'.kind = programKind) {spots : List Spot} {os os' : List Occurrence}
    (hos : ∀ o ∈ os, (Tree.ofRoot root).get? o.index = some o)
    (hos' : ∀ o ∈ os', (Tree.ofRoot root').get? o.index = some o)
    (hspots : os.map (Tree.ofRoot root).spot = spots.map (Spot.under [statementStep root k]))
    (hspots' : os'.map (Tree.ofRoot root').spot
      = spots.map (Spot.under [statementStep root' k'])) :
    List.Forall₂ (Twins root root' k k') os os' := by
  induction spots generalizing os os' with
  | nil =>
    rw [List.map_nil, List.map_eq_nil_iff] at hspots hspots'
    rw [hspots, hspots']
    exact .nil
  | cons s spots ih =>
    rw [List.map_cons, List.map_eq_cons_iff] at hspots hspots'
    obtain ⟨o, rest, rfl, ho, hrest⟩ := hspots
    obtain ⟨o', rest', rfl, ho', hrest'⟩ := hspots'
    have htwins : Twins root root' k k' o o' :=
      ⟨hroot, hroot', hos o List.mem_cons_self, hos' o' List.mem_cons_self, s, ho, ho'⟩
    exact .cons htwins (ih (fun o ho => hos o (List.mem_cons_of_mem _ ho))
      (fun o ho => hos' o (List.mem_cons_of_mem _ ho)) hrest hrest')

/-- **The cut.**  Occurrences that stand for the names of statements split into blocks. -/
theorem Split.of_spots {root : Node} (hroot : root.kind = programKind) {items : List Value}
    {parts : List Node} (hparts : List.Forall₂ (fun item part => part.IsProgram [item]) items parts)
    {k : Nat} {os : List Occurrence} (hos : ∀ o ∈ os, (Tree.ofRoot root).get? o.index = some o)
    (hspots : os.map (Tree.ofRoot root).spot = (items.zipIdx k).flatMap fun p =>
      p.1.nameSpots.map (Spot.under [statementStep root p.2])) :
    Split root k parts os := by
  induction hparts generalizing k os with
  | nil =>
    rw [List.zipIdx_nil, List.flatMap_nil, List.map_eq_nil_iff] at hspots
    rw [hspots]
    exact .nil
  | @cons item part items parts hpart _ ih =>
    -- the names of the first statement come first, and the rest is a cut by induction
    rw [List.zipIdx_cons, List.flatMap_cons, List.map_eq_append_iff] at hspots
    obtain ⟨block, rest, rfl, hblock, hrest⟩ := hspots
    refine .cons ?_ (ih (fun o ho => hos o (List.mem_append_right _ ho)) hrest)
    refine Twins.forall₂_of_spots hroot hpart.kind
      (fun o ho => hos o (List.mem_append_left _ ho))
      (fun o ho => Tree.get?_of_mem_identifiers part ho) hblock ?_
    rw [Tree.identifiers_map_spot]
    exact hpart.nameSpots_singleton

/-- The names of a program split into blocks. -/
theorem Split.of_isProgram {root : Node} {items : List Value} {parts : List Node}
    (hroot : root.IsProgram items) (hordered : InOrder items)
    (hparts : List.Forall₂ (fun item part => part.IsProgram [item]) items parts) :
    Split root 0 parts (Tree.ofRoot root).identifiers := by
  refine Split.of_spots hroot.kind hparts (fun o ho => Tree.get?_of_mem_identifiers root ho) ?_
  rw [Tree.identifiers_map_spot]
  exact hroot.nameSpots_eq hordered

/-! ### Reports of the blocks -/

namespace Split

variable {root : Node} {k : Nat} {parts : List Node} {os : List Occurrence} (settings : Settings)
  (source path : String) (offsets : Offsets)

/-- The first fault of a program is the first fault of its statements. -/
theorem fault?_eq (h : Split root k parts os) :
    os.findSome? (emissionOf settings (Tree.ofRoot root) source path offsets).faultOf?
      = parts.findSome? fun part =>
          (emissionOf settings (Tree.ofRoot part) source path offsets).fault? := by
  induction h with
  | nil => rfl
  | @cons k part parts os rest hblock _ ih =>
    -- Twins fail alike, so the block fails as the program of that one statement does.
    have hfaults := congrArg (List.findSome? id)
      (map_eq_of_forall₂ hblock fun ht => ht.faultOf?_eq settings source path offsets)
    rw [List.findSome?_map, List.findSome?_map] at hfaults
    have hpart : os.findSome? (emissionOf settings (Tree.ofRoot root) source path offsets).faultOf?
        = (emissionOf settings (Tree.ofRoot part) source path offsets).fault? := hfaults
    rw [List.findSome?_append, List.findSome?_cons, ih, hpart]
    cases (emissionOf settings (Tree.ofRoot part) source path offsets).fault? <;> rfl

/-- The tags of a program are the tags of its statements, one after another. -/
theorem tags_eq (h : Split root k parts os)
    (hfault : ∀ part ∈ parts,
      (emissionOf settings (Tree.ofRoot part) source path offsets).fault? = none) :
    os.flatMap ((emissionOf settings (Tree.ofRoot root) source path offsets).tagsOf
        (Text.lines source.toList).toArray)
      = parts.flatMap fun part =>
          (emissionOf settings (Tree.ofRoot part) source path offsets).report.tags := by
  induction h with
  | nil => rfl
  | @cons k part parts os rest hblock _ ih =>
    obtain ⟨hpart, hparts⟩ := List.forall_mem_cons.mp hfault
    -- Twins are tagged alike, block by block.
    have htags := congrArg List.flatten
      (map_eq_of_forall₂ hblock fun ht => ht.tagsOf_eq settings source path offsets
        (Text.lines source.toList).toArray)
    rw [← List.flatMap_def, ← List.flatMap_def] at htags
    rw [List.flatMap_append, List.flatMap_cons, ih hparts, htags, Emission.tags_eq_of_fault? hpart]
    rfl

/-- The diagnostics of a program are those of its statements, each moved to the index of its
    statement. -/
theorem diagnostics_eq (h : Split root k parts os)
    (hfault : ∀ part ∈ parts,
      (emissionOf settings (Tree.ofRoot part) source path offsets).fault? = none) :
    os.filterMap ((emissionOf settings (Tree.ofRoot root) source path offsets).diagnostic?
        (Text.lines source.toList).toArray)
      = (parts.zipIdx k).flatMap fun p =>
          (emissionOf settings (Tree.ofRoot p.1) source path offsets).report.diagnostics.map
            (Diagnostic.inStatement p.2) := by
  induction h with
  | nil => rfl
  | @cons k part parts os rest hblock _ ih =>
    obtain ⟨hpart, hparts⟩ := List.forall_mem_cons.mp hfault
    have hdiagnostics := congrArg (List.filterMap id)
      (map_eq_of_forall₂ hblock fun ht => ht.diagnostic?_eq settings source path offsets
        (Text.lines source.toList).toArray)
    rw [List.filterMap_map, List.filterMap_map] at hdiagnostics
    rw [List.filterMap_append, List.zipIdx_cons, List.flatMap_cons, ih hparts,
      Emission.diagnostics_eq_of_fault? hpart, List.map_filterMap]
    exact congrArg (· ++ _) hdiagnostics

end Split

/-- In a program with one statement every trace starts with the step to that statement. -/
theorem head?_trace_of_isProgram {part : Node} {item : Value} (h : part.IsProgram [item])
    {e : Emission} (he : e.classifier.tree = Tree.ofRoot part) {d : Diagnostic}
    (hd : d ∈ e.report.diagnostics) : d.trace.head? = some (statementMark 0) := by
  obtain ⟨o, ho, hsome⟩ := List.mem_filterMap.mp hd
  have hspot : (Tree.ofRoot part).spot o ∈ part.nameSpots := by
    rw [Node.nameSpots, ← Tree.identifiers_map_spot, ← he]
    exact List.mem_map_of_mem ((List.takeWhile_sublist _).subset ho)
  rw [h.nameSpots_singleton] at hspot
  obtain ⟨s, -, hs⟩ := List.mem_map.mp hspot
  unfold Emission.diagnostic? Emission.diagnosticOf at hsome
  split_ifs at hsome
  rw [← Option.some.inj hsome]
  simp only [he, Tree.structuralPath_eq_spot, ← hs, ← segment_statementStep h.kind]
  simp [Spot.under]

/-- **Statements are tagged independently.**  Take a program whose only nodes are the statements
    in its list `body`, in the order of their locations, and for each of them a program with
    this statement alone.  Over the same source, the tags of the whole are the tags of the parts,
    one part after another, and so are the diagnostics, except that the first segment of a trace
    gives the index of the statement in the whole.  The whole is refused exactly when a part is,
    for the reason of the first such part. -/
theorem report_by_statement (settings : Settings) (source path : String) (offsets : Offsets)
    (root : Node) (items : List Value) (parts : List Node) (hroot : root.IsProgram items)
    (hordered : InOrder items)
    (hparts : List.Forall₂ (fun item part => part.IsProgram [item]) items parts) :
    let emission (program : Node) := emissionOf settings (Tree.ofRoot program) source path offsets
    (emission root).fault? = parts.findSome? (fun part => (emission part).fault?) ∧
    ((emission root).fault? = none →
      (emission root).report.tags = parts.flatMap (fun part => (emission part).report.tags) ∧
      (emission root).report.diagnostics = parts.zipIdx.flatMap (fun p =>
        (emission p.1).report.diagnostics.map (Diagnostic.inStatement p.2))) ∧
    ∀ part ∈ parts, ∀ d ∈ (emission part).report.diagnostics,
      d.trace.head? = some (statementMark 0) := by
  intro emission
  have hsplit := Split.of_isProgram hroot hordered hparts
  have hfaults : (emission root).fault? = parts.findSome? fun part => (emission part).fault? :=
    hsplit.fault?_eq settings source path offsets
  refine ⟨hfaults, fun hnone => ?_, fun part hpart d hd => ?_⟩
  · have hpart : ∀ part ∈ parts, (emission part).fault? = none := by
      rw [hfaults] at hnone
      exact List.findSome?_eq_none_iff.mp hnone
    rw [Emission.tags_eq_of_fault? hnone, Emission.diagnostics_eq_of_fault? hnone]
    exact ⟨hsplit.tags_eq settings source path offsets hpart,
      hsplit.diagnostics_eq settings source path offsets hpart⟩
  · -- Forget which statement each part is of, and keep that it is of one.
    have hone : ∀ part ∈ parts, ∃ item, part.IsProgram [item] := by
      have hboth := hparts.flip.imp fun part item h => And.intro (Exists.intro item h) h
      exact ((List.forall₂_and_left _ _).mp hboth).1
    obtain ⟨item, hitem⟩ := hone part hpart
    exact head?_trace_of_isProgram hitem rfl hd

/-- A script with the given statements. -/
def sampleScript (items : List Value) : Node :=
  { type := some programKind
    attributes := [("sourceType", .str "script"), ("body", .list 0 items)] }

/-- A statement that uses a name. -/
def sampleUse : Node :=
  { type := some "ExpressionStatement", loc := some (some ⟨1, 0⟩)
    attributes := [("expression", .node (Tree.sampleName 1 "a" 0))] }

/-- A statement, a hole, and a name that is no statement. -/
def sampleStatements : List Value :=
  [.node sampleUse, .null, .node (Tree.sampleName 2 "b" 3)]

theorem report_by_statement_sampleScript :
    (sampleScript sampleStatements).IsProgram sampleStatements ∧ InOrder sampleStatements ∧
    List.Forall₂ (fun item part => part.IsProgram [item]) sampleStatements
      (sampleStatements.map fun item => sampleScript [item]) ∧
    let emission (program : Node) :=
      emissionOf {} (Tree.ofRoot program) "a; b" "sample.js" { line := 7 }
    (emission (sampleScript sampleStatements)).fault? = none ∧
    (emission (sampleScript sampleStatements)).report.tags
      = (sampleStatements.map fun item => sampleScript [item]).flatMap fun part =>
          (emission part).report.tags := by
  have hscript : ∀ items, (sampleScript items).IsProgram items := by
    intro items
    refine ⟨rfl, [("sourceType", .str "script")], 0, [], rfl, ?_⟩
    intro p hp
    rw [List.mem_singleton.mp hp]
    rfl
  have hordered : InOrder sampleStatements := by decide
  have hparts : List.Forall₂ (fun item part => part.IsProgram [item]) sampleStatements
      (sampleStatements.map fun item => sampleScript [item]) := by
    rw [List.forall₂_map_right_iff, List.forall₂_same]
    exact fun item _ => hscript [item]
  have htextual : (sampleScript sampleStatements).Textual := by
    have hentries : (sampleScript sampleStatements).entries =
        [⟨"body", some 0, sampleUse⟩, ⟨"body", some 2, Tree.sampleName 2 "b" 3⟩] := rfl
    have huse : sampleUse.entries = [⟨"expression", none, Tree.sampleName 1 "a" 0⟩] := rfl
    rw [Node.Textual, Node.forall_mem_unfold, hentries, List.forall_mem_cons,
      List.forall_mem_singleton, Node.forall_mem_unfold, huse, List.forall_mem_singleton]
    refine ⟨⟨trivial, fun hkind => ?_, fun _ => trivial⟩,
      ⟨⟨trivial, fun hkind => ?_, fun _ => trivial⟩, Emission.textual_sampleName _ _ _ _⟩,
      Emission.textual_sampleName _ _ _ _⟩
    · exact absurd hkind (show ¬"Program" = "Literal" by decide)
    · exact absurd hkind (show ¬"ExpressionStatement" = "Literal" by decide)
  have hfault : (emissionOf {} (Tree.ofRoot (sampleScript sampleStatements)) "a; b" "sample.js"
      { line := 7 }).fault? = none :=
    Emission.fault?_eq_none htextual rfl
  obtain ⟨-, hreport, -⟩ := report_by_statement {} "a; b" "sample.js" { line := 7 }
    (sampleScript sampleStatements) sampleStatements _ (hscript _) hordered hparts
  exact ⟨hscript _, hordered, hparts, hfault, (hreport hfault).1⟩

end SymbolTags
