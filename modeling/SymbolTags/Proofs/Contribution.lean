import SymbolTags.Proofs.Textual

namespace SymbolTags

open Syntax

/-!
# Contributions — what each name adds to a report

A report is one list of tags and one of diagnostics.  This file takes both apart again, name
by name:

* `Contribution` — the own tag, the tags of selector names and the diagnostic of one name;
* `Emission.Tells` — what a tag tells of a name, field by field;
* `Emission.Contributes` — which contributions a name may have, by its final verdict;
* `Emission.report_interleaves` — the names of the unfolding contribute one after another, each
  once, and nothing else is in the report.
-/

/-- What one name adds to a report. -/
structure Contribution where
  own : Option Tag := none
  selectors : List Tag := []
  diagnostic : Option Diagnostic := none

/-- The tags of a name: its own, and right behind it those of selector names. -/
def Contribution.tags (c : Contribution) : List Tag :=
  c.own.toList ++ c.selectors

/-! ### Lookup calls -/

namespace Selector

/-- The names of the lookup functions. -/
def lookupNames : List String :=
  ["getElementById", "getElementsByClassName", "getElementsByName", "querySelector",
    "querySelectorAll"]

theorem Lookup.mem_lookupNames {name : String} {lookup : Lookup}
    (h : Lookup.ofName? name = some lookup) : name ∈ lookupNames := by
  unfold Lookup.ofName? at h
  split_ifs at h with hwords hselectors
  · simp only [List.mem_cons, List.not_mem_nil, or_false] at hwords
    rcases hwords with rfl | rfl | rfl <;> decide
  · simp only [List.mem_cons, List.not_mem_nil, or_false] at hselectors
    rcases hselectors with rfl | rfl <;> decide

/-- Selector names are found for references to a lookup function alone. -/
theorem of_references_ne_nil {c : Classifier} {source : List Char} {o : Occurrence}
    (h : references c source o ≠ []) :
    c.verdict o = .reference ∧ ∃ name ∈ lookupNames, o.name = .str name := by
  unfold references at h
  split at h
  · rename_i lookup literal hlookup hargument
    refine ⟨(of_argument? hargument).1, ?_⟩
    obtain ⟨name, hname, hof⟩ := Option.bind_eq_some_iff.mp hlookup
    refine ⟨name, Lookup.mem_lookupNames hof, ?_⟩
    -- A lookup is found by text, so the name it was found for is one.
    generalize o.name = v at hname ⊢
    cases v with
    | str s => rw [Option.some.inj hname]
    | _ => simp [Value.str?] at hname
  · exact absurd rfl h

end Selector

/-! ### Contributions by verdict -/

namespace Emission

/-- What a tag tells of a name at a position: the offsets move the numbers, and the text of the line
    is that of the source at hand. -/
structure Tells (e : Emission) (kind : TagKind) (name : Data) (p : Position) (t : Tag) : Prop where
  kind : t.kind = kind
  name : t.name = name
  path : t.path = e.path
  line : t.line = p.line + e.lineOffset
  column : t.column = p.column + e.columnOffset
  sourceLine : t.sourceLine = Text.lineText e.sourceLines p.line

/-- A name and what it may add to a report.  A definition adds its tag and nothing else, a
    reference its tag and, when it names a lookup function, the tags of selector names, one for
    each and in their order.  An ignored name adds nothing, and one at an unknown place a
    diagnostic. -/
inductive Contributes (e : Emission) (o : Occurrence) : Contribution → Prop
  | definition (h : e.classifier.classify o = .ok .definition) (own : Tag)
      (hown : e.Tells .definition (shownName o) o.position own) :
      Contributes e o { own := some own }
  | reference (h : e.classifier.classify o = .ok .reference) (own : Tag)
      (hown : e.Tells .reference (shownName o) o.position own) (selectors : List Tag)
      (hfound : List.Forall₂ (fun r => e.Tells .reference (.str r.name) r.position)
        (Selector.references e.classifier e.source o) selectors)
      (hname : selectors ≠ [] → ∃ name ∈ Selector.lookupNames, o.name = .str name) :
      Contributes e o { own := some own, selectors := selectors }
  | ignore (h : e.classifier.classify o = .ok .ignore) : Contributes e o {}
  | unknown (h : e.classifier.classify o = .ok .unknown) (d : Diagnostic)
      (hname : d.name = shownName o) (hpath : d.path = e.path)
      (hline : d.line = o.position.line + e.lineOffset)
      (hcolumn : d.column = o.position.column + e.columnOffset)
      (hplace : d.place = e.placeText o)
      (htrace : d.trace = e.classifier.tree.structuralPath o)
      (hsourceLine : d.sourceLine = Text.lineText e.sourceLines o.position.line) :
      Contributes e o { diagnostic := some d }

/-- What the report has of a name. -/
def contribution (e : Emission) (o : Occurrence) : Contribution where
  own := e.ownTag? e.sourceLines o
  selectors := e.selectorTags e.sourceLines o
  diagnostic := e.diagnostic? e.sourceLines o

variable {e : Emission} {o : Occurrence}

/-- The tags that are made for a name tell all of this. -/
theorem tells_tagAt (e : Emission) (kind : TagKind) (name : Data) (p : Position) :
    e.Tells kind name p (e.tagAt e.sourceLines kind name p) :=
  ⟨rfl, rfl, rfl, rfl, rfl, rfl⟩

/-- Only references have selector tags. -/
theorem selectorTags_eq_nil (h : e.classifier.verdict o ≠ .reference) :
    e.selectorTags e.sourceLines o = [] := by
  by_contra hne
  have hreferences : Selector.references e.classifier e.source o ≠ [] := by
    intro hnil
    exact hne (by rw [selectorTags, hnil, List.map_nil])
  exact h (Selector.of_references_ne_nil hreferences).1

/-- Selector tags are references, and their block follows the name of a lookup function. -/
theorem of_mem_selectorTags {tag : Tag} (h : tag ∈ e.selectorTags e.sourceLines o) :
    tag.kind = .reference ∧ ∃ name ∈ Selector.lookupNames, o.name = .str name := by
  obtain ⟨r, hr, rfl⟩ := List.mem_map.mp h
  exact ⟨rfl, (Selector.of_references_ne_nil (List.ne_nil_of_mem hr)).2⟩

/-- A name that can be classified has a contribution of one of the four forms. -/
theorem contributes_contribution (hname : o.isIdentifier = true)
    (hfault : e.classifier.fault? o = none) : e.Contributes o (e.contribution o) := by
  have hclassify : e.classifier.classify o = .ok (e.classifier.verdict o) := by
    rw [Classifier.classify, Classifier.answer, if_pos hname, hfault]
  unfold contribution ownTag? diagnostic?
  cases hverdict : e.classifier.verdict o with
  | definition =>
    -- the scan asks for a reference, so other verdicts leave no selector tags
    rw [selectorTags_eq_nil (by simp [hverdict])]
    exact .definition (by rw [hclassify, hverdict]) _ (e.tells_tagAt _ _ _)
  | reference =>
    refine .reference (by rw [hclassify, hverdict]) _ (e.tells_tagAt _ _ _) _ ?_ ?_
    · rw [selectorTags, List.forall₂_map_right_iff, List.forall₂_same]
      exact fun r _ => e.tells_tagAt _ _ _
    · intro hne
      obtain ⟨tag, htag⟩ := List.exists_mem_of_ne_nil _ hne
      exact (of_mem_selectorTags htag).2
  | ignore =>
    rw [selectorTags_eq_nil (by simp [hverdict])]
    exact .ignore (by rw [hclassify, hverdict])
  | unknown =>
    rw [selectorTags_eq_nil (by simp [hverdict])]
    exact .unknown (by rw [hclassify, hverdict]) _ rfl rfl rfl rfl rfl rfl rfl

/-! ### Reports -/

/-- **No name is lost or reported twice.**  For every tree, rule table, list of policies and
    source, the names of the unfolding contribute to the report in pre-order, each once: an own
    tag, a diagnostic or nothing, as its final verdict says.  The tags of the report are the own
    tags, interleaved with blocks of selector tags that stand right behind the reference to a
    lookup function, and nothing else.  Nothing stops the report of a textual tree. -/
theorem report_interleaves (root : Node) (rules : RuleTable) (policies : List Policy)
    (source : List Char) (path : String) (lineOffset columnOffset : Int) :
    let e : Emission :=
      ⟨⟨Tree.ofRoot root, rules, policies⟩, source, path, lineOffset, columnOffset⟩
    (root.Textual → e.fault? = none) ∧
    (e.fault? = none →
      ∃ contributions,
        e.classifier.tree.identifiers.map e.classifier.tree.spot
          = (root.unfold []).filter (fun s => s.node.isIdentifier) ∧
        List.Forall₂ e.Contributes e.classifier.tree.identifiers contributions ∧
        e.report.tags = contributions.flatMap Contribution.tags ∧
        e.report.diagnostics = contributions.filterMap Contribution.diagnostic) := by
  intro e
  refine ⟨fun htextual => fault?_eq_none htextual rfl, fun hfault => ?_⟩
  refine ⟨e.classifier.tree.identifiers.map e.contribution, Tree.identifiers_map_spot root,
    ?_, ?_, ?_⟩
  · -- Each identifier against its own contribution.
    rw [List.forall₂_map_right_iff, List.forall₂_same]
    intro o ho
    have hreported : e.faultOf? o = none := List.findSome?_eq_none_iff.mp hfault o ho
    have hclassified : e.classifier.fault? o = none := ((Option.orElse_eq_none _ _).mp hreported).1
    exact contributes_contribution (List.mem_filter.mp ho).2 hclassified
  · rw [tags_eq_of_fault? hfault, List.flatMap_map]
    rfl
  · rw [diagnostics_eq_of_fault? hfault, List.filterMap_map]
    rfl

/-- A name with a text is textual wherever it hangs. -/
theorem textual_sampleName (identity : Nat) (name : String) (column : Int) (above : List Step) :
    ∀ s ∈ (Tree.sampleName identity name column).unfold above, s.Textual := by
  rw [Node.forall_mem_unfold]
  refine ⟨⟨trivial, fun hkind => ?_, fun _ => trivial⟩, fun e he => absurd he List.not_mem_nil⟩
  exact absurd hkind (show ¬"Identifier" = "Literal" by decide)

/-- A text literal. -/
def sampleLiteral : Node :=
  { type := some "Literal", attributes := [("value", .str ".a"), ("raw", .str "'.a'")] }

/-- The member of an object that is called. -/
def sampleMember : Node :=
  { type := some "MemberExpression"
    attributes :=
      [("object", .node (Tree.sampleName 1 "document" 0)),
       ("property", .node (Tree.sampleName 2 "querySelector" 9))] }

/-- The call of a lookup function with a text. -/
def lookupCall : Node :=
  { type := some "CallExpression"
    attributes := [("callee", .node sampleMember), ("arguments", .list 0 [.node sampleLiteral])] }

theorem report_interleaves_lookupCall :
    let e : Emission := ⟨⟨Tree.ofRoot lookupCall, RuleTable.standard, [Policy.require]⟩,
      "document.querySelector('.a')".toList, "sample.js", 0, 0⟩
    lookupCall.Textual ∧
    ∃ contributions,
      e.classifier.tree.identifiers.map e.classifier.tree.spot
        = (lookupCall.unfold []).filter (fun s => s.node.isIdentifier) ∧
      List.Forall₂ e.Contributes e.classifier.tree.identifiers contributions ∧
      e.report.tags = contributions.flatMap Contribution.tags ∧
      e.report.diagnostics = contributions.filterMap Contribution.diagnostic := by
  -- The children of the three inner nodes, so that the unfolding can be walked by hand.
  have hcall : lookupCall.entries =
      [⟨"callee", none, sampleMember⟩, ⟨"arguments", some 0, sampleLiteral⟩] := rfl
  have hmember : sampleMember.entries =
      [⟨"object", none, Tree.sampleName 1 "document" 0⟩,
       ⟨"property", none, Tree.sampleName 2 "querySelector" 9⟩] := rfl
  have hliteral : ∀ above, ∀ s ∈ sampleLiteral.unfold above, s.Textual := by
    intro above
    rw [Node.forall_mem_unfold]
    exact ⟨⟨trivial, fun _ => trivial, fun _ => trivial⟩, fun e he => absurd he List.not_mem_nil⟩
  have htextual : lookupCall.Textual := by
    rw [Node.Textual, Node.forall_mem_unfold, hcall, List.forall_mem_cons,
      List.forall_mem_singleton, Node.forall_mem_unfold, hmember, List.forall_mem_cons,
      List.forall_mem_singleton]
    refine ⟨⟨trivial, fun hkind => ?_, fun _ => trivial⟩,
      ⟨⟨trivial, fun hkind => ?_, fun _ => trivial⟩, textual_sampleName _ _ _ _,
        textual_sampleName _ _ _ _⟩, hliteral _⟩
    · exact absurd hkind (show ¬"CallExpression" = "Literal" by decide)
    · exact absurd hkind (show ¬"MemberExpression" = "Literal" by decide)
  obtain ⟨hfault, hreport⟩ := report_interleaves lookupCall RuleTable.standard [Policy.require]
    "document.querySelector('.a')".toList "sample.js" 0 0
  exact ⟨htextual, hreport (hfault htextual)⟩

end Emission

end SymbolTags
