import SymbolTags.Proofs.Contribution
import SymbolTags.Proofs.Outcome
import SymbolTags.Proofs.Twins

namespace SymbolTags

open Syntax

/-!
# Own modules — what the policy for modules changes

The policy for modules turns some definitions into references, and references may lead to tags
for selector names.  This file compares the two runs over one source, with the policy and
without it:

* `NamesOwnModule` — the name of a declarator whose initialiser loads the module of that name,
  spelled out, and `Policy.bindsOwnModule_iff`, which ties it to the policy;
* `Flips` — such a name that the rules call a definition; `verdict_of_not_flips` says that the
  policy changes no other verdict;
* `argument?_classifierWith` — a name that is flipped is no member of anything, so the policy
  does not make a lookup call of it;
* `InStep` — two lists of tags that differ in the kinds of flipped names alone;
* `tagSource_requirePolicy` — the two runs are refused for the same reason, or return lists of
  tags in step.
-/

/-! ### Names of modules -/

/-- A call of the loader with one argument node, a literal whose text is the specifier. -/
structure LoadsModule (t : Tree) (call : Occurrence) (specifier : String) : Prop where
  kind : call.kind = "CallExpression"
  callee : ∃ callee, t.child? call "callee" = some callee ∧ callee.name = .str Policy.loaderName
  argument : ∃ argument, t.childrenOf call "arguments" = [argument] ∧
    argument.kind = "Literal" ∧ argument.node.attr "value" = .str specifier

/-- The name of a declarator whose initialiser loads a module with this name as its stem. -/
def NamesOwnModule (t : Tree) (o : Occurrence) : Prop :=
  ∃ link declarator call specifier,
    o.link = some link ∧ link.prop = "id" ∧ t.get? link.parent = some declarator ∧
    declarator.kind = "VariableDeclarator" ∧ t.child? declarator "init" = some call ∧
    LoadsModule t call specifier ∧ o.name = .str (moduleStem specifier)

/-- The parent at a place is the parent, if its kind and the property are those of the place. -/
theorem ownerAt?_eq_some {t : Tree} {o p : Occurrence} {place : Place} :
    ownerAt? t place o = some p ↔ ∃ link, o.link = some link ∧ link.prop = place.prop ∧
      t.get? link.parent = some p ∧ p.kind = place.kind := by
  unfold ownerAt? Tree.up?
  cases o.link with
  | none => simp
  | some link =>
    cases hget : t.get? link.parent with
    | none => simp [hget]
    | some q =>
      simp only [Option.bind_some, Option.map_some, hget, Option.ite_none_right_eq_some,
        Option.some.injEq, exists_eq_left']
      constructor
      · rintro ⟨⟨hkind, hprop⟩, rfl⟩
        exact ⟨hprop, rfl, hkind⟩
      · rintro ⟨hprop, rfl, hkind⟩
        exact ⟨⟨hkind, hprop⟩, rfl⟩

namespace Syntax.Value

/-- A value has a text just if it is one. -/
theorem str?_eq_some {v : Value} {s : String} : v.str? = some s ↔ v = .str s := by
  cases v <;> simp [str?]

/-- It is that text just if it is equal to it. -/
theorem isText_iff {v : Value} {s : String} : v.isText s = true ↔ v = .str s := by
  rw [isText, beq_iff_eq, str?_eq_some]

end Syntax.Value

/-- The specifier that a declarator loads. -/
theorem Policy.requiredModule?_eq_some {t : Tree} {declarator : Occurrence} {specifier : String} :
    requiredModule? t declarator = some specifier ↔
      ∃ call, t.child? declarator "init" = some call ∧ LoadsModule t call specifier := by
  unfold requiredModule?
  simp only [Option.bind_eq_bind, Option.bind_eq_some_iff, Option.guard_eq_some', exists_const,
    beq_iff_eq, Value.isText_iff]
  constructor
  · rintro ⟨call, hcall, hkind, callee, hcallee, hname, hargument⟩
    refine ⟨call, hcall, hkind, ⟨callee, hcallee, hname⟩, ?_⟩
    split at hargument
    · rename_i argument harguments
      simp only [Option.bind_eq_some_iff, Option.guard_eq_some', exists_const,
        Value.str?_eq_some] at hargument
      exact ⟨argument, harguments, hargument⟩
    · simp at hargument
  · rintro ⟨call, hcall, hkind, ⟨callee, hcallee, hname⟩, ⟨argument, harguments, hliteral, hvalue⟩⟩
    refine ⟨call, hcall, hkind, callee, hcallee, hname, ?_⟩
    rw [harguments]
    simp [hliteral, hvalue, Value.str?]

/-- The policy asks for the name of a declarator that loads the module of that name. -/
theorem Policy.bindsOwnModule_iff {t : Tree} {o : Occurrence} :
    bindsOwnModule t o = true ↔ NamesOwnModule t o := by
  unfold bindsOwnModule NamesOwnModule
  rw [declaratorOf?_eq_ownerAt?]
  constructor
  · intro h
    split at h
    · rename_i specifier hspecifier
      obtain ⟨declarator, howner, hmodule⟩ := Option.bind_eq_some_iff.mp hspecifier
      obtain ⟨link, hlink, hprop, hget, hkind⟩ := ownerAt?_eq_some.mp howner
      obtain ⟨call, hcall, hloads⟩ := requiredModule?_eq_some.mp hmodule
      exact ⟨link, declarator, call, specifier, hlink, hprop, hget, hkind, hcall, hloads,
        Value.isText_iff.mp h⟩
    · simp at h
  · rintro ⟨link, declarator, call, specifier, hlink, hprop, hget, hkind, hcall, hloads, hname⟩
    have howner : ownerAt? t ⟨"VariableDeclarator", "id"⟩ o = some declarator :=
      ownerAt?_eq_some.mpr ⟨link, hlink, hprop, hget, hkind⟩
    have hmodule : requiredModule? t declarator = some specifier :=
      requiredModule?_eq_some.mpr ⟨call, hcall, hloads⟩
    rw [howner, Option.bind_some, hmodule]
    exact Value.isText_iff.mpr hname

/-! ### Verdicts -/

/-- The standard classifier of a tree, with the policy for modules or without it. -/
def classifierWith (policy : Bool) (t : Tree) : Classifier where
  tree := t
  policies := if policy then [Policy.require] else []

/-- A name that the rules call a definition although it names its own module. -/
def Flips (t : Tree) (o : Occurrence) : Prop :=
  (classifierWith false t).baseVerdict o = .definition ∧ NamesOwnModule t o

variable {t : Tree} {o : Occurrence}

/-- The policy turns a definition into a reference where a name is flipped. -/
theorem Flips.verdict_eq (h : Flips t o) :
    (classifierWith false t).verdict o = .definition ∧
      (classifierWith true t).verdict o = .reference := by
  obtain ⟨hbase, hname⟩ := h
  refine ⟨hbase, ?_⟩
  show Policy.require.adjust t o ((classifierWith false t).baseVerdict o) = .reference
  rw [hbase]
  simp [Policy.require, Policy.bindsOwnModule_iff.mpr hname]

/-- The policy leaves all other verdicts as they are. -/
theorem verdict_of_not_flips (h : ¬Flips t o) :
    (classifierWith true t).verdict o = (classifierWith false t).verdict o := by
  show (if (classifierWith false t).baseVerdict o == .definition && Policy.bindsOwnModule t o
    then Verdict.reference else (classifierWith false t).baseVerdict o) = _
  rw [if_neg]
  · rfl
  · rw [Bool.and_eq_true, beq_iff_eq, Policy.bindsOwnModule_iff]
    exact h

/-! ### Lookup calls -/

/-- A name that is flipped hangs on a declarator, and so is no member that is called. -/
theorem Flips.argument?_eq_none (h : Flips t o) (policy : Bool) :
    Selector.argument? (classifierWith policy t) o = none := by
  obtain ⟨-, link, -, -, -, hlink, hprop, -⟩ := h
  rw [Selector.argument?_eq_ownerAt?]
  split_ifs
  · rw [Option.bind_eq_none_iff]
    intro member hmember
    obtain ⟨link', hlink', hprop', -⟩ := ownerAt?_eq_some.mp hmember
    -- An owner hangs by `callee`, a declarator by `id`: the name has one link only.
    rw [hlink, Option.some.injEq] at hlink'
    rw [← hlink', hprop] at hprop'
    exact absurd hprop' (by decide)
  · rfl

/-- **Lookup calls.**  The policy changes no argument that is scanned. -/
theorem argument?_classifierWith (t : Tree) (o : Occurrence) :
    Selector.argument? (classifierWith true t) o
      = Selector.argument? (classifierWith false t) o := by
  by_cases h : Flips t o
  · rw [h.argument?_eq_none, h.argument?_eq_none]
  · rw [Selector.argument?_eq_ownerAt?, Selector.argument?_eq_ownerAt?, verdict_of_not_flips h]
    rfl

variable (source : List Char)

/-- So the same names are scanned. -/
theorem references_classifierWith (t : Tree) (o : Occurrence) :
    Selector.references (classifierWith true t) source o
      = Selector.references (classifierWith false t) source o := by
  unfold Selector.references
  rw [argument?_classifierWith]
  rfl

/-- They are refused for the same reasons. -/
theorem selector_fault?_classifierWith (t : Tree) (o : Occurrence) :
    Selector.fault? (classifierWith true t) source o
      = Selector.fault? (classifierWith false t) source o := by
  unfold Selector.fault?
  rw [argument?_classifierWith]
  rfl

/-! ### Reports -/

/-- Tags of the same names, one list without the policy and one with it.  A flipped name has one
    tag, a definition in the first list and a reference in the second; any other name has the
    same tags in both. -/
inductive InStep (t : Tree) (offsets : Offsets) : List Occurrence → List Tag → List Tag → Prop
  | nil : InStep t offsets [] [] []
  | same {o : Occurrence} {names : List Occurrence} (block : List Tag) {off on : List Tag}
      (hflips : ¬Flips t o) (hrest : InStep t offsets names off on) :
      InStep t offsets (o :: names) (block ++ off) (block ++ on)
  | flipped {o : Occurrence} {names : List Occurrence} {tag : Tag} {off on : List Tag}
      (hflips : Flips t o) (hkind : tag.kind = .definition)
      (hname : tag.name = Emission.shownName o)
      (hline : tag.line = o.position.line + offsets.line)
      (hcolumn : tag.column = o.position.column + offsets.column)
      (hrest : InStep t offsets names off on) :
      InStep t offsets (o :: names) (tag :: off) ({ tag with kind := .reference } :: on)

/-- Tags that agree in all but their kinds, which may be a definition and a reference. -/
structure Tag.AgreesWith (off on : Tag) : Prop where
  name : on.name = off.name
  path : on.path = off.path
  line : on.line = off.line
  column : on.column = off.column
  sourceLine : on.sourceLine = off.sourceLine
  kind : on.kind ≠ off.kind → off.kind = .definition ∧ on.kind = .reference

/-- A tag agrees with itself. -/
theorem Tag.AgreesWith.refl (tag : Tag) : tag.AgreesWith tag :=
  ⟨rfl, rfl, rfl, rfl, rfl, fun h => absurd rfl h⟩

/-- Lists in step agree position by position. -/
theorem InStep.forall₂ {offsets : Offsets} {names : List Occurrence} {off on : List Tag}
    (h : InStep t offsets names off on) : List.Forall₂ Tag.AgreesWith off on := by
  induction h with
  | nil => exact .nil
  | same block _ _ ih =>
    exact List.rel_append (List.forall₂_same.mpr fun tag _ => Tag.AgreesWith.refl tag) ih
  | flipped _ hkind _ _ _ _ ih =>
    exact .cons ⟨rfl, rfl, rfl, rfl, rfl, fun _ => ⟨hkind, rfl⟩⟩ ih

/-- The emission of a tree, with the policy for modules or without it. -/
def emissionWith (policy : Bool) (settings : Settings) (t : Tree) (source path : String)
    (offsets : Offsets) : Emission :=
  emissionOf { settings with requirePolicy := policy } t source path offsets

section

variable (settings : Settings) (text path : String) (offsets : Offsets)

/-- The policy makes no name fail, and lets none pass that fails without it. -/
theorem faultOf?_emissionWith (t : Tree) (o : Occurrence) :
    (emissionWith true settings t text path offsets).faultOf? o
      = (emissionWith false settings t text path offsets).faultOf? o :=
  congrArg (_ <|> ·) (selector_fault?_classifierWith text.toList t o)

/-- Both reports are ended by the same, if by anything. -/
theorem fault?_emissionWith (t : Tree) :
    (emissionWith true settings t text path offsets).fault?
      = (emissionWith false settings t text path offsets).fault? :=
  congrArg t.identifiers.findSome? (funext (faultOf?_emissionWith settings text path offsets t))

variable (ls : Array (List Char))

/-- **Diagnostics.**  The policy changes none, because it starts from definitions alone. -/
theorem diagnostic?_emissionWith (t : Tree) (o : Occurrence) :
    (emissionWith true settings t text path offsets).diagnostic? ls o
      = (emissionWith false settings t text path offsets).diagnostic? ls o := by
  unfold Emission.diagnostic?
  by_cases h : Flips t o
  · obtain ⟨hoff, hon⟩ := h.verdict_eq
    rw [if_neg, if_neg]
    · show ¬(classifierWith false t).verdict o = .unknown
      rw [hoff]
      decide
    · show ¬(classifierWith true t).verdict o = .unknown
      rw [hon]
      decide
  · show (if (classifierWith true t).verdict o = .unknown then _ else _) = _
    rw [verdict_of_not_flips h]
    rfl

/-- The tags of scanned names are the same. -/
theorem selectorTags_emissionWith (t : Tree) (o : Occurrence) :
    (emissionWith true settings t text path offsets).selectorTags ls o
      = (emissionWith false settings t text path offsets).selectorTags ls o :=
  congrArg (List.map _) (references_classifierWith text.toList t o)

/-- A flipped name has its own tag and no other. -/
theorem Flips.tagsOf_eq (h : Flips t o) :
    ∃ tag : Tag, tag.kind = .definition ∧ tag.name = Emission.shownName o ∧
      tag.line = o.position.line + offsets.line ∧
      tag.column = o.position.column + offsets.column ∧
      (emissionWith false settings t text path offsets).tagsOf ls o = [tag] ∧
      (emissionWith true settings t text path offsets).tagsOf ls o
        = [{ tag with kind := .reference }] := by
  obtain ⟨hoff, hon⟩ := h.verdict_eq
  -- A declared name is never the argument of a lookup, so its block is its own tag alone.
  have hselectors : ∀ policy,
      (emissionWith policy settings t text path offsets).selectorTags ls o = [] := by
    intro policy
    have hnone : Selector.references (classifierWith policy t) text.toList o = [] := by
      unfold Selector.references
      rw [h.argument?_eq_none]
      cases Selector.lookupOf? o <;> rfl
    exact congrArg (List.map _) hnone
  refine ⟨(emissionWith false settings t text path offsets).tagAt ls .definition
    (Emission.shownName o) o.position, rfl, rfl, rfl, rfl, ?_, ?_⟩
  · rw [Emission.tagsOf, hselectors]
    show ((TagKind.ofVerdict? ((classifierWith false t).verdict o)).map _).toList ++ [] = _
    rw [hoff]
    rfl
  · rw [Emission.tagsOf, hselectors]
    show ((TagKind.ofVerdict? ((classifierWith true t).verdict o)).map _).toList ++ [] = _
    rw [hon]
    rfl

/-- A name that is not flipped has the same tags. -/
theorem tagsOf_of_not_flips (h : ¬Flips t o) :
    (emissionWith true settings t text path offsets).tagsOf ls o
      = (emissionWith false settings t text path offsets).tagsOf ls o := by
  rw [Emission.tagsOf, Emission.tagsOf, selectorTags_emissionWith]
  show ((TagKind.ofVerdict? ((classifierWith true t).verdict o)).map _).toList ++ _ = _
  rw [verdict_of_not_flips h]
  rfl

/-- **Tags.**  Name by name, the tags without the policy and with it are in step. -/
theorem inStep_flatMap (t : Tree) (names : List Occurrence) :
    InStep t offsets names
      (names.flatMap ((emissionWith false settings t text path offsets).tagsOf ls))
      (names.flatMap ((emissionWith true settings t text path offsets).tagsOf ls)) := by
  induction names with
  | nil => exact .nil
  | cons o names ih =>
    rw [List.flatMap_cons, List.flatMap_cons]
    by_cases h : Flips t o
    · obtain ⟨tag, hkind, hname, hline, hcolumn, hoff, hon⟩ :=
        h.tagsOf_eq settings text path offsets ls
      rw [hoff, hon]
      exact .flipped h hkind hname hline hcolumn ih
    · rw [tagsOf_of_not_flips settings text path offsets ls h]
      exact .same _ h ih

/-- The same names are reported with the policy and without it. -/
theorem reported_emissionWith (t : Tree) :
    (emissionWith true settings t text path offsets).reported
      = (emissionWith false settings t text path offsets).reported :=
  congrArg (fun fault? : Occurrence → Option IllTyped =>
      t.identifiers.takeWhile fun o => (fault? o).isNone)
    (funext (faultOf?_emissionWith settings text path offsets t))

/-- The diagnostics of both reports are the same. -/
theorem diagnostics_emissionWith (t : Tree) :
    (emissionWith true settings t text path offsets).report.diagnostics
      = (emissionWith false settings t text path offsets).report.diagnostics := by
  show (emissionWith true settings t text path offsets).reported.filterMap _ = _
  rw [reported_emissionWith]
  exact List.filterMap_congr fun o _ => diagnostic?_emissionWith settings text path offsets _ t o

/-- **Events.**  The policy changes none: there are as many tags with it as without it, and no
    event tells their kinds. -/
theorem events_reportOn_requirePolicy (parsed : Parsed) :
    (reportOn { settings with requirePolicy := true } parsed text path offsets).2
      = (reportOn { settings with requirePolicy := false } parsed text path offsets).2 := by
  set t := Tree.ofRoot parsed.program with ht
  have hfaults := fault?_emissionWith settings text path offsets t
  have hdiagnostics := diagnostics_emissionWith settings text path offsets t
  -- The closing event counts the tags, and tags in step are equally many.
  have htags : (emissionWith true settings t text path offsets).report.tags.length
      = (emissionWith false settings t text path offsets).report.tags.length := by
    show ((emissionWith true settings t text path offsets).reported.flatMap _).length = _
    rw [reported_emissionWith]
    exact (inStep_flatMap settings text path offsets _ t _).forall₂.length_eq.symm
  unfold emissionWith at hfaults hdiagnostics htags
  simp only [snd_reportOn, ← ht, hfaults, hdiagnostics, taggedEvent, htags]

end

/-! ### Runs -/

/-- **The policy for modules only flips kinds.**  Over every source, path, offsets, parser and
    sink, a run with the policy and a run without it are refused for the same reason, or both
    return a report on the same program.  The reports have the same diagnostics and warnings, and
    their tags agree position by position in all but the kinds, where a definition may have become
    a reference.  This happens exactly to the names that the rules call definitions and that name
    their own module: each has one tag, which is flipped, and all other names have the same tags
    in both reports. -/
theorem tagSource_requirePolicy (parser : Parser) (settings : Settings) (source : String)
    (path : Option String) (offsets : Offsets) (sink : Log.Sink) :
    let run (policy : Bool) :=
      tagSource parser { settings with requirePolicy := policy } source path offsets sink
    (∃ e, (run false).result = .error e ∧ (run true).result = .error e ∧
      ∀ policy, Refused parser { settings with requirePolicy := policy } source path offsets sink
        e) ∨
    ∃ parsed off on, (parse parser settings source (path.getD "") sink).result = .ok parsed ∧
      (run false).result = .ok off ∧ (run true).result = .ok on ∧
      on.path = off.path ∧ on.diagnostics = off.diagnostics ∧ on.warnings = off.warnings ∧
      List.Forall₂ Tag.AgreesWith off.tags on.tags ∧
      InStep (Tree.ofRoot parsed.program) offsets (Tree.ofRoot parsed.program).identifiers
        off.tags on.tags := by
  intro run
  -- it is enough that both runs are refused alike: the reason follows for each of them
  suffices (∃ e, (run false).result = .error e ∧ (run true).result = .error e) ∨ _ by
    refine this.imp_left ?_
    rintro ⟨e, hoff, hon⟩
    refine ⟨e, hoff, hon, fun policy => ?_⟩
    cases policy with
    | false => exact refused_of_result hoff
    | true => exact refused_of_result hon
  have hparse : ∀ policy, parse parser { settings with requirePolicy := policy } source
      (path.getD "") sink = parse parser settings source (path.getD "") sink := fun _ => rfl
  simp only [run, result_tagSource, hparse]
  split_ifs
  · exact .inl ⟨_, rfl, rfl⟩
  · exact .inl ⟨_, rfl, rfl⟩
  cases hresult : (parse parser settings source (path.getD "") sink).result with
  | error e => exact .inl ⟨_, rfl, rfl⟩
  | ok parsed =>
    have hevents := events_reportOn_requirePolicy settings source (path.getD "") offsets parsed
    have hfaults := fault?_emissionWith settings source (path.getD "") offsets
      (Tree.ofRoot parsed.program)
    have hstep := inStep_flatMap settings source (path.getD "") offsets
      (Text.lines source.toList).toArray (Tree.ofRoot parsed.program)
      (Tree.ofRoot parsed.program).identifiers
    have hdiagnostics := diagnostics_emissionWith settings source (path.getD "") offsets
      (Tree.ofRoot parsed.program)
    unfold emissionWith at hfaults hstep hdiagnostics
    simp only [hevents]
    split_ifs
    · simp only [fst_reportOn, hfaults]
      cases hfault : (emissionOf { settings with requirePolicy := false }
          (Tree.ofRoot parsed.program) source (path.getD "") offsets).fault? with
      | some fault => exact .inl ⟨_, rfl, rfl⟩
      | none =>
        rw [hfault] at hfaults
        refine .inr ⟨parsed, _, _, rfl, rfl, rfl, rfl, hdiagnostics, rfl, ?_⟩
        show List.Forall₂ _ (Report.tags _) (Report.tags _) ∧ InStep _ _ _ (Report.tags _) _
        rw [Emission.tags_eq_of_fault? hfault, Emission.tags_eq_of_fault? hfaults]
        exact ⟨hstep.forall₂, hstep⟩
    · exact .inl ⟨_, rfl, rfl⟩

/-- `x = require('./x')`, as the declarator of a variable. -/
def requireDeclarator : Node :=
  { type := some "VariableDeclarator", identity := 1
    attributes :=
      [("id", .node (Tree.sampleName 2 "x" 4)),
       ("init", .node
         { type := some "CallExpression", identity := 3
           attributes :=
             [("callee", .node (Tree.sampleName 4 "require" 8)),
              ("arguments", .list 5 [.node
                { type := some "Literal", identity := 6
                  attributes := [("value", .str "./x")] }])] })] }

/-- The declaration of a variable that holds its own module. -/
def ownModuleDeclaration : Node :=
  { type := some "VariableDeclaration", identity := 7
    attributes := [("declarations", .list 8 [.node requireDeclarator])] }

/-- The program of the declaration. -/
def ownModuleProgram : Node :=
  { type := some "Program", attributes := [("body", .list 9 [.node ownModuleDeclaration])] }

/-- The name of the variable. -/
def ownModuleName : Occurrence where
  index := 4
  node := Tree.sampleName 2 "x" 4
  link := some ⟨2, "id", none⟩
  children := []

/-- The name of the function that loads the module. -/
def loaderUse : Occurrence where
  index := 6
  node := Tree.sampleName 4 "require" 8
  link := some ⟨3, "callee", none⟩
  children := []

/-- The names of the program: the loader is called where its own module is declared. -/
theorem identifiers_ownModuleProgram :
    (Tree.ofRoot ownModuleProgram).identifiers = [loaderUse, ownModuleName] := by
  cbv

/-- The variable is flipped … -/
theorem flips_ownModuleName : Flips (Tree.ofRoot ownModuleProgram) ownModuleName := by
  have hparent : (Tree.ofRoot ownModuleProgram).parent? ownModuleName
      = some ⟨2, requireDeclarator, some ⟨1, "declarations", some 0⟩, [3, 4]⟩ := by cbv
  have hdeclaration : (Tree.ofRoot ownModuleProgram).parent?
      ⟨2, requireDeclarator, some ⟨1, "declarations", some 0⟩, [3, 4]⟩
      = some ⟨1, ownModuleDeclaration, some ⟨0, "body", some 0⟩, [2]⟩ := by cbv
  have hplace : placeOf? (Tree.ofRoot ownModuleProgram)
      ⟨1, ownModuleDeclaration, some ⟨0, "body", some 0⟩, [2]⟩ = some ⟨"Program", "body"⟩ := by cbv
  have hrule : (classifierWith false (Tree.ofRoot ownModuleProgram)).ruleOf? ownModuleName
      = some .declaredName := by cbv
  refine ⟨?_, Policy.bindsOwnModule_iff.mp (by cbv)⟩
  -- the declaration is no part of a loop, so that it defines its names
  have htree : (classifierWith false (Tree.ofRoot ownModuleProgram)).tree =
      Tree.ofRoot ownModuleProgram := rfl
  rw [Classifier.baseVerdict, hrule, htree, hparent]
  simp only [Rule.apply, hdeclaration, Option.any_some, Rule.bindsLoop, hplace]
  decide

/-- … and the function is not. -/
theorem not_flips_loaderUse : ¬Flips (Tree.ofRoot ownModuleProgram) loaderUse := by
  rintro ⟨hbase, -⟩
  have hreference : (classifierWith false (Tree.ofRoot ownModuleProgram)).baseVerdict loaderUse
      = .reference := by cbv
  rw [hreference] at hbase
  cases hbase

/-- Accepts every source as the program. -/
def ownModuleParser : Parser := fun _ _ _ => .ok ownModuleProgram

/-- The tag of the declared name is flipped by the policy, and that of the loader stays. -/
theorem tagSource_requirePolicy_ownModule :
    let run (policy : Bool) :=
      tagSource ownModuleParser { requirePolicy := policy } "var x = require('./x')"
        (some "x.js") {} .silent
    ∃ off on others tag, (run false).result = .ok off ∧ (run true).result = .ok on ∧
      tag.name = .str "x" ∧ tag.kind = .definition ∧
      off.tags = others ++ [tag] ∧ on.tags = others ++ [{ tag with kind := .reference }] := by
  have hparse : ∀ policy, (parse ownModuleParser { requirePolicy := policy }
      "var x = require('./x')" "x.js" .silent).result = .ok ⟨ownModuleProgram, .script, []⟩ :=
    fun _ => rfl
  rcases tagSource_requirePolicy ownModuleParser {} "var x = require('./x')" (some "x.js") {}
    .silent with ⟨e, -, -, hrefused⟩ | ⟨parsed, off, on, hparsed, hoff, hon, -, -, -, -, hstep⟩
  · -- there is a source under a path, it parses, nothing is written, and all names are texts
    cases hrefused false with
    | emptySource h => exact absurd h (by decide)
    | emptyPath _ h => exact absurd h (by decide)
    | unparsed _ _ h =>
      rw [show (some "x.js").getD "" = "x.js" from rfl, hparse] at h
      cases h
    | unwritten _ _ _ _ hadmits => cases hadmits
    | illTyped _ _ h hfault =>
      rw [show (some "x.js").getD "" = "x.js" from rfl, hparse] at h
      cases h
      have hnone : (emissionOf { requirePolicy := false } (Tree.ofRoot ownModuleProgram)
          "var x = require('./x')" "x.js" {}).fault? = none := by cbv
      rw [show (some "x.js").getD "" = "x.js" from rfl, hnone] at hfault
      cases hfault
  · rw [show (some "x.js").getD "" = "x.js" from rfl] at hparsed
    cases (hparse true).symm.trans hparsed
    rw [identifiers_ownModuleProgram] at hstep
    generalize hofftags : off.tags = offTags at hstep
    generalize hontags : on.tags = onTags at hstep
    cases hstep with
    | flipped hflips => exact absurd hflips not_flips_loaderUse
    | same others _ hrest =>
      cases hrest with
      | same _ hflips => exact absurd flips_ownModuleName hflips
      | @flipped _ _ tag _ _ _ hkind hname _ _ hend =>
        cases hend
        exact ⟨off, on, others, tag, hoff, hon, hname, hkind, hofftags, hontags⟩

end SymbolTags
