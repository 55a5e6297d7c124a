import Mathlib.Data.List.Perm.Basic
import SymbolTags.Proofs.Children
import SymbolTags.Proofs.Textual
import SymbolTags.Syntax.IllTyped
import SymbolTags.Syntax.Value

namespace SymbolTags.Syntax

/-!
# Moved code — trees that differ in places and in declaration order

When code is moved, its nodes get other locations, and a parser may declare their attributes in
another order.  What is left is the same tree:

* `Matched` — lists that answer to each other, item by item, after one of them is reordered;
* `Node.Moved` — the nodes have one type, and their attributes answer to each other; locations,
  ranges, comments and the like are free, and objects answer to objects;
* `Value.same_of_moved` — moved values compare alike, as long as objects are told apart on both
  sides;
* `Node.Moved.attr` and `Node.Moved.children` — with distinct names, attributes are moved values
  and the children answer to each other.
-/

/-! ### Matched lists -/

/-- After a reordering of the first list, the lists answer to each other item by item. -/
def Matched {α β : Type} (r : α → β → Prop) (xs : List α) (ys : List β) : Prop :=
  ∃ zs : List α, zs.Perm xs ∧ List.Forall₂ r zs ys

namespace Matched

variable {α β γ δ : Type} {r : α → β → Prop} {s : γ → δ → Prop} {xs xs' : List α}
  {ys ys' : List β}

/-- A reordering of the second list can be made up for in the first. -/
theorem of_forall₂_perm (h : List.Forall₂ r xs ys) (hys : ys.Perm ys') : Matched r xs ys' := by
  have hcomp : Relation.Comp (List.Forall₂ r) List.Perm xs ys' := ⟨ys, h, hys⟩
  rw [List.forall₂_comp_perm_eq_perm_comp_forall₂] at hcomp
  obtain ⟨zs, hzs, hr⟩ := hcomp
  exact ⟨zs, hzs.symm, hr⟩

/-- The order of neither list matters. -/
theorem perm (h : Matched r xs ys) (hxs : xs.Perm xs') (hys : ys.Perm ys') :
    Matched r xs' ys' := by
  obtain ⟨zs, hperm, hzs⟩ := h
  obtain ⟨ws, hws, hr⟩ := of_forall₂_perm hzs hys
  exact ⟨ws, hws.trans (hperm.trans hxs), hr⟩

/-- Conditions that agree leave matched lists. -/
theorem filter (h : Matched r xs ys) {p : α → Bool} {q : β → Bool}
    (hpq : ∀ {x : α} {y : β}, r x y → p x = q y) :
    Matched r (xs.filter p) (ys.filter q) := by
  obtain ⟨zs, hperm, hzs⟩ := h
  refine ⟨zs.filter p, hperm.filter p, List.rel_filter ?_ hzs⟩
  intro x y hxy
  show p x = true ↔ q y = true
  rw [hpq hxy]

/-- Lists that answer to each other item by item may be put in for the items. -/
theorem flatMap (h : Matched r xs ys) {f : α → List γ} {g : β → List δ}
    (hfg : ∀ {x : α} {y : β}, r x y → List.Forall₂ s (f x) (g y)) :
    Matched s (xs.flatMap f) (ys.flatMap g) := by
  obtain ⟨zs, hperm, hzs⟩ := h
  exact ⟨zs.flatMap f, hperm.flatMap_right f, List.rel_flatMap hzs fun _ _ => hfg⟩

/-- The same for optional items. -/
theorem filterMap (h : Matched r xs ys) {f : α → Option γ} {g : β → Option δ}
    (hfg : ∀ {x : α} {y : β}, r x y → Option.Rel s (f x) (g y)) :
    Matched s (xs.filterMap f) (ys.filterMap g) := by
  obtain ⟨zs, hperm, hzs⟩ := h
  exact ⟨zs.filterMap f, hperm.filterMap f, List.rel_filterMap (fun _ _ hxy => hfg hxy) hzs⟩

/-- Everything in the second list answers to something in the first. -/
theorem exists_of_mem_right (h : Matched r xs ys) {y : β} (hy : y ∈ ys) : ∃ x ∈ xs, r x y := by
  obtain ⟨zs, hperm, hzs⟩ := h
  suffices hmem : ∃ x ∈ zs, r x y by
    obtain ⟨x, hx, hr⟩ := hmem
    exact ⟨x, hperm.mem_iff.mp hx, hr⟩
  clear hperm
  induction hzs with
  | nil => simp at hy
  | cons hr _ ih =>
    rcases List.mem_cons.mp hy with rfl | hy
    · exact ⟨_, by simp, hr⟩
    · obtain ⟨x, hx, hxy⟩ := ih hy
      exact ⟨x, by simp [hx], hxy⟩

/-- Matching goes both ways. -/
theorem flip (h : Matched r xs ys) : Matched (flip r) ys xs := by
  obtain ⟨zs, hperm, hzs⟩ := h
  exact of_forall₂_perm hzs.flip hperm

/-- Everything in the first list answers to something in the second. -/
theorem exists_of_mem (h : Matched r xs ys) {x : α} (hx : x ∈ xs) : ∃ y ∈ ys, r x y :=
  h.flip.exists_of_mem_right hx

/-- What holds for all items on one side holds for all on the other. -/
theorem forall_iff (h : Matched r xs ys) {p : α → Prop} {q : β → Prop}
    (hpq : ∀ {x : α} {y : β}, r x y → (p x ↔ q y)) : (∀ x ∈ xs, p x) ↔ ∀ y ∈ ys, q y := by
  constructor
  · intro hxs y hy
    obtain ⟨x, hx, hr⟩ := h.exists_of_mem_right hy
    exact (hpq hr).mp (hxs x hx)
  · intro hys x hx
    obtain ⟨y, hy, hr⟩ := h.exists_of_mem hx
    exact (hpq hr).mpr (hys y hy)

/-- Lists that answer to matched ones are matched. -/
theorem of_forall₂ {b : γ → α → Prop} {b' : δ → β → Prop} {us : List γ} {vs : List δ}
    (h : Matched r xs ys) (hus : List.Forall₂ b us xs) (hvs : List.Forall₂ b' vs ys)
    (hs : ∀ {u : γ} {v : δ} {x : α} {y : β}, b u x → b' v y → r x y → s u v) :
    Matched s us vs := by
  obtain ⟨zs, hperm, hzs⟩ := h
  obtain ⟨ws, hws, hb⟩ := of_forall₂_perm hus hperm.symm
  refine ⟨ws, hws, ?_⟩
  clear hus hperm hws
  -- now the three lists can be taken apart together
  induction hzs generalizing ws vs with
  | nil =>
    rw [List.forall₂_nil_right_iff] at hb hvs
    rw [hb, hvs]
    exact .nil
  | cons hr _ ih =>
    obtain ⟨w, ws, hw, hws, rfl⟩ := List.forall₂_cons_right_iff.mp hb
    obtain ⟨v, vs, hv, hrest, rfl⟩ := List.forall₂_cons_right_iff.mp hvs
    exact .cons (hs hw hv hr) (ih hrest ws hws)

end Matched

/-! ### Moved trees -/

mutual

/-- Values that are the same but for the places of the nodes in them; `ι` says which objects
    answer to each other. -/
inductive Value.Moved (ι : Nat → Nat → Prop) : Value → Value → Prop
  | null : Value.Moved ι .null .null
  | bool (b : Bool) : Value.Moved ι (.bool b) (.bool b)
  | int (n : Int) : Value.Moved ι (.int n) (.int n)
  | str (s : String) : Value.Moved ι (.str s) (.str s)
  | list {i i' : Nat} {items items' : List Value} :
      List.Forall₂ (Value.Moved ι) items items' → Value.Moved ι (.list i items) (.list i' items')
  | node {n n' : Node} : Node.Moved ι n n' → Value.Moved ι (.node n) (.node n')
  | object {i i' : Nat} {entries entries' : List (String × Value)} : ι i i' →
      List.Forall₂ (EntryMoved ι) entries entries' →
      Value.Moved ι (.object i entries) (.object i' entries')
  | dictionary {i i' : Nat} {entries entries' : List (String × Value)} :
      List.Forall₂ (EntryMoved ι) entries entries' →
      Value.Moved ι (.dictionary i entries) (.dictionary i' entries')
  | record {i i' : Nat} {entries entries' : List (String × Value)} :
      List.Forall₂ (EntryMoved ι) entries entries' →
      Value.Moved ι (.record i entries) (.record i' entries')
  | fault {i i' : Nat} (f : Fault) : ι i i' → Value.Moved ι (.fault i f) (.fault i' f)

/-- Entries of one name with moved values. -/
inductive EntryMoved (ι : Nat → Nat → Prop) : String × Value → String × Value → Prop
  | mk (name : String) {v v' : Value} : Value.Moved ι v v' → EntryMoved ι (name, v) (name, v')

/-- Attributes of one name: structural ones are free, others have moved values. -/
inductive AttributeMoved (ι : Nat → Nat → Prop) : String × Value → String × Value → Prop
  | structural {name : String} (v v' : Value) : name ∈ structuralNames →
      AttributeMoved ι (name, v) (name, v')
  | held (name : String) {v v' : Value} : Value.Moved ι v v' →
      AttributeMoved ι (name, v) (name, v')

/-- Nodes that are equal without locations and ranges, after a reordering of the attributes of
    each node. -/
inductive Node.Moved (ι : Nat → Nat → Prop) : Node → Node → Prop
  | mk {type : Option String} {i i' : Nat} {loc loc' : Option (Option Position)}
      {range range' : Option (List Int)}
      {attributes reordered attributes' : List (String × Value)} :
      ι i i' → reordered.Perm attributes →
      List.Forall₂ (AttributeMoved ι) reordered attributes' →
      Node.Moved ι ⟨type, i, loc, range, attributes⟩ ⟨type, i', loc', range', attributes'⟩

end

section

variable {ι : Nat → Nat → Prop}

/-! ### Values -/

namespace Value

/-- Moved values are empty together. -/
theorem Moved.isTruthy_eq {v v' : Value} (h : v.Moved ι v') : v.isTruthy = v'.isTruthy := by
  cases h with
  | list hitems => cases hitems <;> rfl
  | dictionary hentries => cases hentries <;> rfl
  | _ => rfl

/-- They are the same text. -/
theorem Moved.str?_eq {v v' : Value} (h : v.Moved ι v') : v.str? = v'.str? := by
  cases h <;> rfl

/-- They are equal to the same texts. -/
theorem Moved.isText_eq {v v' : Value} (h : v.Moved ι v') (s : String) :
    v.isText s = v'.isText s := by
  rw [isText, isText, h.str?_eq]

/-- They may be looked up, or may not, together. -/
theorem Moved.keyFault?_eq {v v' : Value} (h : v.Moved ι v') : v.keyFault? = v'.keyFault? := by
  cases h <;> rfl

/-- Texts do not change when they are moved. -/
theorem Moved.eq_of_isText {v v' : Value} (h : v.Moved ι v') (htext : v.IsText) : v' = v := by
  cases h with
  | null => rfl
  | str s => rfl
  | _ => exact htext.elim

end Value

/-- Entries of a name answer to each other. -/
theorem get?_rel_of_forall₂ {entries entries' : List (String × Value)}
    (h : List.Forall₂ (EntryMoved ι) entries entries') (name : String) :
    Option.Rel (Value.Moved ι) (Fields.get? entries name) (Fields.get? entries' name) := by
  induction h with
  | nil => exact .none
  | cons hentry _ ih =>
    obtain ⟨k, hv⟩ := hentry
    simp only [Fields.get?]
    split_ifs
    · exact .some hv
    · exact ih

/-- Objects that answer to each other one to one are equal on both sides or on neither. -/
theorem beq_eq_of_biUnique (hι : Relator.BiUnique ι) {i i' j j' : Nat} (hi : ι i i')
    (hj : ι j j') : (i == j) = (i' == j') := by
  by_cases h : i = j
  · subst h
    rw [hι.2 hi hj, beq_self_eq_true, beq_self_eq_true]
  · have h' : i' ≠ j' := by
      rintro rfl
      exact h (hι.1 hi hj)
    rw [beq_eq_false_iff_ne.mpr h, beq_eq_false_iff_ne.mpr h']

mutual

/-- **Comparison.**  Moved values compare alike. -/
theorem Value.same_of_moved (hι : Relator.BiUnique ι) (v : Value) {v' w w' : Value}
    (hv : v.Moved ι v') (hw : w.Moved ι w') : v.same w = v'.same w' := by
  match v with
  -- objects are compared by identity, all others by what they hold
  | .null | .bool _ | .int _ | .str _ => cases hv; cases hw <;> rfl
  | .list i items =>
    cases hv with
    | list hitems =>
      cases hw with
      | list hitems' => exact sameItems_of_moved hι items hitems hitems'
      | _ => rfl
  | .node n =>
    cases hv with
    | node hn =>
      cases hw with
      | node hm =>
        obtain ⟨hi⟩ := hn
        obtain ⟨hj⟩ := hm
        exact beq_eq_of_biUnique hι hi hj
      | _ => rfl
  | .object i entries =>
    cases hv with
    | object hi _ =>
      cases hw with
      | object hj _ => exact beq_eq_of_biUnique hι hi hj
      | _ => rfl
  | .dictionary i entries =>
    cases hv with
    | dictionary hentries =>
      cases hw with
      | dictionary hentries' =>
        simp only [Value.same, hentries.length_eq, hentries'.length_eq,
          sameEntries_of_moved hι entries hentries hentries']
      | _ => rfl
  | .record i entries =>
    cases hv with
    | record hentries =>
      cases hw with
      | record hentries' =>
        simp only [Value.same, hentries.length_eq, hentries'.length_eq,
          sameEntries_of_moved hι entries hentries hentries']
      | _ => rfl
  | .fault i f =>
    cases hv with
    | fault _ hi =>
      cases hw with
      | fault _ hj => exact beq_eq_of_biUnique hι hi hj
      | _ => rfl

/-- Lists compare alike, item by item. -/
theorem sameItems_of_moved (hι : Relator.BiUnique ι) (vs : List Value) {vs' ws ws' : List Value}
    (hvs : List.Forall₂ (Value.Moved ι) vs vs') (hws : List.Forall₂ (Value.Moved ι) ws ws') :
    Value.sameItems vs ws = Value.sameItems vs' ws' := by
  match vs with
  | [] =>
    cases hvs
    cases hws <;> rfl
  | v :: rest =>
    cases hvs with
    | cons hv hrest =>
      cases hws with
      | nil => rfl
      | cons hw hws =>
        rw [Value.sameItems, Value.sameItems, Value.same_of_moved hι v hv hw,
          sameItems_of_moved hι rest hrest hws]

/-- Named values compare alike: each name of one side is looked up on the other. -/
theorem sameEntries_of_moved (hι : Relator.BiUnique ι) (xs : List (String × Value))
    {xs' ys ys' : List (String × Value)} (hxs : List.Forall₂ (EntryMoved ι) xs xs')
    (hys : List.Forall₂ (EntryMoved ι) ys ys') :
    Value.sameEntries xs ys = Value.sameEntries xs' ys' := by
  match xs with
  | [] =>
    cases hxs
    rfl
  | (name, v) :: rest =>
    cases hxs with
    | cons hentry hrest =>
      obtain ⟨_, hv⟩ := hentry
      rw [Value.sameEntries, Value.sameEntries, sameEntries_of_moved hι rest hrest hys]
      have hget := get?_rel_of_forall₂ hys name
      generalize Fields.get? ys name = x, Fields.get? ys' name = x' at hget ⊢
      cases hget with
      | none => rfl
      | some hw => simp only [Value.same_of_moved hι v hv hw]

end

/-! ### Attributes -/

/-- With distinct names, the declaration order does not matter for reading. -/
theorem get?_eq_of_perm {attributes reordered : List (String × Value)}
    (h : reordered.Perm attributes) (hnodup : (reordered.map (·.1)).Nodup) (name : String) :
    Fields.get? reordered name = Fields.get? attributes name := by
  induction h with
  | nil => rfl
  | cons p _ ih =>
    rw [List.map_cons, List.nodup_cons] at hnodup
    simp only [Fields.get?, ih hnodup.2]
  | swap p q rest =>
    -- two neighbours of different names, of which at most one is asked for
    have hne : q.1 ≠ p.1 := by
      rw [List.map_cons, List.map_cons, List.nodup_cons] at hnodup
      exact fun heq => hnodup.1 (by simp [heq])
    simp only [Fields.get?]
    split_ifs with hq hp
    · exact absurd (hq.trans hp.symm) hne
    · rfl
    · rfl
    · rfl
  | trans h _ ih ih' => rw [ih hnodup, ih' ((h.map _).nodup_iff.mp hnodup)]

/-- Attributes that answer to each other have the same names. -/
theorem map_fst_eq_of_forall₂ {attributes attributes' : List (String × Value)}
    (h : List.Forall₂ (AttributeMoved ι) attributes attributes') :
    attributes.map (·.1) = attributes'.map (·.1) := by
  induction h with
  | nil => rfl
  | cons hattribute _ ih =>
    rw [List.map_cons, List.map_cons, ih]
    cases hattribute <;> rfl

/-- What is held under a name answers to each other, structural names apart. -/
theorem get?_attribute_rel {attributes attributes' : List (String × Value)}
    (h : List.Forall₂ (AttributeMoved ι) attributes attributes') {name : String}
    (hname : name ∉ structuralNames) :
    Option.Rel (Value.Moved ι) (Fields.get? attributes name) (Fields.get? attributes' name) := by
  induction h with
  | nil => exact .none
  | cons hattribute _ ih =>
    cases hattribute with
    | structural v v' hstructural =>
      -- a structural attribute is not the one that is asked for
      have hne : _ ≠ name := fun heq => hname (heq ▸ hstructural)
      simpa only [Fields.get?, if_neg hne] using ih
    | held k hv =>
      simp only [Fields.get?]
      split_ifs
      · exact .some hv
      · exact ih

/-! ### Nodes -/

/-- Entries that hang at one place and hold moved nodes. -/
def Entry.Moved (ι : Nat → Nat → Prop) (e e' : Entry) : Prop :=
  e.prop = e'.prop ∧ e.position = e'.position ∧ e.node.Moved ι e'.node

/-- Lists hold entries that answer to each other at the same positions. -/
theorem forall₂_listEntries (prop : String) (first : Nat) {items items' : List Value}
    (h : List.Forall₂ (Value.Moved ι) items items') :
    List.Forall₂ (Entry.Moved ι) (listEntries prop first items)
      (listEntries prop first items') := by
  induction h generalizing first with
  | nil => exact .nil
  | cons hv _ ih =>
    cases hv with
    | node hn => exact .cons ⟨rfl, rfl, hn⟩ (ih (first + 1))
    | _ => exact ih (first + 1)

/-- Attributes that answer to each other hold entries that do. -/
theorem forall₂_attributeEntries {p p' : String × Value} (h : AttributeMoved ι p p') :
    List.Forall₂ (Entry.Moved ι) (attributeEntries p.1 p.2) (attributeEntries p'.1 p'.2) := by
  unfold attributeEntries
  cases h with
  | structural v v' hname =>
    simp only [if_pos hname]
    exact .nil
  | held name hv =>
    split_ifs
    · exact .nil
    · cases hv with
      | node hn => exact .cons ⟨rfl, rfl, hn⟩ .nil
      | list hitems => exact forall₂_listEntries name 0 hitems
      | _ => exact .nil

namespace Node.Moved

variable {n n' : Node}

/-- The kind does not move. -/
theorem kind_eq (h : n.Moved ι n') : n.kind = n'.kind := by
  cases h
  rfl

/-- The attributes answer to each other. -/
theorem attributes (h : n.Moved ι n') :
    Matched (AttributeMoved ι) n.attributes n'.attributes := by
  obtain ⟨-, hperm, hattributes⟩ := h
  exact ⟨_, hperm, hattributes⟩

/-- Distinct names stay distinct in another order. -/
theorem distinct (h : n.Moved ι n') (hd : n.Distinct) : n'.Distinct := by
  obtain ⟨reordered, hperm, hattributes⟩ := h.attributes
  have hnames : (reordered.map (·.1)).Nodup := (hperm.map _).nodup_iff.mpr hd
  rwa [map_fst_eq_of_forall₂ hattributes] at hnames

/-- With distinct names, what attributes hold answers to each other. -/
theorem get?_rel (h : n.Moved ι n') (hd : n.Distinct) {name : String}
    (hname : name ∉ structuralNames) :
    Option.Rel (Value.Moved ι) (Fields.get? n.attributes name)
      (Fields.get? n'.attributes name) := by
  obtain ⟨reordered, hperm, hattributes⟩ := h.attributes
  have hnames : (reordered.map (·.1)).Nodup := (hperm.map _).nodup_iff.mpr hd
  rw [← get?_eq_of_perm hperm hnames]
  exact get?_attribute_rel hattributes hname

/-- With distinct names, attributes are moved values. -/
theorem attr (h : n.Moved ι n') (hd : n.Distinct) {name : String}
    (hname : name ∉ structuralNames) (hability : name ∉ abilities) :
    (n.attr name).Moved ι (n'.attr name) := by
  have hne : name ≠ "type" ∧ name ≠ "loc" ∧ name ≠ "range" := by
    refine ⟨?_, ?_, ?_⟩ <;> (rintro rfl; exact hname (by decide))
  unfold Node.attr
  rw [if_neg hne.1, if_neg hne.2.1, if_neg hne.2.2, if_neg hne.1, if_neg hne.2.1, if_neg hne.2.2,
    if_neg hability]
  have hget := h.get?_rel hd hname
  generalize Fields.get? n.attributes name = x, Fields.get? n'.attributes name = x' at hget ⊢
  -- a name that is not held reads the same on every node
  cases hget with
  | none =>
    show Value.Moved ι (ite _ _ _) (ite _ _ _)
    split_ifs
    · exact .str _
    · exact .null
  | some hv => exact hv

/-- Names of moved identifiers are moved values. -/
theorem name (h : n.Moved ι n') (hd : n.Distinct) : n.name.Moved ι n'.name := by
  rw [Node.name, Node.name, isIdentifier, isIdentifier, h.kind_eq]
  split_ifs
  · exact h.attr hd (by decide) (by decide)
  · exact .null

/-- **Children.**  The children of moved nodes answer to each other. -/
theorem children (h : n.Moved ι n') : Matched (Entry.Moved ι) n.children n'.children := by
  have hentries : Matched (Entry.Moved ι) n.entries n'.entries :=
    h.attributes.flatMap forall₂_attributeEntries
  exact hentries.perm n.children_perm.symm n'.children_perm.symm

end Node.Moved

end

end SymbolTags.Syntax
