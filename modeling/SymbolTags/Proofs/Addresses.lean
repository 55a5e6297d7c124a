import Mathlib.Data.List.Induction
import SymbolTags.Proofs.Statements
import SymbolTags.Proofs.Ways

namespace SymbolTags

open Syntax

/-!
# Addresses — the way to an occurrence can be followed in the source

The way to an occurrence is read upwards, from link to link of the arena.  There the children of a
node stand in source order, holes are left out, and one node object may have many occurrences.
Still the way is an address in the tree that the parser made, where nothing is known of an arena:

* `Spot.follow?` — steps down from a spot, each of which reads an attribute and, if it holds a
  list, the item at a position, holes counted;
* `Node.mem_entries_iff_nodeAt?` — the entries of a node are what one step finds;
* `Tree.follow?_way` — the way to an occurrence leads to its spot, and by `Tree.way_injective`
  nowhere else;
* `Tree.exists_of_follow?` — whatever steps lead to outside of structural attributes has an
  occurrence with these steps as its way;
* `Emission.TraceEnds` — how the trace of a diagnostic ends, by where its name hangs;
* `structuralPath_is_address` — all of it together.
-/

/-! ### Steps down -/

namespace Syntax

/-- The node that a value is, or that stands at a position of the list that it is. -/
def Value.nodeAt? : Value → Option Nat → Option Node
  | .node n, none => some n
  | .list _ items, some k => items[k]?.bind Value.node?
  | _, _ => none

theorem Value.node?_eq_some_iff {v : Value} {n : Node} : v.node? = some n ↔ v = .node n := by
  cases v <;> simp [node?]

/-- An entry lies where reading its position finds it. -/
theorem Entry.liesIn_iff (e : Entry) (v : Value) :
    e.LiesIn v ↔ v.nodeAt? e.position = some e.node := by
  constructor
  · rintro (⟨hposition, rfl⟩ | ⟨k, identity, items, hposition, rfl, hitem⟩)
    · rw [hposition, Value.nodeAt?]
    · rw [hposition, Value.nodeAt?, hitem]
      rfl
  · intro h
    unfold Value.nodeAt? at h
    split at h
    · rename_i hposition
      exact .inl ⟨hposition, by rw [Option.some.inj h]⟩
    · rename_i identity items k hposition
      obtain ⟨item, hitem, hnode⟩ := Option.bind_eq_some_iff.mp h
      rw [Value.node?_eq_some_iff.mp hnode] at hitem
      exact .inr ⟨k, identity, items, hposition, rfl, hitem⟩
    · cases h

namespace Node

variable {n : Node} {prop : String} {v : Value}

/-- An attribute outside of the structural ones is read off what the node holds, if it holds any
    of that name. -/
theorem attr_eq_elim (n : Node) (hprop : prop ∉ structuralNames) :
    n.attr prop = (Fields.get? n.attributes prop).elim
      (if prop = originName then .str origin else if prop ∈ abilities then .object 0 [] else .null)
      id := by
  simp only [structuralNames, List.mem_cons, not_or] at hprop
  obtain ⟨htype, hloc, hrange, -⟩ := hprop
  rw [attr, if_neg htype, if_neg hloc, if_neg hrange]
  cases Fields.get? n.attributes prop <;> rfl

/-- With distinct names, an attribute outside of the structural ones is read as it is held. -/
theorem attr_of_mem (hd : n.Distinct) (hprop : prop ∉ structuralNames)
    (h : (prop, v) ∈ n.attributes) : n.attr prop = v := by
  rw [n.attr_eq_elim hprop, Fields.get?_of_mem hd h]
  rfl

/-- Where reading an attribute finds a node, the attribute is held. -/
theorem mem_of_nodeAt?_attr {position : Option Nat} {m : Node} (hprop : prop ∉ structuralNames)
    (h : (n.attr prop).nodeAt? position = some m) : (prop, n.attr prop) ∈ n.attributes := by
  rw [n.attr_eq_elim hprop] at h ⊢
  cases hget : Fields.get? n.attributes prop with
  | some v => exact Fields.mem_of_get? hget
  | none =>
    -- what a node tells without holding it is no node and no list
    rw [hget, Option.elim_none] at h
    split_ifs at h <;> cases h

/-- **One step.**  With distinct names, the entries of a node are the nodes that reading an
    attribute outside of the structural ones finds, at their positions. -/
theorem mem_entries_iff_nodeAt? (hd : n.Distinct) (e : Entry) :
    e ∈ n.entries ↔
      e.prop ∉ structuralNames ∧ (n.attr e.prop).nodeAt? e.position = some e.node := by
  rw [n.mem_entries]
  constructor
  · rintro ⟨v, hmem, hprop, hlies⟩
    rw [attr_of_mem hd hprop hmem]
    exact ⟨hprop, (e.liesIn_iff v).mp hlies⟩
  · rintro ⟨hprop, hnode⟩
    exact ⟨_, mem_of_nodeAt?_attr hprop hnode, hprop, (e.liesIn_iff _).mpr hnode⟩

end Node

namespace Spot

/-- One step down: the attribute of a name is read and, if it holds a list, the item at a
    position. -/
def down? (s : Spot) (key : String × Option Nat) : Option Spot :=
  ((s.node.attr key.1).nodeAt? key.2).map fun n => ⟨n, ⟨s.node, key.1, key.2⟩ :: s.above⟩

/-- Steps down, one after the other. -/
def follow? (s : Spot) (keys : List (String × Option Nat)) : Option Spot :=
  keys.foldlM down? s

/-- One more step starts where the steps before it lead to. -/
theorem follow?_concat (s : Spot) (keys : List (String × Option Nat))
    (key : String × Option Nat) :
    s.follow? (keys ++ [key]) = (s.follow? keys).bind fun s' => s'.down? key := by
  rw [follow?, List.foldlM_append]
  simp [follow?]

end Spot

/-! ### Ways lead to their spots -/

namespace Tree

variable {root : Node}

/-- A child stands at the spot that one step down from its parent leads to. -/
theorem spot_of_became {p k : Occurrence} {e : Entry}
    (hp : (ofRoot root).get? p.index = some p) (hk : (ofRoot root).Became p.index k e) :
    (ofRoot root).spot k
      = ⟨e.node, ⟨p.node, e.prop, e.position⟩ :: ((ofRoot root).spot p).above⟩ := by
  obtain ⟨hget, hnode, hlink⟩ := hk
  rw [(ofRoot_layout root).spot_eq hget hlink hp, hnode]

/-- **Addresses.**  Followed from the root of the source tree, the way to an occurrence leads to
    its spot. -/
theorem follow?_way (hregular : root.Regular) {i : Nat} {o : Occurrence}
    (ho : (ofRoot root).get? i = some o) :
    Spot.follow? ⟨root, []⟩ ((ofRoot root).way o) = some ((ofRoot root).spot o) := by
  have h := ofRoot_layout root
  -- a parent stands before its child, so this is an induction on the index
  induction i using Nat.strong_induction_on generalizing o with
  | _ i ih =>
    cases hl : o.link with
    | none =>
      rw [(h.way_eq_nil_iff ho).mpr hl, spot_of_link_none _ hl, h.node_eq_of_link_none ho hl]
      rfl
    | some l =>
      obtain ⟨p, e, hp, hlt, he, hbecame⟩ := h.exists_entry_of_link ho hl
      have hd : p.node.Distinct := hregular _ (spot_mem_unfold root hp)
      have hentry := (Node.mem_entries_iff_nodeAt? hd e).mp (p.node.children_perm.mem_iff.mp he)
      rw [h.way_of_became hp hbecame, Spot.follow?_concat, ih p.index hlt hp, Option.bind_some,
        spot_of_became hp hbecame, Spot.down?]
      show Option.map _ ((p.node.attr e.prop).nodeAt? e.position) = _
      rw [hentry.2]
      rfl

/-- No two occurrences have the same way. -/
theorem way_injective (hregular : root.Regular) {i j : Nat} {o o' : Occurrence}
    (ho : (ofRoot root).get? i = some o) (ho' : (ofRoot root).get? j = some o')
    (hway : (ofRoot root).way o = (ofRoot root).way o') : o = o' := by
  have h := ofRoot_layout root
  refine SameWay.eq_of_regular hregular ⟨?_, ?_, hway⟩
  · rw [h.index_eq ho, ho]
  · rw [h.index_eq ho', ho']

/-- Outside of structural attributes, all steps that can be followed are the way to an
    occurrence. -/
theorem exists_of_follow? (hregular : root.Regular) {keys : List (String × Option Nat)}
    (hkeys : ∀ key ∈ keys, key.1 ∉ structuralNames) {s : Spot}
    (hs : Spot.follow? ⟨root, []⟩ keys = some s) :
    ∃ o, (ofRoot root).get? o.index = some o ∧ (ofRoot root).way o = keys ∧
      (ofRoot root).spot o = s := by
  have h := ofRoot_layout root
  induction keys using List.reverseRecOn generalizing s with
  | nil =>
    obtain ⟨r, hr, hnode, hlink⟩ := h.root_get
    refine ⟨r, by rw [h.index_eq hr, hr], (h.way_eq_nil_iff hr).mpr hlink, ?_⟩
    rw [spot_of_link_none _ hlink, hnode]
    exact Option.some.inj hs
  | append_singleton keys key ih =>
    obtain ⟨hbefore, hkey⟩ := List.forall_mem_append.mp hkeys
    rw [List.forall_mem_singleton] at hkey
    rw [Spot.follow?_concat] at hs
    obtain ⟨s', hs', hdown⟩ := Option.bind_eq_some_iff.mp hs
    obtain ⟨p, hp, hway, rfl⟩ := ih hbefore hs'
    obtain ⟨n, hn, rfl⟩ := Option.map_eq_some_iff.mp hdown
    -- what the last step finds is a child of the occurrence that the others lead to
    have hd : p.node.Distinct := hregular _ (spot_mem_unfold root hp)
    have he : ⟨key.1, key.2, n⟩ ∈ p.node.entries :=
      (Node.mem_entries_iff_nodeAt? hd _).mpr ⟨hkey, hn⟩
    obtain ⟨k, hk⟩ := h.exists_became_of_mem hp (p.node.children_perm.mem_iff.mpr he)
    refine ⟨k, hk.1, ?_, spot_of_became hp hk⟩
    rw [h.way_of_became hp hk, hway]
    rfl

/-- The last segment of a path leads from the parent through the link. -/
theorem getLast?_structuralPath {i : Nat} {o p : Occurrence} {l : Link}
    (ho : (ofRoot root).get? i = some o) (hl : o.link = some l)
    (hp : (ofRoot root).get? l.parent = some p) :
    ((ofRoot root).structuralPath o).getLast? = some (l.segment p.kind) := by
  rw [structuralPath, (ofRoot_layout root).ancestors_eq ho hl hp, List.map_cons,
    List.reverse_cons, List.getLast?_concat]

end Tree

end Syntax

/-! ### Traces -/

namespace Emission

/-- How the trace of a diagnostic ends.  The trace of the root is empty.  Any other one ends with
    the place of the name; behind it stands the position of the name, if its parent holds a list
    there. -/
inductive TraceEnds (t : Tree) (o : Occurrence) (d : Diagnostic) : Prop
  | root (hlink : o.link = none) (hplace : d.place = rootMark) (htrace : d.trace = [])
  | held (p : Occurrence) (prop : String) (hp : t.get? p.index = some p)
      (hlink : o.link = some ⟨p.index, prop, none⟩) (hattr : p.node.attr prop = .node o.node)
      (htrace : d.trace.getLast? = some d.place)
  | listed (p : Occurrence) (prop : String) (k identity : Nat) (items : List Value)
      (hp : t.get? p.index = some p) (hlink : o.link = some ⟨p.index, prop, some k⟩)
      (hattr : p.node.attr prop = .list identity items) (hitem : items[k]? = some (.node o.node))
      (htrace : d.trace.getLast? = some (d.place ++ "[" ++ toString k ++ "]"))

variable {root : Node} {e : Emission} {ls : Array (List Char)} {o : Occurrence} {d : Diagnostic}

/-- The trace of a diagnostic ends with the link by which its name hangs. -/
theorem traceEnds_of_diagnostic? (hregular : root.Regular)
    (htree : e.classifier.tree = Tree.ofRoot root) {i : Nat}
    (ho : (Tree.ofRoot root).get? i = some o) (hd : e.diagnostic? ls o = some d) :
    TraceEnds (Tree.ofRoot root) o d := by
  have h := Tree.ofRoot_layout root
  unfold diagnostic? at hd
  split_ifs at hd
  rw [Option.some.injEq] at hd
  subst hd
  cases hl : o.link with
  | none =>
    refine .root hl ?_ ?_
    · show e.placeText o = rootMark
      rw [placeText, htree, placeOf?, hl]
      rfl
    · show e.classifier.tree.structuralPath o = []
      rw [htree, Tree.structuralPath_eq_spot, Tree.spot_of_link_none _ hl]
      rfl
  | some l =>
    obtain ⟨p, entry, hp, -, hmem, hbecame⟩ := h.exists_entry_of_link ho hl
    obtain ⟨-, hnode, hlink⟩ := hbecame
    have hdistinct : p.node.Distinct := hregular _ (Tree.spot_mem_unfold root hp)
    have hplace : e.placeText o = p.kind ++ "." ++ entry.prop := by
      rw [placeText, htree, placeOf?, hlink, Option.bind_some, hp]
      rfl
    have hlast : (e.classifier.tree.structuralPath o).getLast?
        = some (Link.segment ⟨p.index, entry.prop, entry.position⟩ p.kind) := by
      rw [htree]
      exact Tree.getLast?_structuralPath ho hlink hp
    obtain ⟨v, hv, hprop, hlies⟩ :=
      (p.node.mem_entries entry).mp (p.node.children_perm.mem_iff.mp hmem)
    have hattr : p.node.attr entry.prop = v := Node.attr_of_mem hdistinct hprop hv
    -- The value under the property is the node itself or a list that holds it.
    rcases hlies with ⟨hposition, rfl⟩ | ⟨k, identity, items, hposition, rfl, hitem⟩
    · rw [hposition] at hlink hlast
      refine .held p entry.prop hp hlink (by rw [hattr, hnode]) ?_
      show (e.classifier.tree.structuralPath o).getLast? = some (e.placeText o)
      rw [hlast, hplace]
      rfl
    · rw [hposition] at hlink hlast
      refine .listed p entry.prop k identity items hp hlink hattr (by rw [hitem, hnode]) ?_
      show (e.classifier.tree.structuralPath o).getLast?
        = some (e.placeText o ++ "[" ++ toString k ++ "]")
      rw [hlast, hplace]
      rfl

end Emission

/-- **Structural paths are addresses.**  Followed from the root of the source tree, by attribute
    and by position in the list, the links above an occurrence lead to its spot, and so to the
    node that it was made from; the structural path names the steps on this way in their order.
    No two occurrences have the same way, and all steps that can be followed outside of structural
    attributes are the way to one.  Every diagnostic of a report is that of a name whose hanging
    the end of the trace tells: the trace ends with the place, followed by the position just if
    the name hangs in a list. -/
theorem structuralPath_is_address (root : Node) (hregular : root.Regular) :
    let t := Tree.ofRoot root
    (∀ i o, t.get? i = some o →
      ∃ s, Spot.follow? ⟨root, []⟩ (t.way o) = some s ∧ s.node = o.node ∧
        t.structuralPath o = (s.above.map Step.segment).reverse) ∧
    (∀ i j o o', t.get? i = some o → t.get? j = some o' → t.way o = t.way o' → i = j) ∧
    (∀ keys s, (∀ key ∈ keys, key.1 ∉ structuralNames) →
      Spot.follow? ⟨root, []⟩ keys = some s →
      ∃ i o, t.get? i = some o ∧ t.way o = keys ∧ o.node = s.node) ∧
    ∀ e : Emission, e.classifier.tree = t → ∀ d ∈ e.report.diagnostics,
      ∃ o ∈ t.identifiers, e.diagnostic? e.sourceLines o = some d ∧
        Emission.TraceEnds t o d := by
  intro t
  refine ⟨fun i o ho => ?_, fun i j o o' ho ho' hway => ?_, fun keys s hkeys hs => ?_,
    fun e htree d hd => ?_⟩
  · exact ⟨t.spot o, Tree.follow?_way hregular ho, rfl, t.structuralPath_eq_spot o⟩
  · have h := Tree.ofRoot_layout root
    rw [← h.index_eq ho, ← h.index_eq ho', Tree.way_injective hregular ho ho' hway]
  · -- Keys that can be followed lead to an occurrence, with nothing left over.
    obtain ⟨o, ho, hway, rfl⟩ := Tree.exists_of_follow? hregular hkeys hs
    exact ⟨o.index, o, ho, hway, rfl⟩
  · obtain ⟨o, ho, hdiagnostic⟩ := List.mem_filterMap.mp hd
    have hname : o ∈ t.identifiers := by
      rw [← htree]
      exact (List.takeWhile_sublist _).mem ho
    exact ⟨o, hname, hdiagnostic, Emission.traceEnds_of_diagnostic? hregular htree
      (Tree.get?_of_mem_identifiers root hname) hdiagnostic⟩

/-- A node of a kind that no rule covers.  Its list has a hole and names against their locations,
    and one of the names is held a second time. -/
def gallery : Node :=
  { type := some "Gallery"
    attributes :=
      [("images", .list 4
        [.null, .node (Tree.sampleName 1 "a" 9), .node (Tree.sampleName 2 "b" 3)]),
       ("cover", .node (Tree.sampleName 1 "a" 9))] }

theorem structuralPath_is_address_gallery :
    let t := Tree.ofRoot gallery
    let e : Emission := ⟨{ tree := t }, [], "gallery.js", 0, 0⟩
    gallery.Regular ∧
    (∃ listed held s s',
      t.get? 2 = some listed ∧ t.get? 3 = some held ∧
      t.way listed = [("images", some 1)] ∧ t.way held = [("cover", none)] ∧
      Spot.follow? ⟨gallery, []⟩ (t.way listed) = some s ∧
      Spot.follow? ⟨gallery, []⟩ (t.way held) = some s' ∧ s.node = s'.node) ∧
    e.report.diagnostics.map (·.trace) =
      [["Gallery.images[2]"], ["Gallery.images[1]"], ["Gallery.cover"]] ∧
    ∀ d ∈ e.report.diagnostics, ∃ o ∈ t.identifiers, Emission.TraceEnds t o d := by
  intro t e
  have hregular : gallery.Regular := by
    have hentries : gallery.entries =
        [⟨"images", some 1, Tree.sampleName 1 "a" 9⟩, ⟨"images", some 2, Tree.sampleName 2 "b" 3⟩,
         ⟨"cover", none, Tree.sampleName 1 "a" 9⟩] := rfl
    have hname : ∀ identity name column, (Tree.sampleName identity name column).Regular :=
      fun _ _ _ => Node.regular_of_leaf (List.nodup_singleton _) rfl
    rw [Node.regular_iff, hentries]
    simp only [List.forall_mem_cons, List.not_mem_nil, false_implies, implies_true, and_true]
    exact ⟨by decide, hname _ _ _, hname _ _ _, hname _ _ _⟩
  obtain ⟨hlead, -, -, htraces⟩ := structuralPath_is_address gallery hregular
  have hlisted : t.get? 2 = some ⟨2, Tree.sampleName 1 "a" 9, some ⟨0, "images", some 1⟩, []⟩ := by
    cbv
  have hheld : t.get? 3 = some ⟨3, Tree.sampleName 1 "a" 9, some ⟨0, "cover", none⟩, []⟩ := by
    cbv
  obtain ⟨s, hs, hnode, -⟩ := hlead 2 _ hlisted
  obtain ⟨s', hs', hnode', -⟩ := hlead 3 _ hheld
  have hfault : e.fault? = none := by cbv
  refine ⟨hregular, ⟨_, _, s, s', hlisted, hheld, by cbv, by cbv, hs, hs', ?_⟩, ?_,
    fun d hd => ?_⟩
  · rw [hnode, hnode']
  · rw [Emission.diagnostics_eq_of_fault? hfault]
    cbv
  · obtain ⟨o, ho, -, hends⟩ := htraces e rfl d hd
    exact ⟨o, ho, hends⟩

end SymbolTags
