import Mathlib.Data.Finset.Card
import SymbolTags.Proofs.Copies
import SymbolTags.Tagging.Source

namespace SymbolTags

open Syntax

/-!
# Sharing — where it shows that node objects are reused

An arena has an occurrence for each place of a node object, so reuse cannot be seen in it.
What tells about it is the count of repeats and the log:

* `Tree.repeats_eq_filter` — the repeats are the occurrences of which an earlier one is of the
  same object, in the order of the arena;
* `Tree.sharedCount_add_card` — repeats and distinct objects together make up the arena;
* `Announces` — what the log says about a repeat, and `forall₂_announces` for the whole log;
* `sharing_shows_in_count_and_log` — all of this, and that nothing else shows it.
-/

namespace Syntax.Tree

/-! ### Repeats -/

/-- Among some occurrences, one with a smaller index is of the same object. -/
def RepeatsIn (os : List Occurrence) (o : Occurrence) : Prop :=
  ∃ p ∈ os, p.index < o.index ∧ p.node.identity = o.node.identity

instance (os : List Occurrence) (o : Occurrence) : Decidable (RepeatsIn os o) :=
  inferInstanceAs (Decidable (∃ p ∈ os, _))

/-- To repeat a list is to repeat its first occurrence or one of the rest. -/
theorem repeatsIn_cons {o r : Occurrence} {rest : List Occurrence} (h : o.index < r.index) :
    RepeatsIn (o :: rest) r ↔ r.node.identity = o.node.identity ∨ RepeatsIn rest r := by
  unfold RepeatsIn
  rw [List.exists_mem_cons_iff]
  refine or_congr_left ⟨fun hsame => hsame.2.symm, fun hsame => ⟨h, hsame.symm⟩⟩

/-- The first of occurrences with increasing indices repeats none of them. -/
theorem not_repeatsIn_head {o : Occurrence} {rest : List Occurrence}
    (h : ∀ r ∈ rest, o.index < r.index) : ¬RepeatsIn (o :: rest) o := by
  rintro ⟨p, hp, hlt, -⟩
  rcases List.mem_cons.mp hp with rfl | hp
  · omega
  · have := h p hp
    omega

/-- **Step.**  The repeats behind some identities, when indices increase. -/
theorem repeatsAfter_eq_filter {os : List Occurrence}
    (hindex : os.Pairwise fun o r => o.index < r.index) (seen : List Nat) :
    repeatsAfter seen os
      = os.filter fun o => decide (o.node.identity ∈ seen ∨ RepeatsIn os o) := by
  induction os generalizing seen with
  | nil => rfl
  | cons o rest ih =>
    obtain ⟨hfirst, hrest⟩ := List.pairwise_cons.mp hindex
    rw [repeatsAfter, List.filter_cons]
    by_cases hseen : o.node.identity ∈ seen
    · -- a known object adds nothing to what is known
      simp only [hseen, if_true, true_or, decide_true]
      rw [ih hrest]
      refine congrArg _ (List.filter_congr fun r hr => decide_eq_decide.mpr ?_)
      rw [repeatsIn_cons (hfirst r hr), ← or_assoc]
      refine or_congr_left ⟨.inl, ?_⟩
      rintro (hmem | hsame)
      · exact hmem
      · rwa [hsame]
    · -- a new object is known from here on, because its index is smaller than all that follow
      simp only [hseen, if_false, false_or, not_repeatsIn_head hfirst, decide_false,
        Bool.false_eq_true]
      rw [ih hrest]
      refine List.filter_congr fun r hr => decide_eq_decide.mpr ?_
      rw [repeatsIn_cons (hfirst r hr), List.mem_cons, or_comm (a := r.node.identity = _), or_assoc]

/-- The arena is in the order of its indices. -/
theorem Layout.pairwise_index {t : Tree} {root : Node} (h : t.Layout root) :
    t.occurrences.toList.Pairwise fun o r => o.index < r.index := by
  have hrange : (t.occurrences.toList.map (·.index)).Pairwise (· < ·) := by
    rw [h.map_index_occurrences]
    exact List.pairwise_lt_range
  exact List.pairwise_map.mp hrange

/-- **Repeats.**  They are the occurrences of which an earlier one is of the same object, in the
    order of the arena. -/
theorem repeats_eq_filter (root : Node) :
    (ofRoot root).repeats = (ofRoot root).occurrences.toList.filter fun o =>
      decide (RepeatsIn (ofRoot root).occurrences.toList o) := by
  rw [repeats, repeatsAfter_eq_filter (ofRoot_layout root).pairwise_index]
  simp only [List.not_mem_nil, false_or]

/-! ### Counting -/

/-- Each occurrence repeats an object or brings a new one. -/
theorem length_repeatsAfter (seen : List Nat) (os : List Occurrence) :
    (repeatsAfter seen os).length
      + ((os.map (·.node.identity)).toFinset \ seen.toFinset).card = os.length := by
  induction os generalizing seen with
  | nil => simp [repeatsAfter]
  | cons o rest ih =>
    rw [repeatsAfter, List.map_cons, List.toFinset_cons, List.length_cons]
    by_cases hseen : o.node.identity ∈ seen
    · rw [if_pos hseen, List.length_cons,
        Finset.insert_sdiff_of_mem _ (List.mem_toFinset.mpr hseen), ← ih seen]
      omega
    · -- a new object is taken out of what is still to come
      have hnew : o.node.identity ∉ seen.toFinset := fun h => hseen (List.mem_toFinset.mp h)
      have hstep := ih (o.node.identity :: seen)
      rw [List.toFinset_cons, Finset.sdiff_insert] at hstep
      rw [if_neg hseen, Finset.insert_sdiff_of_notMem _ hnew,
        ← Finset.card_erase_add_one (Finset.mem_insert_self _ _), Finset.erase_insert_eq_erase]
      omega

/-- The arena has the objects of the unfolding. -/
theorem identities_perm (root : Node) :
    ((ofRoot root).occurrences.toList.map (·.node.identity)).Perm root.identities := by
  have hspots : root.identities = (ofRoot root).walk.map (·.node.identity) := by
    rw [Node.identities, ← (traverses_walk root).2, List.map_map]
    rfl
  rw [hspots]
  exact ((walk_perm root).map _).symm

/-- **Count.**  Repeats and distinct objects together make up the arena. -/
theorem sharedCount_add_card (root : Node) :
    (ofRoot root).sharedCount + root.identities.toFinset.card = (ofRoot root).size := by
  have h := length_repeatsAfter [] (ofRoot root).occurrences.toList
  rw [List.toFinset_nil, Finset.sdiff_empty,
    List.toFinset_eq_of_perm _ _ (identities_perm root)] at h
  rw [sharedCount, repeats, h]
  rfl

-- What hangs below a repeated object is repeated with it.
example :
    let operand : Node :=
      { type := some "UnaryExpression", identity := 1
        attributes := [("argument", .node (sampleName 2 "x" 0))] }
    (ofRoot { type := some "BinaryExpression",
              attributes := [("left", .node operand), ("right", .node operand)] }).sharedCount
      = 2 := by
  cbv

end Syntax.Tree

/-! ### The log -/

/-- The name of the events that tell about repeats. -/
def sharingName : String := "shared-node-cloned"

/-- An event tells about a repeat: the type of its node, the kind of the parent and the
    property that it hangs on. -/
def Announces (t : Tree) (o : Occurrence) (e : Log.Event) : Prop :=
  ∃ l p, o.link = some l ∧ t.get? l.parent = some p ∧
    e.level = .debug ∧ e.name = sharingName ∧
    e.fields = [("kind", o.node.type.elim .null .str), ("parent", .str p.kind),
      ("prop", .str l.prop)]

/-- A repeat is not the root, so it hangs on something. -/
theorem Syntax.Tree.exists_link_of_mem_repeats {root : Node} {o : Occurrence}
    (h : o ∈ (ofRoot root).repeats) :
    ∃ l p, o.link = some l ∧ (ofRoot root).get? l.parent = some p := by
  have hlayout := ofRoot_layout root
  rw [repeats_eq_filter, List.mem_filter, decide_eq_true_iff] at h
  obtain ⟨hmem, p, -, hlt, -⟩ := h
  obtain ⟨i, hi⟩ := List.mem_iff_getElem?.mp hmem
  rw [Array.getElem?_toList] at hi
  -- something has a smaller index, so the index is not that of the root
  have hindex : o.index = i := hlayout.index_eq hi
  obtain ⟨l, p, hl, -, hp, -⟩ := hlayout.linked hi (by omega)
  exact ⟨l, p, hl, hp⟩

/-- **Log.**  There is one event for each repeat, in the same order. -/
theorem forall₂_announces (root : Node) :
    List.Forall₂ (Announces (Tree.ofRoot root)) (Tree.ofRoot root).repeats
      (sharingEvents (Tree.ofRoot root)) := by
  rw [sharingEvents, List.forall₂_map_right_iff, List.forall₂_same]
  intro o ho
  obtain ⟨l, p, hl, hp⟩ := Tree.exists_link_of_mem_repeats ho
  refine ⟨l, p, hl, hp, rfl, rfl, ?_⟩
  simp [sharingEvent, Tree.parent?, hl, hp]

/-- A report raises no other events of that name. -/
theorem filter_events_reportOn (settings : Settings) (parsed : Parsed) (source path : String)
    (offsets : Offsets) :
    (reportOn settings parsed source path offsets).2.filter (fun e => e.name = sharingName)
      = sharingEvents (Tree.ofRoot parsed.program) := by
  have hsharing : (sharingEvents (Tree.ofRoot parsed.program)).filter
      (fun e => e.name = sharingName) = sharingEvents (Tree.ofRoot parsed.program) := by
    rw [List.filter_eq_self]
    intro e he
    obtain ⟨o, -, rfl⟩ := List.mem_map.mp he
    rfl
  have hdiagnostics : ∀ ds : List Diagnostic,
      (ds.map Diagnostic.event).filter (fun e => e.name = sharingName) = [] := by
    intro ds
    rw [List.filter_eq_nil_iff]
    intro e he
    obtain ⟨d, -, rfl⟩ := List.mem_map.mp he
    simp [Diagnostic.event, sharingName]
  cases hfault : (emissionOf settings (Tree.ofRoot parsed.program) source path offsets).fault? with
  | some fault =>
    simp only [reportOn, hfault]
    rw [List.filter_append, hsharing, hdiagnostics, List.append_nil]
  | none =>
    simp only [reportOn, hfault]
    rw [List.filter_append, List.filter_append, hsharing, hdiagnostics, List.append_nil]
    simp [taggedEvent, sharingName]

/-- **Sharing.**  Every root has a copy in which all occurrences are objects of their own.  All
    copies of a root have arenas that show the same: index, kind, location, offsets, name,
    link, children and slots.  What differs is the count of repeats, which is the size of the
    arena without the number of distinct objects, and the log, which has one event for each
    repeat in the order of the arena. -/
theorem sharing_shows_in_count_and_log (root : Node) :
    (root.separated.anonymous = root.anonymous ∧ root.separated.identities.Nodup) ∧
    (∀ copy : Node, copy.anonymous = root.anonymous →
      List.Forall₂ Occurrence.LooksLike (Tree.ofRoot copy).occurrences.toList
        (Tree.ofRoot root).occurrences.toList) ∧
    (Tree.ofRoot root).sharedCount + root.identities.toFinset.card = (Tree.ofRoot root).size ∧
    (sharingEvents (Tree.ofRoot root)).length = (Tree.ofRoot root).sharedCount ∧
    List.Forall₂ (Announces (Tree.ofRoot root))
      ((Tree.ofRoot root).occurrences.toList.filter fun o =>
        decide (Tree.RepeatsIn (Tree.ofRoot root).occurrences.toList o))
      (sharingEvents (Tree.ofRoot root)) ∧
    ∀ (settings : Settings) (parsed : Parsed) (source path : String) (offsets : Offsets),
      parsed.program = root →
        (reportOn settings parsed source path offsets).2.filter (fun e => e.name = sharingName)
          = sharingEvents (Tree.ofRoot root) := by
  refine ⟨⟨root.anonymous_separate [], root.nodup_identities_separated⟩,
    fun copy => Tree.looksLike_of_copy, Tree.sharedCount_add_card root, List.length_map _, ?_, ?_⟩
  · rw [← Tree.repeats_eq_filter]
    exact forall₂_announces root
  · rintro settings parsed source path offsets rfl
    exact filter_events_reportOn settings parsed source path offsets

end SymbolTags
