import SymbolTags.Proofs.Lookup
import SymbolTags.Proofs.Sharing

namespace SymbolTags

open Syntax

/-!
# Building — the arena as one loop makes it

`Tree.ofRoot` lays out the arena, and the slots, the repeats and their events are read off the
finished arena.  A single loop can do all of it at once, with the objects that it has met, a
counter and a log in its hands:

* `Building` — what the loop has at hand, `Building.lay` for one child, `Building.round` for all
  children of one occurrence and `Building.run` for the whole loop;
* `Occurrence.get?_fill` — the slots that a round fills are those that `Occurrence.slot?` reads;
* `Building.Agrees` — the invariant: count, log and slots are those that are read off the arena;
* `Building.run_start` — so the loop leaves what the tree of the root has.
-/

/-! ### Slots that are filled one by one -/

namespace Syntax

/-- The indices in a slot. -/
def Slot.indices : Slot → List Nat
  | empty => []
  | one i => [i]
  | many indices => indices

/-- A slot after a further child: a child of a list joins those that are there. -/
def Slot.filled (old : Option Slot) (position : Option Nat) (index : Nat) : Slot :=
  match position with
  | none => one index
  | some _ => many ((old.elim [] indices) ++ [index])

/-- A child is put into the slot of its property. -/
def putChild (slots : Fields Slot) (p : Entry × Nat) : Fields Slot :=
  Fields.set slots p.1.prop (.filled (Fields.get? slots p.1.prop) p.1.position p.2)

/-- An attribute without children gets a slot if it is null or an empty list. -/
def putAttribute (slots : Fields Slot) (p : String × Value) : Fields Slot :=
  if p.1 ∈ structuralNames ∨ (Fields.get? slots p.1).isSome then slots
  else
    match p.2 with
    | .null => Fields.set slots p.1 .empty
    | .list _ [] => Fields.set slots p.1 (.many [])
    | _ => slots

/-- The slots of a node whose children stand at given indices. -/
def fill (n : Node) (indices : List Nat) : Fields Slot :=
  n.attributes.foldl putAttribute ((n.children.zip indices).foldl putChild [])

/-- A slot depends on the children of its own property alone. -/
theorem get?_foldl_putChild (pairs : List (Entry × Nat)) (slots : Fields Slot) (prop : String) :
    Fields.get? (pairs.foldl putChild slots) prop =
      (pairs.filter fun p => p.1.prop = prop).foldl
        (fun old p => some (.filled old p.1.position p.2)) (Fields.get? slots prop) := by
  induction pairs generalizing slots with
  | nil => rfl
  | cons p rest ih =>
    rw [List.foldl_cons, ih, List.filter_cons, putChild]
    by_cases hprop : p.1.prop = prop
    · subst hprop
      simp
    · rw [Fields.get?_set_of_ne _ _ (Ne.symm hprop)]
      simp [hprop]

/-- The children of a list come to stand side by side. -/
theorem foldl_filled_list {pairs : List (Entry × Nat)} (h : ∀ p ∈ pairs, p.1.position.isSome)
    (indices : List Nat) :
    pairs.foldl (fun old p => some (Slot.filled old p.1.position p.2)) (some (Slot.many indices)) =
      some (.many (indices ++ pairs.map Prod.snd)) := by
  induction pairs generalizing indices with
  | nil => simp
  | cons p rest ih =>
    obtain ⟨hp, hrest⟩ := List.forall_mem_cons.mp h
    obtain ⟨k, hk⟩ := Option.isSome_iff_exists.mp hp
    rw [List.foldl_cons, hk]
    show rest.foldl _ (some (Slot.many (indices ++ [p.2]))) = _
    rw [ih hrest, List.map_cons, List.append_assoc, List.singleton_append]

/-- A list that has children gets a slot with them. -/
theorem foldl_filled_of_isSome {pairs : List (Entry × Nat)}
    (h : ∀ p ∈ pairs, p.1.position.isSome) :
    pairs.foldl (fun old p => some (Slot.filled old p.1.position p.2)) none =
      if (pairs.map Prod.snd).isEmpty then none else some (.many (pairs.map Prod.snd)) := by
  cases pairs with
  | nil => rfl
  | cons p rest =>
    obtain ⟨hp, hrest⟩ := List.forall_mem_cons.mp h
    obtain ⟨k, hk⟩ := Option.isSome_iff_exists.mp hp
    rw [List.foldl_cons, hk]
    exact foldl_filled_list hrest [p.2]

/-- A slot that has been filled stays as it is, and of the other attributes those get one that
    are null or an empty list. -/
theorem get?_foldl_putAttribute {attributes : Fields Value}
    (hd : (attributes.map Prod.fst).Nodup) (slots : Fields Slot) (prop : String) :
    Fields.get? (attributes.foldl putAttribute slots) prop =
      (Fields.get? slots prop).or
        (if prop ∈ structuralNames then none
        else
          match Fields.get? attributes prop with
          | some .null => some .empty
          | some (.list _ []) => some (.many [])
          | _ => none) := by
  induction attributes generalizing slots with
  | nil => simp [Fields.get?]
  | cons p rest ih =>
    obtain ⟨name, v⟩ := p
    obtain ⟨hname, hrest⟩ := List.nodup_cons.mp hd
    rw [List.foldl_cons, ih hrest]
    by_cases hprop : name = prop
    · -- the rest does not hold the name again
      subst hprop
      rw [Fields.get?_eq_none_of_notMem hname, Fields.get?, if_pos rfl]
      unfold putAttribute
      by_cases hstructural : name ∈ structuralNames
      · simp [hstructural]
      · cases hget : Fields.get? slots name with
        | some slot => simp [hget, hstructural]
        | none =>
          simp only [hstructural, Option.isSome_none, Bool.false_eq_true, or_self, if_false,
            Option.none_or, Option.or_none]
          cases v with
          | null => exact Fields.get?_set_self _ _ _
          | list identity items =>
            cases items with
            | nil => exact Fields.get?_set_self _ _ _
            | cons v vs => exact hget
          | _ => exact hget
    · have hsame : Fields.get? (putAttribute slots (name, v)) prop = Fields.get? slots prop := by
        unfold putAttribute
        split_ifs
        · rfl
        · split
          · exact Fields.get?_set_of_ne _ _ (Ne.symm hprop)
          · exact Fields.get?_set_of_ne _ _ (Ne.symm hprop)
          · rfl
      rw [hsame, Fields.get?, if_neg hprop]

/-- The children of a property, paired with their entries. -/
def Occurrence.pairsAt (o : Occurrence) (prop : String) : List (Entry × Nat) :=
  (o.node.children.zip o.children).filter fun p => p.1.prop = prop

theorem Occurrence.map_snd_pairsAt (o : Occurrence) (prop : String) :
    (o.pairsAt prop).map Prod.snd = o.childrenAt prop := by
  unfold pairsAt childrenAt
  generalize o.node.children.zip o.children = pairs
  induction pairs with
  | nil => rfl
  | cons p rest ih =>
    rw [List.filter_cons, List.filterMap_cons]
    by_cases hprop : p.1.prop = prop <;> simp [hprop, ih]

/-- They answer to the entries of the attribute. -/
theorem Occurrence.pairsAt_perm {o : Occurrence} (hd : o.node.Distinct)
    (hlength : o.node.children.length = o.children.length) (prop : String) :
    ((o.pairsAt prop).map Prod.fst).Perm
      (((Fields.get? o.node.attributes prop).map (attributeEntries prop)).getD []) := by
  have hfst : (o.pairsAt prop).map Prod.fst = o.node.children.filter fun e => e.prop = prop := by
    conv_rhs => rw [← List.map_fst_zip (le_of_eq hlength), List.filter_map]
    rfl
  rw [hfst]
  exact Node.filter_prop_children hd prop

/-- So there are none of an attribute without entries … -/
theorem Occurrence.pairsAt_eq_nil {o : Occurrence} (hd : o.node.Distinct)
    (hlength : o.node.children.length = o.children.length) {prop : String}
    (h : ((Fields.get? o.node.attributes prop).map (attributeEntries prop)).getD [] = []) :
    o.pairsAt prop = [] := by
  have hperm := o.pairsAt_perm hd hlength prop
  rw [h, List.perm_nil, List.map_eq_nil_iff] at hperm
  exact hperm

/-- … and one of an attribute that is a node. -/
theorem Occurrence.pairsAt_eq_singleton {o : Occurrence} (hd : o.node.Distinct)
    (hlength : o.node.children.length = o.children.length) {prop : String} {e : Entry}
    (h : ((Fields.get? o.node.attributes prop).map (attributeEntries prop)).getD [] = [e]) :
    ∃ index, o.pairsAt prop = [(e, index)] := by
  have hperm := o.pairsAt_perm hd hlength prop
  rw [h] at hperm
  have hlen := hperm.length_eq
  rw [List.length_map] at hlen
  obtain ⟨⟨e', index⟩, hp⟩ := List.length_eq_one_iff.mp hlen
  rw [hp, List.map_singleton] at hperm
  have heq : e' = e := List.singleton_perm_singleton.mp hperm
  exact ⟨index, heq ▸ hp⟩

/-- The children of a list have positions in it. -/
theorem isSome_position_of_mem_listEntries {prop : String} {first : Nat} {items : List Value}
    {e : Entry} (h : e ∈ listEntries prop first items) : e.position.isSome := by
  obtain ⟨k, -, -, hposition⟩ := (mem_listEntries prop first items e).mp h
  rw [hposition]
  rfl

/-- **Slots.**  With distinct names, the slots that are filled one by one are those that are read
    off an occurrence. -/
theorem Occurrence.get?_fill {o : Occurrence} (hd : o.node.Distinct)
    (hlength : o.node.children.length = o.children.length) (prop : String) :
    Fields.get? (fill o.node o.children) prop = o.slot? prop := by
  have hsnd := o.map_snd_pairsAt prop
  have hnil : ((Fields.get? o.node.attributes prop).map (attributeEntries prop)).getD [] = [] →
      o.pairsAt prop = [] := Occurrence.pairsAt_eq_nil hd hlength
  rw [fill, get?_foldl_putAttribute hd, get?_foldl_putChild]
  show ((o.pairsAt prop).foldl _ none).or _ = _
  unfold Occurrence.slot?
  by_cases hprop : prop ∈ structuralNames
  · have hentries : ∀ v, attributeEntries prop v = [] := fun v => if_pos hprop
    rw [hnil (by cases Fields.get? o.node.attributes prop <;> simp [hentries]), if_pos hprop,
      if_pos hprop]
    rfl
  · rw [if_neg hprop, if_neg hprop]
    have hentries : ∀ v, attributeEntries prop v = _ := fun v => if_neg hprop
    cases hget : Fields.get? o.node.attributes prop with
    | none =>
      rw [hnil (by rw [hget]; rfl)]
      rfl
    | some v =>
      have hperm := o.pairsAt_perm hd hlength prop
      rw [hget, Option.map_some, Option.getD_some, hentries] at hperm hnil
      cases v with
      | node m =>
        -- the one entry has no position
        obtain ⟨index, hp⟩ := Occurrence.pairsAt_eq_singleton hd hlength
          (show ((Fields.get? o.node.attributes prop).map (attributeEntries prop)).getD [] = _ by
            rw [hget, Option.map_some, Option.getD_some, hentries])
        rw [hp] at hsnd
        rw [hp, ← hsnd]
        rfl
      | list identity items =>
        have hpositions : ∀ p ∈ o.pairsAt prop, p.1.position.isSome := fun p hp =>
          isSome_position_of_mem_listEntries (hperm.mem_iff.mp (List.mem_map_of_mem hp))
        rw [foldl_filled_of_isSome hpositions, hsnd]
        cases items with
        | nil =>
          rw [← hsnd, hnil rfl]
          rfl
        | cons v vs => exact Option.or_none
      | _ =>
        -- without entries the slot is left to the attribute itself
        rw [hnil rfl]
        rfl

/-! ### Lists with a changed element -/

/-- A change in the first part leaves the second alone. -/
theorem modify_append_of_lt {α : Type} (f : α → α) {xs : List α} {i : Nat} (h : i < xs.length)
    (ys : List α) : (xs ++ ys).modify i f = xs.modify i f ++ ys := by
  induction xs generalizing i with
  | nil => exact absurd h (Nat.not_lt_zero i)
  | cons x xs ih =>
    cases i with
    | zero => rfl
    | succ i =>
      rw [List.cons_append, List.modify_succ_cons, List.modify_succ_cons,
        ih (Nat.lt_of_succ_lt_succ h), List.cons_append]

/-- A change cannot be seen through a function that it keeps. -/
theorem map_modify_of_forall {α β : Type} {f : α → α} {g : α → β} (h : ∀ x, g (f x) = g x)
    (xs : List α) (i : Nat) : (xs.modify i f).map g = xs.map g := by
  induction xs generalizing i with
  | nil => rw [List.modify_nil]
  | cons x xs ih =>
    cases i with
    | zero => rw [List.modify_zero_cons, List.map_cons, List.map_cons, h]
    | succ i => rw [List.modify_succ_cons, List.map_cons, List.map_cons, ih]

/-! ### Repeats of a list in two parts -/

namespace Tree

/-- What counts about the identities that were met is which they are. -/
theorem repeatsAfter_congr {seen seen' : List Nat} (h : ∀ i, i ∈ seen ↔ i ∈ seen')
    (os : List Occurrence) : repeatsAfter seen os = repeatsAfter seen' os := by
  induction os generalizing seen seen' with
  | nil => rfl
  | cons o rest ih =>
    rw [repeatsAfter, repeatsAfter]
    by_cases hseen : o.node.identity ∈ seen
    · rw [if_pos hseen, if_pos ((h _).mp hseen), ih h]
    · rw [if_neg hseen, if_neg (mt (h _).mpr hseen)]
      exact ih fun i => by rw [List.mem_cons, List.mem_cons, h]

/-- A known identity may be met once more. -/
theorem repeatsAfter_cons (seen : List Nat) (o : Occurrence) (rest : List Occurrence) :
    repeatsAfter seen (o :: rest) =
      (if o.node.identity ∈ seen then [o] else []) ++
        repeatsAfter (o.node.identity :: seen) rest := by
  rw [repeatsAfter]
  by_cases hseen : o.node.identity ∈ seen
  · rw [if_pos hseen, if_pos hseen, List.singleton_append]
    refine congrArg _ (repeatsAfter_congr (fun i => ?_) rest)
    rw [List.mem_cons]
    exact ⟨.inr, fun h => h.elim (fun heq => heq ▸ hseen) id⟩
  · rw [if_neg hseen, if_neg hseen, List.nil_append]

/-- The later part has met the objects of the earlier one. -/
theorem repeatsAfter_append (seen : List Nat) (os more : List Occurrence) :
    repeatsAfter seen (os ++ more) =
      repeatsAfter seen os ++ repeatsAfter (os.map (·.node.identity) ++ seen) more := by
  induction os generalizing seen with
  | nil => rfl
  | cons o rest ih =>
    rw [List.cons_append, repeatsAfter_cons, repeatsAfter_cons, ih, List.append_assoc]
    refine congrArg _ (congrArg _ (repeatsAfter_congr (fun i => ?_) more))
    simp only [List.map_cons, List.mem_append, List.mem_cons]
    tauto

/-- A change that keeps the node of an occurrence keeps the repeats, up to the change. -/
theorem map_repeatsAfter_modify {α : Type} {f : Occurrence → Occurrence} {g : Occurrence → α}
    (hnode : ∀ o, (f o).node = o.node) (hg : ∀ o, g (f o) = g o) (seen : List Nat) (i : Nat)
    (os : List Occurrence) :
    (repeatsAfter seen (os.modify i f)).map g = (repeatsAfter seen os).map g := by
  induction os generalizing seen i with
  | nil => rw [List.modify_nil]
  | cons o rest ih =>
    cases i with
    | zero =>
      rw [List.modify_zero_cons, repeatsAfter_cons, repeatsAfter_cons, hnode, List.map_append,
        List.map_append]
      split_ifs
      · rw [List.map_singleton, List.map_singleton, hg]
      · rfl
    | succ i =>
      rw [List.modify_succ_cons, repeatsAfter_cons, repeatsAfter_cons, List.map_append,
        List.map_append, ih]

/-- Repeats are among the occurrences. -/
theorem mem_of_mem_repeatsAfter {seen : List Nat} {os : List Occurrence} {o : Occurrence}
    (h : o ∈ repeatsAfter seen os) : o ∈ os := by
  induction os generalizing seen with
  | nil => exact h
  | cons p rest ih =>
    rw [repeatsAfter_cons, List.mem_append] at h
    rcases h with h | h
    · split_ifs at h
      · exact List.mem_cons.mpr (.inl (List.mem_singleton.mp h))
      · exact absurd h (List.not_mem_nil)
    · exact List.mem_cons_of_mem _ (ih h)

end Tree

end Syntax

/-! ### The loop -/

/-- What the loop has at hand. -/
structure Building where
  /-- The occurrences so far. -/
  arena : Array Occurrence
  /-- Those whose children are still to be laid out, last in first out. -/
  pending : List Occurrence
  /-- The slots of the occurrences. -/
  fields : Array (Fields Slot)
  /-- The identities of the node objects that were met. -/
  seen : List Nat
  /-- How often an object was met again. -/
  shared : Nat := 0
  /-- What was logged. -/
  events : List Log.Event := []

/-- The event of an object that is met again below a parent. -/
def meetingEvent (parent child : Occurrence) : Log.Event where
  level := .debug
  name := sharingName
  fields :=
    [("kind", child.node.type.elim .null .str), ("parent", .str parent.kind),
     ("prop", (child.link.map (·.prop)).elim .null .str)]

namespace Building

/-- The root is there, and its children are to be laid out. -/
def start (root : Node) : Building :=
  let top : Occurrence := { index := 0, node := root, link := none }
  { arena := #[top], pending := [top], fields := #[[]], seen := [root.identity] }

/-- A child is laid out below a parent and becomes pending; it is looked up among the objects
    that were met, and joins them. -/
def lay (parent : Occurrence) (b : Building) (e : Entry) : Building :=
  let child := e.occurrence parent.index b.arena.size
  let met := e.node.identity ∈ b.seen
  { arena := b.arena.push child
    pending := child :: b.pending
    fields := b.fields.push []
    seen := e.node.identity :: b.seen
    shared := if met then b.shared + 1 else b.shared
    events := if met then b.events ++ [meetingEvent parent child] else b.events }

/-- The children of an occurrence are laid out one by one; then it gets their indices and its
    slots. -/
def round (o : Occurrence) (b : Building) : Building :=
  let laid := o.node.children.foldl (lay o) b
  let indices := List.range' b.arena.size o.node.children.length
  { laid with
    arena := laid.arena.modify o.index fun p => { p with children := indices }
    fields := laid.fields.modify o.index fun _ => fill o.node indices }

/-- What laying children out comes to. -/
theorem foldl_lay (parent : Occurrence) (es : List Entry) (b : Building) :
    es.foldl (lay parent) b =
      { arena := b.arena ++ childOccurrences parent.index b.arena.size es
        pending := (childOccurrences parent.index b.arena.size es).reverse ++ b.pending
        fields := b.fields ++ Array.replicate es.length []
        seen := (es.map (·.node.identity)).reverse ++ b.seen
        shared := b.shared +
          (Tree.repeatsAfter b.seen (childOccurrences parent.index b.arena.size es)).length
        events := b.events ++
          (Tree.repeatsAfter b.seen (childOccurrences parent.index b.arena.size es)).map
            (meetingEvent parent) } := by
  induction es generalizing b with
  | nil => simp [childOccurrences, Tree.repeatsAfter]
  | cons e rest ih =>
    have hfields : b.fields.push [] ++ Array.replicate rest.length [] =
        b.fields ++ Array.replicate (rest.length + 1) [] := by
      apply Array.toList_inj.mp
      simp [List.replicate_succ]
    rw [List.foldl_cons, ih]
    simp only [lay, childOccurrences, Tree.repeatsAfter_cons, Entry.occurrence, Array.size_push,
      List.length_cons, List.map_cons, List.reverse_cons, List.append_assoc, List.cons_append,
      List.nil_append, hfields]
    by_cases hmet : e.node.identity ∈ b.seen
    · simp only [hmet, if_true, List.map_append, List.map_singleton, List.length_append,
        List.length_singleton, List.append_assoc, Nat.add_assoc]
      simp
    · simp [hmet]

/-- The pending occurrences after a round. -/
theorem pending_round (o : Occurrence) (b : Building) :
    (round o b).pending =
      (childOccurrences o.index b.arena.size o.node.children).reverse ++ b.pending := by
  rw [round, foldl_lay]

/-- Rounds are made until nothing is pending. -/
def run (b : Building) : Building :=
  match _hpending : b.pending with
  | [] => b
  | o :: rest => run (round o { b with pending := rest })
termination_by Node.totalSize (b.pending.map (·.node))
decreasing_by
  rw [pending_round, List.map_append, List.map_reverse, map_node_childOccurrences,
    Node.totalSize_append, Node.totalSize_perm (List.reverse_perm _), _hpending, List.map_cons,
    Node.totalSize]
  exact Nat.add_lt_add_right o.node.totalSize_children _

/-- Children that are laid out first and then told to their parent make the same arena as those
    that are laid out behind a parent that knows them. -/
theorem arena_round {o : Occurrence} {b : Building} (ho : o.index < b.arena.size) :
    (round o b).arena = settle b.arena o := by
  simp only [round, foldl_lay]
  apply Array.toList_inj.mp
  rw [Array.toList_modify, Array.toList_appendList, toList_settle]
  exact modify_append_of_lt _ ho _

/-- The identities that were met are those of the arena and of the children. -/
theorem map_identity_settle (arena : Array Occurrence) (o : Occurrence) :
    (settle arena o).toList.map (·.node.identity) =
      arena.toList.map (·.node.identity) ++ o.node.children.map (·.node.identity) := by
  have hchildren := congrArg (List.map (·.identity))
    (map_node_childOccurrences o.index arena.size o.node.children)
  rw [List.map_map, List.map_map] at hchildren
  rw [toList_settle, List.map_append]
  let f (p : Occurrence) : Occurrence :=
    { p with children := List.range' arena.size o.node.children.length }
  exact congrArg₂ _ (map_modify_of_forall (f := f) (fun _ => rfl) _ _) hchildren

/-- A round adds the repeats among the children to those that there are. -/
theorem map_repeatsAfter_settle {α : Type} {g : Occurrence → α}
    (hg : ∀ (p : Occurrence) (indices : List Nat), g { p with children := indices } = g p)
    (arena : Array Occurrence) (o : Occurrence) :
    (Tree.repeatsAfter [] (settle arena o).toList).map g =
      (Tree.repeatsAfter [] arena.toList).map g ++
        (Tree.repeatsAfter (arena.toList.map (·.node.identity))
          (childOccurrences o.index arena.size o.node.children)).map g := by
  rw [toList_settle, Tree.repeatsAfter_append, List.map_append, List.append_nil]
  let f (p : Occurrence) : Occurrence :=
    { p with children := List.range' arena.size o.node.children.length }
  refine congrArg₂ _
    (Tree.map_repeatsAfter_modify (f := f) (fun _ => rfl) (fun p => hg p _) _ _ _) ?_
  exact congrArg (fun seen => (Tree.repeatsAfter seen _).map g)
    (map_modify_of_forall (f := f) (fun _ => rfl) _ _)

/-- The slots after a round, as far as they were there before. -/
theorem getElem?_fields_round (o : Occurrence) {b : Building} {i : Nat}
    (hi : i < b.fields.size) :
    (round o b).fields[i]? =
      if o.index = i then
        some (fill o.node (List.range' b.arena.size o.node.children.length))
      else b.fields[i]? := by
  simp only [round, foldl_lay]
  rw [Array.getElem?_modify, Array.getElem?_append_left hi, Array.getElem?_eq_getElem hi]
  rfl

/-! ### The invariant -/

/-- Count, log and slots are those that are read off the arena, the slots of pending occurrences
    apart. -/
structure Agrees (root : Node) (b : Building) : Prop where
  laying : Laying root b.pending b.arena
  /-- What was met is what is laid out. -/
  seen : ∀ i, i ∈ b.seen ↔ i ∈ b.arena.toList.map (·.node.identity)
  shared : b.shared = (Tree.repeatsAfter [] b.arena.toList).length
  events : b.events = (Tree.repeatsAfter [] b.arena.toList).map (sharingEvent ⟨b.arena⟩)
  size_fields : b.fields.size = b.arena.size
  filled : ∀ {i : Nat} {o : Occurrence}, b.arena[i]? = some o →
    o ∈ b.pending ∨ b.fields[i]? = some (fill o.node o.children)

/-- The loop starts with it. -/
theorem Agrees.start (root : Node) : Agrees root (start root) where
  laying := Laying.start root
  seen := fun _ => Iff.rfl
  shared := rfl
  events := rfl
  size_fields := rfl
  filled := by
    intro i o h
    obtain ⟨hi, rfl⟩ := Array.getElem?_eq_some_iff.mp h
    simp only [Building.start, List.size_toArray, List.length_singleton, Nat.lt_one_iff] at hi
    exact .inl (by simp [Building.start, hi])

/-- A repeat has the same event when further children are laid out. -/
theorem sharingEvent_settle {root : Node} {pending : List Occurrence} {arena : Array Occurrence}
    (h : Laying root pending arena) (o : Occurrence) {q : Occurrence} (hq : q ∈ arena.toList) :
    sharingEvent ⟨settle arena o⟩ q = sharingEvent ⟨arena⟩ q := by
  obtain ⟨i, hi⟩ := List.mem_iff_getElem?.mp hq
  rw [Array.getElem?_toList] at hi
  have hparent : ((⟨settle arena o⟩ : Tree).parent? q).map (·.kind) =
      ((⟨arena⟩ : Tree).parent? q).map (·.kind) := by
    by_cases hroot : i = 0
    · -- the root hangs on nothing
      obtain ⟨r, hr, -, hlink⟩ := h.root_get
      rw [hroot, hr] at hi
      rw [← Option.some.inj hi, Tree.parent?, Tree.parent?, hlink]
      rfl
    · -- a parent stays of its kind
      obtain ⟨l, p, hlink, -, hp, -⟩ := h.linked hi hroot
      have hlt : l.parent < arena.size := (Array.getElem?_eq_some_iff.mp hp).1
      simp only [Tree.parent?, Tree.get?, hlink, Option.bind_some,
        getElem?_settle_of_lt o hlt, hp, Option.map_some]
      split_ifs <;> rfl
  rw [sharingEvent, sharingEvent, hparent]

/-- The event of a repeat among the children names the occurrence that they are laid out below. -/
theorem sharingEvent_child {arena : Array Occurrence} {o q : Occurrence}
    (ho : arena[o.index]? = some o) {first : Nat}
    (hq : q ∈ childOccurrences o.index first o.node.children) :
    sharingEvent ⟨settle arena o⟩ q = meetingEvent o q := by
  obtain ⟨k, e, -, rfl⟩ := mem_childOccurrences.mp hq
  have hparent : (⟨settle arena o⟩ : Tree).parent? (e.occurrence o.index (first + k)) =
      some { o with children := List.range' arena.size o.node.children.length } :=
    getElem?_settle_self ho
  rw [sharingEvent, hparent]
  rfl

/-- **Step.**  A round keeps it. -/
theorem Agrees.round {root : Node} {b : Building} {o : Occurrence} {rest : List Occurrence}
    (h : Agrees root b) (hpending : b.pending = o :: rest) :
    Agrees root (round o { b with pending := rest }) := by
  have hlaying : Laying root (o :: rest) b.arena := hpending ▸ h.laying
  have ho : b.arena[o.index]? = some o := hlaying.pending_get (by simp)
  have harena : (Building.round o { b with pending := rest }).arena = settle b.arena o :=
    arena_round (hlaying.index_lt (by simp))
  have hseen (os : List Occurrence) : Tree.repeatsAfter b.seen os =
      Tree.repeatsAfter (b.arena.toList.map (·.node.identity)) os :=
    Tree.repeatsAfter_congr h.seen os
  constructor
  case laying =>
    rw [harena, pending_round]
    exact hlaying.settle
  case seen =>
    intro i
    rw [harena, map_identity_settle, Building.round, foldl_lay]
    show i ∈ (o.node.children.map (·.node.identity)).reverse ++ b.seen ↔ _
    rw [List.mem_append, List.mem_append, List.mem_reverse, h.seen, or_comm]
  case shared =>
    have hlength := congrArg List.length
      (map_repeatsAfter_settle (g := fun _ => ()) (fun _ _ => rfl) b.arena o)
    simp only [List.length_append, List.length_map] at hlength
    rw [harena, hlength, Building.round, foldl_lay, ← h.shared, ← hseen]
  case events =>
    rw [harena, map_repeatsAfter_settle (fun _ _ => rfl), Building.round, foldl_lay, ← hseen]
    show b.events ++ _ = _
    rw [h.events]
    refine congrArg₂ _ (List.map_congr_left fun q hq => ?_) (List.map_congr_left fun q hq => ?_)
    · exact (sharingEvent_settle h.laying o (Tree.mem_of_mem_repeatsAfter hq)).symm
    · exact (sharingEvent_child ho (Tree.mem_of_mem_repeatsAfter hq)).symm
  case size_fields =>
    rw [harena, size_settle, Building.round, foldl_lay, Array.size_modify, Array.size_append,
      Array.size_replicate, h.size_fields]
  case filled =>
    intro i q hq
    rw [harena] at hq
    rw [pending_round]
    obtain ⟨hold, hne⟩ | ⟨p, hp, rfl, rfl⟩ | ⟨k, e, rfl, he, rfl⟩ := settle_cases hq
    · -- what is not taken off the stack stays as it is
      have hi : i < b.fields.size := h.size_fields ▸ (Array.getElem?_eq_some_iff.mp hold).1
      rw [getElem?_fields_round o (b := { b with pending := rest }) hi, if_neg hne]
      refine (h.filled hold).imp_left fun hmem => ?_
      rw [hpending] at hmem
      rcases List.mem_cons.mp hmem with rfl | hmem
      · exact absurd (hlaying.index_eq hold) hne
      · exact List.mem_append_right _ hmem
    · -- the occurrence itself gets its slots together with its children
      obtain rfl := hlaying.eq_of_pending (by simp) hp
      have hi : p.index < b.fields.size := h.size_fields ▸ hlaying.index_lt (by simp)
      rw [getElem?_fields_round p (b := { b with pending := rest }) hi, if_pos rfl]
      exact .inr rfl
    · -- the children are pending
      rw [List.mem_append, List.mem_reverse, mem_childOccurrences]
      exact .inl (.inl ⟨k, e, he, rfl⟩)

/-- **Run.**  The loop keeps it until nothing is pending. -/
theorem Agrees.run {root : Node} {b : Building} (h : Agrees root b) :
    Agrees root b.run ∧ b.run.pending = [] := by
  fun_induction Building.run b with
  | case1 b hpending => exact ⟨h, hpending⟩
  | case2 b o rest hpending ih => exact ih (h.round hpending)

/-- The loop makes the arena that laying out makes. -/
theorem Agrees.arena_run {root : Node} {b : Building} (h : Agrees root b) :
    b.run.arena = expand b.pending b.arena := by
  fun_induction Building.run b with
  | case1 b hpending => rw [hpending, expand]
  | case2 b o rest hpending ih =>
    have hlaying : Laying root (o :: rest) b.arena := hpending ▸ h.laying
    have harena : (Building.round o { b with pending := rest }).arena = settle b.arena o :=
      arena_round (hlaying.index_lt (by simp))
    rw [ih (h.round hpending), harena, pending_round, hpending, expand_cons]

/-- **Building.**  The loop leaves the arena of the tree, the number of its repeats, their events
    and, where names are distinct, its slots. -/
theorem run_start (root : Node) :
    (start root).run.arena = (Tree.ofRoot root).occurrences ∧
    (start root).run.shared = (Tree.ofRoot root).sharedCount ∧
    (start root).run.events = sharingEvents (Tree.ofRoot root) ∧
    ∀ {i : Nat} {o : Occurrence}, (Tree.ofRoot root).get? i = some o →
      ∃ slots, (start root).run.fields[i]? = some slots ∧
        (o.node.Distinct → ∀ prop, Fields.get? slots prop = o.slot? prop) := by
  obtain ⟨hagrees, hpending⟩ := (Agrees.start root).run
  have harena : (start root).run.arena = (Tree.ofRoot root).occurrences :=
    (Agrees.start root).arena_run
  refine ⟨harena, ?_, ?_, fun {i o} ho => ?_⟩
  · rw [hagrees.shared, harena]
    rfl
  · rw [hagrees.events, harena]
    rfl
  · have hfilled := hagrees.filled (i := i) (o := o) (harena ▸ ho)
    rw [hpending] at hfilled
    refine ⟨_, hfilled.resolve_left List.not_mem_nil, fun hd prop => ?_⟩
    exact o.get?_fill hd ((Tree.ofRoot_layout root).forall₂_children ho).length_eq.symm prop

end Building

end SymbolTags
