import ChatModeration.Proofs.Store.Operations

/-!
# The two views of a shard

Whatever is done to a shard, one change after the other and at any times, its key lists and its heap describe the same
items, and the free list has the other slots (`consistent_run`).  The numbers of the items stay below the number of
pushes, so they fit into a word as long as the pushes can be counted in one.
-/

namespace ChatModeration.Store

variable {κ τ : Type}

/-- Something that is done to a shard. -/
inductive Change (κ τ : Type) where
  | push (key : κ) (payload : τ) (now expiresAt : Nat)
  | clear (key : κ)
  | reclaim (now : Nat)

/-- Whether a change is a push. -/
def Change.isPush : Change κ τ → Bool
  | push .. => true
  | _ => false

namespace Shard

/-- Both views describe the same items, and the free list has the vacated slots. -/
structure Consistent (s : Shard κ τ) : Prop where
  /-- A heap entry points at an item that records its place and its time. -/
  entry_item : ∀ (place : Nat) (e : HeapEntry), s.heap[place]? = some e →
    ∃ x, s.item? e.slot = some x ∧ x.heapPlace = place ∧ x.expiresAt = e.expiresAt
  /-- An occupied slot occurs in the heap once. -/
  item_entry : ∀ slot, (s.item? slot).isSome → s.heapSlots.count slot = 1
  heap_order : ∀ (place : Nat) (e f : HeapEntry), 0 < place → s.heap[parent place]? = some e →
    s.heap[place]? = some f → e.expiresAt ≤ f.expiresAt
  /-- A key has one list. -/
  list_unique : (s.keys.map (·.1)).Nodup
  list_nonempty : ∀ key slots, (key, slots) ∈ s.keys → slots ≠ []
  /-- The list of a key names items of that key. -/
  list_item : ∀ key slots, (key, slots) ∈ s.keys → ∀ slot ∈ slots, ∃ x, s.item? slot = some x ∧ x.key = key
  list_ascending : ∀ key slots, (key, slots) ∈ s.keys →
    ((slots.filterMap s.item?).map (·.sequence)).Pairwise (· < ·)
  /-- An occupied slot occurs in one list once. -/
  item_list : ∀ slot, (s.item? slot).isSome → (s.keys.flatMap (·.2)).count slot = 1
  free_nodup : s.free.Nodup
  mem_free : ∀ slot, slot ∈ s.free ↔ slot < s.slots.size ∧ s.item? slot = none
  sequence_lt : ∀ slot x, s.item? slot = some x → x.sequence < s.pushed

variable [DecidableEq κ]

/-- The shard after a change. -/
def change (s : Shard κ τ) : Change κ τ → Shard κ τ
  | .push key payload now expiresAt => s.push key payload now expiresAt
  | .clear key => (s.clear key).1
  | .reclaim now => (s.reclaim now).1

/-- The shard after some changes, one after the other. -/
def run (s : Shard κ τ) (changes : List (Change κ τ)) : Shard κ τ := changes.foldl change s

theorem WellFormed.change {s : Shard κ τ} (h : s.WellFormed) (c : Change κ τ) : (s.change c).WellFormed := by
  cases c with
  | push key payload now expiresAt => exact h.push key payload now expiresAt
  | clear key => exact (clear_spec h key).2.1
  | reclaim now => exact (reclaim_spec h now).1

theorem WellFormed.run {s : Shard κ τ} (h : s.WellFormed) (changes : List (Change κ τ)) :
    (s.run changes).WellFormed := by
  induction changes generalizing s with
  | nil => exact h
  | cons c changes ih => exact ih (h.change c)

theorem WellFormed.consistent {s : Shard κ τ} (h : s.WellFormed) : s.Consistent where
  entry_item place e he := by
    have hmem : e ∈ s.heap.toList := List.mem_iff_getElem?.2 ⟨place, by simpa using he⟩
    obtain ⟨x, hx⟩ := Option.isSome_iff_exists.1 ((h.heap.mem_iff e.slot).1 (List.mem_map.2 ⟨e, hmem, rfl⟩))
    exact ⟨x, hx, h.heap.recorded place e he x hx, h.heap.expiry e hmem x hx⟩
  item_entry slot hs := List.count_eq_one_of_mem h.heap.nodup ((h.heap.mem_iff slot).2 hs)
  heap_order place e f h0 he hf := by
    have := h.heap.ordered place h0 (Array.getElem?_eq_some_iff.1 hf).1
    rw [due, due, he, hf] at this
    exact this
  list_unique := h.keys.nodup
  list_nonempty key slots hm := h.keys.nonempty _ hm
  list_item key slots hm slot hs := by
    rw [← h.keys.slotsOf_of_mem hm] at hs
    exact h.keys.listed key slot hs
  list_ascending key slots hm := by
    rw [List.pairwise_map, List.pairwise_filterMap, ← h.keys.slotsOf_of_mem hm]
    exact (h.keys.ascending key).imp fun hab x hx y hy => hab x y hx hy
  item_list slot hs := List.count_eq_one_of_mem h.keys.nodup_flatMap ((h.keys.mem_flatMap slot).2 hs)
  free_nodup := h.free.nodup
  mem_free := h.free.mem_iff
  sequence_lt := h.keys.pushed

theorem pushed_reclaim (s : Shard κ τ) (now : Nat) : (s.reclaim now).1.pushed = s.pushed := by
  fun_induction reclaim s now with
  | case1 => rfl
  | case2 => rfl
  | case3 s top _ _ rest _ ih => exact ih.trans (sameItems_removeAt s 0).pushed
  | case4 s top _ _ rest x _ final n hrec ih =>
    rw [hrec] at ih
    exact ih.trans (sameItems_removeAt s 0).pushed

theorem pushed_change {s : Shard κ τ} (h : s.WellFormed) (c : Change κ τ) :
    (s.change c).pushed = s.pushed + if c.isPush then 1 else 0 := by
  cases c with
  | push key payload now expiresAt =>
    show (s.push key payload now expiresAt).pushed = s.pushed + 1
    rw [push_eq]
    exact pushed_insert s _
  | clear key => exact (clear_spec h key).1.pushed
  | reclaim now => exact pushed_reclaim s now

theorem pushed_run {s : Shard κ τ} (h : s.WellFormed) (changes : List (Change κ τ)) :
    (s.run changes).pushed = s.pushed + changes.countP Change.isPush := by
  induction changes generalizing s with
  | nil => rfl
  | cons c changes ih =>
    show ((s.change c).run changes).pushed = _
    rw [ih (h.change c), pushed_change h, List.countP_cons]
    omega

/-- After any changes, from a shard without items, the views are consistent, and items are numbered by the pushes. -/
theorem consistent_run (changes : List (Change κ τ)) :
    (({} : Shard κ τ).run changes).Consistent ∧
      (({} : Shard κ τ).run changes).pushed = changes.countP Change.isPush := by
  refine ⟨(wellFormed_empty.run changes).consistent, ?_⟩
  rw [pushed_run wellFormed_empty]
  exact Nat.zero_add _

end Shard

end ChatModeration.Store
