import ChatModeration.Proofs.Store.Consistency
import ChatModeration.Proofs.Store.Contents
import Mathlib.Data.List.Induction
import Mathlib.Order.Bounds.Basic

/-!
# The slots of a shard

Every slot of a shard has an item or is free, and is free once (`WellFormed.perm_range`).  A push takes a free slot and
makes a new one only if there is none; nothing else makes slots, and none is ever given up.  So the slots are as many
as the items that the shard has had at one time at most (`slots_run`).
-/

namespace ChatModeration.Store.Shard

variable {κ τ : Type}

/-- The number of items that a shard holds. -/
def held (s : Shard κ τ) : Nat := s.slots.toList.countP Option.isSome

/-- Any list of the occupied slots tells their number. -/
theorem held_eq_length {s : Shard κ τ} {slots : List Nat} (hn : slots.Nodup)
    (h : ∀ slot, slot ∈ slots ↔ (s.item? slot).isSome) : s.held = slots.length := by
  have hperm : ((List.range s.slots.size).filter fun slot => (s.item? slot).isSome).Perm slots := by
    refine (List.perm_ext_iff_of_nodup (List.nodup_range.filter _) hn).2 fun slot => ?_
    rw [List.mem_filter, List.mem_range, h]
    exact ⟨fun hslot => hslot.2, fun hslot => ⟨lt_of_isSome hslot, hslot⟩⟩
  rw [held, toList_slots, List.countP_map, List.countP_eq_length_filter, ← hperm.length_eq]
  rfl

theorem HeapSound.size_heap {s : Shard κ τ} (h : s.HeapSound) : s.heap.size = s.held := by
  rw [held_eq_length h.nodup h.mem_iff, length_heapSlots]

theorem KeysSound.length_flatMap [DecidableEq κ] {s : Shard κ τ} (h : s.KeysSound) :
    (s.keys.flatMap (·.2)).length = s.held := (held_eq_length h.nodup_flatMap h.mem_flatMap).symm

/-- Each slot is occupied or free, and occurs once in the heap or once in the free list. -/
theorem perm_range {s : Shard κ τ} (hh : s.HeapSound) (hf : s.FreeSound) :
    (s.heapSlots ++ s.free).Perm (List.range s.slots.size) := by
  have hdisjoint : s.heapSlots.Disjoint s.free := by
    intro slot hheap hfree
    have hsome := (hh.mem_iff slot).1 hheap
    rw [((hf.mem_iff slot).1 hfree).2] at hsome
    cases hsome
  refine (List.perm_ext_iff_of_nodup (hh.nodup.append hf.nodup hdisjoint) List.nodup_range).2 fun slot => ?_
  rw [List.mem_append, hh.mem_iff, hf.mem_iff, List.mem_range]
  constructor
  · rintro (hsome | hfree)
    · exact lt_of_isSome hsome
    · exact hfree.1
  · intro hlt
    by_cases hsome : (s.item? slot).isSome
    · exact .inl hsome
    · exact .inr ⟨hlt, Option.not_isSome_iff_eq_none.1 hsome⟩

/-- The slots are those of the items and the free ones. -/
theorem size_slots {s : Shard κ τ} (hh : s.HeapSound) (hf : s.FreeSound) :
    s.slots.size = s.held + s.free.length := by
  have hlength := (perm_range hh hf).length_eq
  rw [List.length_append, length_heapSlots, hh.size_heap, List.length_range] at hlength
  exact hlength.symm

/-! ### What changes the number of slots -/

theorem size_slots_drop (s : Shard κ τ) (slot : Nat) : (s.drop slot).slots.size = s.slots.size := by
  unfold drop
  split
  · rfl
  · next x _ =>
    show ((s.vacate slot).removeAt x.heapPlace).slots.size = s.slots.size
    rw [(sameItems_removeAt _ _).size, vacate, Array.size_setIfInBounds]

variable [DecidableEq κ]

theorem size_slots_clear (s : Shard κ τ) (key : κ) : (s.clear key).1.slots.size = s.slots.size := by
  have hfold : ∀ (slots : List Nat) (t : Shard κ τ), (slots.foldl drop t).slots.size = t.slots.size := by
    intro slots
    induction slots with
    | nil => exact fun t => rfl
    | cons slot slots ih => exact fun t => (ih (t.drop slot)).trans (size_slots_drop t slot)
  exact hfold (s.slotsOf key) { s with keys := dropKey key s.keys }

theorem size_slots_reclaim (s : Shard κ τ) (now : Nat) : (s.reclaim now).1.slots.size = s.slots.size := by
  fun_induction reclaim s now with
  | case1 => rfl
  | case2 => rfl
  | case3 s top _ _ rest _ ih => exact ih.trans (sameItems_removeAt s 0).size
  | case4 s top _ _ rest x _ final n hrec ih =>
    rw [hrec] at ih
    refine ih.trans ?_
    show ((s.removeAt 0).vacate top.slot).slots.size = s.slots.size
    rw [vacate, Array.size_setIfInBounds, (sameItems_removeAt s 0).size]

/-- A push takes a free slot, and makes a new one only where there is none. -/
theorem slots_push (s : Shard κ τ) (key : κ) (payload : τ) (now expiresAt : Nat) :
    (s.push key payload now expiresAt).free = s.free.tail ∧
      (s.push key payload now expiresAt).slots.size = if s.free = [] then s.slots.size + 1 else s.slots.size := by
  let x := s.newItem key payload now expiresAt
  -- the sift moves the new entry only, so that slots are as the choice of the slot leaves them
  have hkeep : SameItems (s.addLast x) (s.insert x) := sameItems_siftUp _ _
  rw [push_eq]
  show (s.insert x).free = _ ∧ (s.insert x).slots.size = _
  rw [hkeep.free, hkeep.size]
  show (s.place x).2.free = _ ∧ (s.place x).2.slots.size = _
  rw [place]
  rcases s.free with _ | ⟨slot, rest⟩
  · simp
  · simp

/-- A new slot is made only where all slots are occupied, so that the shard then holds more items than it has slots. -/
theorem size_slots_push {s : Shard κ τ} (h : s.WellFormed) (key : κ) (payload : τ) (now expiresAt : Nat) :
    (s.push key payload now expiresAt).slots.size =
      max s.slots.size (s.push key payload now expiresAt).held := by
  have hnow := h.push key payload now expiresAt
  have hheld := size_slots hnow.heap hnow.free
  obtain ⟨hfree, hsize⟩ := slots_push s key payload now expiresAt
  by_cases hnone : s.free = []
  · rw [hfree, hnone, List.tail_nil, List.length_nil, Nat.add_zero] at hheld
    rw [if_pos hnone] at hsize
    rw [max_eq_right (by omega), hheld]
  · rw [if_neg hnone] at hsize
    rw [max_eq_left (by omega), hsize]

/-- A change that makes no slot leaves at most as many items as there are slots. -/
theorem size_slots_of_kept {s t : Shard κ τ} (ht : t.WellFormed) (hsize : t.slots.size = s.slots.size) :
    t.slots.size = max s.slots.size t.held := by
  have hheld := size_slots ht.heap ht.free
  rw [max_eq_left (by omega), hsize]

theorem size_slots_change {s : Shard κ τ} (h : s.WellFormed) (c : Change κ τ) :
    (s.change c).slots.size = max s.slots.size (s.change c).held := by
  cases c with
  | push key payload now expiresAt => exact size_slots_push h key payload now expiresAt
  | clear key => exact size_slots_of_kept (h.change (.clear key)) (size_slots_clear s key)
  | reclaim now => exact size_slots_of_kept (h.change (.reclaim now)) (size_slots_reclaim s now)

/-! ### Runs -/

theorem run_concat (s : Shard κ τ) (changes : List (Change κ τ)) (c : Change κ τ) :
    s.run (changes ++ [c]) = (s.run changes).change c := List.foldl_concat ..

/-- The numbers of items that a shard without items at first holds in the course of some changes. -/
def everHeld (changes : List (Change κ τ)) : Set Nat :=
  {n | ∃ done, done <+: changes ∧ (({} : Shard κ τ).run done).held = n}

theorem everHeld_nil : everHeld ([] : List (Change κ τ)) = {0} := by
  ext n
  constructor
  · rintro ⟨done, hdone, rfl⟩
    rw [List.prefix_nil.1 hdone]
    rfl
  · rintro rfl
    exact ⟨[], List.prefix_rfl, rfl⟩

theorem everHeld_concat (changes : List (Change κ τ)) (c : Change κ τ) :
    everHeld (changes ++ [c]) = everHeld changes ∪ {(({} : Shard κ τ).run (changes ++ [c])).held} := by
  ext n
  constructor
  · rintro ⟨done, hdone, rfl⟩
    rcases List.prefix_concat_iff.1 hdone with rfl | hdone
    · exact .inr rfl
    · exact .inl ⟨done, hdone, rfl⟩
  · rintro (⟨done, hdone, rfl⟩ | rfl)
    · exact ⟨done, hdone.trans (List.prefix_append _ _), rfl⟩
    · exact ⟨_, List.prefix_rfl, rfl⟩

theorem isGreatest_everHeld (changes : List (Change κ τ)) :
    IsGreatest (everHeld changes) (({} : Shard κ τ).run changes).slots.size := by
  induction changes using List.reverseRecOn with
  | nil =>
    rw [everHeld_nil]
    exact isGreatest_singleton
  | append_singleton changes c ih =>
    rw [everHeld_concat, run_concat, size_slots_change (wellFormed_empty.run changes)]
    exact ih.union isGreatest_singleton

/-- Slots are as many as the items that the shard has held at one time at most, and each one has an item or is free. -/
theorem slots_run (changes : List (Change κ τ)) :
    let s := ({} : Shard κ τ).run changes
    IsGreatest (everHeld changes) s.slots.size ∧ s.slots.size = s.held + s.free.length ∧
      s.held = s.heap.size ∧ s.held = (s.keys.flatMap (·.2)).length := by
  intro s
  have hw : s.WellFormed := wellFormed_empty.run changes
  exact ⟨isGreatest_everHeld changes, size_slots hw.heap hw.free, hw.heap.size_heap.symm,
    hw.keys.length_flatMap.symm⟩

/-- Two items of a cleared key leave two free slots, of which the next item takes one. -/
example :
    let s := ({} : Shard Nat Nat).run [.push 1 0 0 9, .push 1 0 0 9, .clear 1, .push 2 0 0 9]
    s.slots.size = 2 ∧ s.held = 1 ∧ s.free.length = 1 := by
  decide +kernel

end ChatModeration.Store.Shard
