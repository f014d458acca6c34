import ChatModeration.Proofs.Store.Heap
import ChatModeration.Proofs.Store.KeyLists

/-!
# Well-formed shards

In a well-formed shard the two views describe the same items (`WellFormed`): heap entries and occupied slots point at
each other (`HeapSound`), the key lists share the occupied slots out among the keys, oldest first (`KeysSound`), and
the free list has the other slots (`FreeSound`).  Every operation keeps a shard well-formed.
-/

namespace ChatModeration.Store

variable {κ τ : Type}

theorem Item.eq_of_unplaced_eq {x y : Item κ τ} (h : x.unplaced = y.unplaced) :
    x.key = y.key ∧ x.expiresAt = y.expiresAt ∧ x.sequence = y.sequence := by
  cases x
  cases y
  simp_all [Item.unplaced]

/-- An item that is found again after the places have changed. -/
theorem item_of_map_eq {o p : Option (Item κ τ)} (h : o.map Item.unplaced = p.map Item.unplaced) {x : Item κ τ}
    (hx : o = some x) : ∃ y, p = some y ∧ x.key = y.key ∧ x.expiresAt = y.expiresAt ∧ x.sequence = y.sequence := by
  rw [hx, Option.map_some] at h
  obtain ⟨y, hy, hxy⟩ := Option.map_eq_some_iff.1 h.symm
  exact ⟨y, hy, Item.eq_of_unplaced_eq hxy.symm⟩

theorem map_unplaced_filter (now : Nat) (l : List (Item κ τ)) :
    (l.filter (now < ·.expiresAt)).map Item.unplaced = (l.map Item.unplaced).filter (now < ·.expiresAt) := by
  rw [List.filter_map]
  rfl

namespace Shard

/-- Heap entries and occupied slots point at each other, and the heap is ordered. -/
structure HeapSound (s : Shard κ τ) : Prop where
  nodup : s.heapSlots.Nodup
  mem_iff : ∀ slot, slot ∈ s.heapSlots ↔ (s.item? slot).isSome
  recorded : ∀ place, s.Recorded place
  expiry : ∀ e ∈ s.heap.toList, ∀ x, s.item? e.slot = some x → x.expiresAt = e.expiresAt
  ordered : s.Ordered

/-- The free list has exactly the vacated slots, each one once. -/
structure FreeSound (s : Shard κ τ) : Prop where
  nodup : s.free.Nodup
  mem_iff : ∀ slot, slot ∈ s.free ↔ slot < s.slots.size ∧ s.item? slot = none

/-- The item in the first slot, if both have one, was pushed before the item in the second one. -/
def PushedBefore (s : Shard κ τ) (a b : Nat) : Prop :=
  ∀ x y, s.item? a = some x → s.item? b = some y → x.sequence < y.sequence

/-- Each occupied slot stands in the list of the key of its item, and these lists are ascending. -/
structure KeysSound [DecidableEq κ] (s : Shard κ τ) : Prop where
  nodup : (s.keys.map (·.1)).Nodup
  nonempty : ∀ entry ∈ s.keys, entry.2 ≠ []
  listed : ∀ key, ∀ slot ∈ s.slotsOf key, ∃ x, s.item? slot = some x ∧ x.key = key
  ascending : ∀ key, (s.slotsOf key).Pairwise s.PushedBefore
  complete : ∀ slot x, s.item? slot = some x → slot ∈ s.slotsOf x.key
  pushed : ∀ slot x, s.item? slot = some x → x.sequence < s.pushed

/-- Both views describe the same items. -/
structure WellFormed [DecidableEq κ] (s : Shard κ τ) : Prop where
  heap : s.HeapSound
  free : s.FreeSound
  keys : s.KeysSound

theorem wellFormed_empty [DecidableEq κ] : ({} : Shard κ τ).WellFormed := by
  refine ⟨⟨List.nodup_nil, fun slot => ?_, fun place e he => ?_, fun e he => ?_, fun i _ hi => ?_⟩,
    ⟨List.nodup_nil, fun slot => ?_⟩,
    ⟨List.nodup_nil, fun e he => ?_, fun key slot hs => ?_, fun key => List.Pairwise.nil, fun slot x hx => ?_,
      fun slot x hx => ?_⟩⟩
  all_goals simp_all [heapSlots, item?, slotsOf]

/-! ### Taking an item out -/

/-- What is left of a shard without the item in a slot, as far as slots and heap go. -/
structure Without (s t : Shard κ τ) (slot : Nat) : Prop where
  pushed : t.pushed = s.pushed
  size : t.slots.size = s.slots.size
  gone : t.item? slot = none
  others : ∀ other, other ≠ slot → (t.item? other).map Item.unplaced = (s.item? other).map Item.unplaced
  heap : ∃ e : HeapEntry, e.slot = slot ∧ s.heap.toList.Perm (e :: t.heap.toList)

theorem Without.heapSlots {s t : Shard κ τ} {slot : Nat} (w : Without s t slot) :
    s.heapSlots.Perm (slot :: t.heapSlots) := by
  obtain ⟨e, rfl, hp⟩ := w.heap
  exact hp.map _

theorem Without.ne {s t : Shard κ τ} {slot other : Nat} (w : Without s t slot) (h : (t.item? other).isSome) :
    other ≠ slot := by
  rintro rfl
  rw [w.gone] at h
  cases h

theorem Without.heapSound {s t : Shard κ τ} {slot : Nat} (w : Without s t slot) (h : s.HeapSound)
    (hr : ∀ place, t.Recorded place) (ho : t.Ordered) : t.HeapSound := by
  have hcons := w.heapSlots.nodup_iff.1 h.nodup
  have hnotin : slot ∉ t.heapSlots := (List.nodup_cons.1 hcons).1
  refine ⟨hcons.of_cons, fun other => ?_, hr, fun e he x hx => ?_, ho⟩
  · by_cases hne : other = slot
    · subst hne
      simp [hnotin, w.gone]
    · rw [isSome_of_map_eq (w.others other hne), ← h.mem_iff, w.heapSlots.mem_iff, List.mem_cons]
      simp [hne]
  · obtain ⟨f, -, hp⟩ := w.heap
    have hmem : e ∈ s.heap.toList := hp.mem_iff.2 (List.mem_cons_of_mem _ he)
    have hne : e.slot ≠ slot := w.ne (by rw [hx]; rfl)
    obtain ⟨y, hy, -, hexp, -⟩ := item_of_map_eq (w.others e.slot hne) hx
    rw [hexp]
    exact h.expiry e hmem y hy

theorem Without.freeSound {s t : Shard κ τ} {slot : Nat} (w : Without s t slot) (h : s.FreeSound)
    (hs : (s.item? slot).isSome) (hf : t.free = slot :: s.free) : t.FreeSound := by
  have hlt : slot < s.slots.size := by
    by_contra hge
    simp [item?, Nat.le_of_not_lt hge] at hs
  have hnotin : slot ∉ s.free := by
    intro hmem
    rw [((h.mem_iff slot).1 hmem).2] at hs
    cases hs
  refine ⟨?_, fun other => ?_⟩
  · rw [hf]
    exact List.nodup_cons.2 ⟨hnotin, h.nodup⟩
  · rw [hf, List.mem_cons, w.size, h.mem_iff]
    by_cases hne : other = slot
    · subst hne
      simp [hlt, w.gone]
    · have hnone := isSome_of_map_eq (w.others other hne)
      rw [← Option.not_isSome_iff_eq_none, ← Option.not_isSome_iff_eq_none, hnone]
      simp [hne]

theorem item?_vacate {s : Shard κ τ} (slot other : Nat) :
    (s.vacate slot).item? other = if slot = other then none else s.item? other := by
  simp only [vacate, item?, Array.getElem?_setIfInBounds]
  split
  · split <;> rfl
  · rfl

theorem Recorded.vacate {s : Shard κ τ} {place : Nat} (h : s.Recorded place) (slot : Nat) :
    (s.vacate slot).Recorded place := by
  intro e he x hx
  rw [item?_vacate] at hx
  split at hx
  · cases hx
  · exact h e he x hx

/-- The heap entry of an item stands at the place that the item records. -/
theorem HeapSound.entry {s : Shard κ τ} (h : s.HeapSound) {slot : Nat} {x : Item κ τ} (hx : s.item? slot = some x) :
    ∃ e, s.heap[x.heapPlace]? = some e ∧ e.slot = slot := by
  have hmem : slot ∈ s.heapSlots := (h.mem_iff slot).2 (by rw [hx]; rfl)
  obtain ⟨i, e, he, rfl⟩ := mem_heapSlots.1 hmem
  rw [h.recorded i e he x hx]
  exact ⟨e, he, rfl⟩

/-- The slot is vacated before its heap entry is removed. -/
theorem without_vacate_removeAt {s : Shard κ τ} {place : Nat} {e : HeapEntry} (he : s.heap[place]? = some e) :
    Without s ((s.vacate e.slot).removeAt place) e.slot := by
  have hs := sameItems_removeAt (s.vacate e.slot) place
  refine ⟨hs.pushed, hs.size.trans (by simp [vacate]), ?_, fun other hne => ?_, e, rfl, ?_⟩
  · have := hs.items e.slot
    rw [item?_vacate, if_pos rfl, Option.map_none, Option.map_eq_none_iff] at this
    exact this
  · rw [hs.items, item?_vacate, if_neg (Ne.symm hne)]
  · exact heap_removeAt_perm (s := s.vacate e.slot) he

/-- The slot is vacated after its heap entry has been removed. -/
theorem without_removeAt_vacate {s : Shard κ τ} {place : Nat} {e : HeapEntry} (he : s.heap[place]? = some e) :
    Without s ((s.removeAt place).vacate e.slot) e.slot := by
  have hs := sameItems_removeAt s place
  refine ⟨hs.pushed, by simpa [vacate] using hs.size, ?_, fun other hne => ?_, e, rfl, ?_⟩
  · rw [item?_vacate, if_pos rfl]
  · rw [item?_vacate, if_neg (Ne.symm hne), hs.items]
  · exact heap_removeAt_perm he

theorem HeapSound.vacate_removeAt {s : Shard κ τ} (h : s.HeapSound) {place : Nat} {e : HeapEntry}
    (he : s.heap[place]? = some e) : ((s.vacate e.slot).removeAt place).HeapSound := by
  have hr : ∀ k, (s.vacate e.slot).Recorded k := fun k => (h.recorded k).vacate e.slot
  refine (without_vacate_removeAt he).heapSound h (recorded_removeAt hr place) ?_
  exact ordered_removeAt (s := s.vacate e.slot) h.ordered place

theorem HeapSound.removeAt_vacate {s : Shard κ τ} (h : s.HeapSound) {place : Nat} {e : HeapEntry}
    (he : s.heap[place]? = some e) : ((s.removeAt place).vacate e.slot).HeapSound := by
  have hr : ∀ k, ((s.removeAt place).vacate e.slot).Recorded k := fun k =>
    (recorded_removeAt h.recorded place k).vacate e.slot
  exact (without_removeAt_vacate he).heapSound h hr (ordered_removeAt h.ordered place)

theorem HeapSound.release {s : Shard κ τ} (h : s.HeapSound) (slot : Nat) : (s.release slot).HeapSound :=
  ⟨h.nodup, h.mem_iff, h.recorded, h.expiry, h.ordered⟩

theorem Without.release {s t : Shard κ τ} {slot : Nat} (w : Without s t slot) : Without s (t.release slot) slot :=
  ⟨w.pushed, w.size, w.gone, w.others, w.heap⟩

/-- An item that is dropped leaves the slots and the heap sound. -/
theorem drop_spec {s : Shard κ τ} (hh : s.HeapSound) (hf : s.FreeSound) {slot : Nat} (hs : (s.item? slot).isSome) :
    Without s (s.drop slot) slot ∧ (s.drop slot).HeapSound ∧ (s.drop slot).FreeSound ∧
      (s.drop slot).keys = s.keys := by
  obtain ⟨x, hx⟩ := Option.isSome_iff_exists.1 hs
  obtain ⟨e, he, rfl⟩ := hh.entry hx
  have hkeep := sameItems_removeAt (s.vacate e.slot) x.heapPlace
  have hdrop : s.drop e.slot = ((s.vacate e.slot).removeAt x.heapPlace).release e.slot := by rw [drop, hx]
  have hw := (without_vacate_removeAt he).release
  rw [hdrop]
  exact ⟨hw, (hh.vacate_removeAt he).release _, hw.freeSound hf hs (congrArg (e.slot :: ·) hkeep.free), hkeep.keys⟩

/-- Dropping the items in some slots, one after the other. -/
theorem foldl_drop_spec {s : Shard κ τ} (hh : s.HeapSound) (hf : s.FreeSound) {slots : List Nat} (hn : slots.Nodup)
    (hs : ∀ slot ∈ slots, (s.item? slot).isSome) :
    (slots.foldl drop s).HeapSound ∧ (slots.foldl drop s).FreeSound ∧ (slots.foldl drop s).keys = s.keys ∧
      (slots.foldl drop s).pushed = s.pushed ∧
      (slots.foldl drop s).heap.size + slots.length = s.heap.size ∧
      (∀ slot ∈ slots, (slots.foldl drop s).item? slot = none) ∧
      ∀ slot, slot ∉ slots →
        ((slots.foldl drop s).item? slot).map Item.unplaced = (s.item? slot).map Item.unplaced := by
  induction slots generalizing s with
  | nil => exact ⟨hh, hf, rfl, rfl, rfl, fun _ h => absurd h List.not_mem_nil, fun _ _ => rfl⟩
  | cons slot slots ih =>
    rw [List.nodup_cons] at hn
    obtain ⟨w, hh', hf', hk⟩ := drop_spec hh hf (hs slot List.mem_cons_self)
    have hne : ∀ a ∈ slots, a ≠ slot := fun a ha h => hn.1 (h ▸ ha)
    have hlen : (s.drop slot).heap.size + 1 = s.heap.size := by
      have := w.heapSlots.length_eq
      rw [List.length_cons, length_heapSlots, length_heapSlots] at this
      exact this.symm
    obtain ⟨ihh, ihf, ihk, ihp, ihl, ihg, iho⟩ := ih hh' hf' hn.2 fun a ha => by
      rw [isSome_of_map_eq (w.others a (hne a ha))]
      exact hs a (List.mem_cons_of_mem _ ha)
    rw [List.foldl_cons]
    refine ⟨ihh, ihf, ihk.trans hk, ihp.trans w.pushed, ?_, fun a ha => ?_, fun a ha => ?_⟩
    · rw [List.length_cons]
      omega
    -- the slot that is vacated first stays vacant, since the others are not this one
    · rcases List.mem_cons.1 ha with rfl | ha
      · have hgone := isSome_of_map_eq (iho a hn.1)
        rw [w.gone] at hgone
        exact Option.not_isSome_iff_eq_none.1 (by rw [hgone]; simp)
      · exact ihg a ha
    · rw [List.mem_cons, not_or] at ha
      rw [iho a ha.2, w.others a ha.1]

/-! ### The root of the heap -/

/-- The entry at the root of an ordered heap expires before the others or with them. -/
theorem Ordered.due_zero_le {s : Shard κ τ} (h : s.Ordered) (i : Nat) (hi : i < s.heap.size) : s.due 0 ≤ s.due i := by
  induction i using Nat.strongRecOn with
  | ind i ih =>
    by_cases h0 : i = 0
    · subst h0
      exact Nat.le_refl _
    · have hp := parent_lt h0
      exact Nat.le_trans (ih (parent i) hp (by omega)) (h i (by omega) hi)

/-- No item expires before the root of the heap says. -/
theorem HeapSound.root_le {s : Shard κ τ} (h : s.HeapSound) {top : HeapEntry} (ht : s.heap[0]? = some top)
    {slot : Nat} {x : Item κ τ} (hx : s.item? slot = some x) : top.expiresAt ≤ x.expiresAt := by
  obtain ⟨e, he, rfl⟩ := h.entry hx
  have hmem : e ∈ s.heap.toList := List.mem_iff_getElem?.2 ⟨x.heapPlace, by simpa using he⟩
  have hle := h.ordered.due_zero_le x.heapPlace (Array.getElem?_eq_some_iff.1 he).1
  rw [due, due, ht, he] at hle
  rw [h.expiry e hmem x hx]
  exact hle

/-- The item that the root of the heap points at. -/
theorem HeapSound.root_item {s : Shard κ τ} (h : s.HeapSound) {top : HeapEntry} (ht : s.heap[0]? = some top) :
    ∃ x, s.item? top.slot = some x ∧ x.expiresAt = top.expiresAt := by
  have hmem : top ∈ s.heap.toList := List.mem_iff_getElem?.2 ⟨0, by simpa using ht⟩
  obtain ⟨x, hx⟩ := Option.isSome_iff_exists.1 ((h.mem_iff top.slot).1 (List.mem_map.2 ⟨top, hmem, rfl⟩))
  exact ⟨x, hx, h.expiry top hmem x hx⟩

end Shard

end ChatModeration.Store
