import ChatModeration.Proofs.Store.Consistency
import Mathlib.Algebra.Group.Nat.Defs

/-!
# Removal from the heap of a shard

Taking the entry at a place out of an ordered heap, in which items record the places of their entries, takes out that
entry and no other one, and leaves an ordered heap with every place recorded (`removed_removeAt`).  The last entry
takes the free place.  It may be in a wrong order to what is above it or to what is below it there, and moves up or
down, or stays.  Either way it moves at most once for each level of the heap (`exists_rises`, `exists_sinks`).
-/

namespace ChatModeration.Store.Shard

variable {κ τ : Type}

/-! ### The rounds of a sift -/

/-- An entry goes up from a place in some rounds, with one exchange each, until it is the first or in order. -/
inductive Rises : Shard κ τ → Nat → Nat → Shard κ τ → Prop where
  | first (s : Shard κ τ) : Rises s 0 0 s
  | inOrder {s : Shard κ τ} {place : Nat} (h : s.sooner place (parent place) = false) : Rises s place 0 s
  | exchange {s t : Shard κ τ} {place rounds : Nat} (h0 : place ≠ 0) (h : s.sooner place (parent place) = true)
      (rest : Rises (s.exchange place (parent place)) (parent place) rounds t) : Rises s place (rounds + 1) t

/-- An entry goes down from a place in some rounds, with one exchange each, until it is in order at the last place. -/
inductive Sinks : Shard κ τ → Nat → Nat → Shard κ τ × Nat → Prop where
  | inOrder {s : Shard κ τ} {place : Nat} (h : s.earliest place = place) : Sinks s place 0 (s, place)
  | exchange {s : Shard κ τ} {place rounds : Nat} {final : Shard κ τ × Nat} (h : s.earliest place ≠ place)
      (rest : Sinks (s.exchange place (s.earliest place)) (s.earliest place) rounds final) :
      Sinks s place (rounds + 1) final

/-- Each round halves the number of the place. -/
theorem exists_rises (s : Shard κ τ) (place : Nat) :
    ∃ rounds, 2 ^ rounds ≤ place + 1 ∧ Rises s place rounds (s.liftUp place) := by
  fun_induction liftUp s place with
  | case1 s => exact ⟨0, Nat.le_refl 1, .first s⟩
  | case2 s place h0 hs ih =>
    obtain ⟨rounds, hle, hrest⟩ := ih
    refine ⟨rounds + 1, ?_, .exchange h0 hs hrest⟩
    rw [Nat.pow_succ]
    unfold parent at hle
    omega
  | case3 s place h0 hs => exact ⟨0, by omega, .inOrder (Bool.eq_false_iff.2 hs)⟩

/-- Each round doubles the number of the place, and the place stays within the heap. -/
theorem exists_sinks {s : Shard κ τ} {place : Nat} (hp : place < s.heap.size) :
    ∃ rounds, 2 ^ rounds * (place + 1) ≤ s.heap.size ∧ Sinks s place rounds (s.siftDown place) := by
  fun_induction siftDown s place with
  | case1 s place e he => exact ⟨0, by omega, .inOrder he⟩
  | case2 s place e hne ih =>
    obtain ⟨hcase, hes, -⟩ := earliest_spec hp
    obtain ⟨hpar, he0⟩ := hcase.resolve_left hne
    obtain ⟨rounds, hle, hrest⟩ := ih (by rw [size_heap_exchange]; exact hes)
    rw [size_heap_exchange] at hle
    have hbelow : 2 * (place + 1) ≤ e + 1 := by unfold parent at hpar; omega
    refine ⟨rounds + 1, ?_, .exchange hne hrest⟩
    calc 2 ^ (rounds + 1) * (place + 1) = 2 ^ rounds * (2 * (place + 1)) := by rw [Nat.pow_succ, Nat.mul_assoc]
      _ ≤ 2 ^ rounds * (e + 1) := Nat.mul_le_mul_left _ hbelow
      _ ≤ s.heap.size := hle

/-! ### The removal of an entry -/

/-- What is left of a shard when the heap entry at a place is removed. -/
structure Removed (s t : Shard κ τ) (place : Nat) : Prop where
  /-- Beyond the heap there is no entry to remove. -/
  beyond : s.heap.size ≤ place → t = s
  /-- The entry at the place is gone, and all others are there as often as before. -/
  entries : ∀ e, s.heap[place]? = some e → s.heap.toList.Perm (e :: t.heap.toList)
  ordered : t.Ordered
  recorded : ∀ k, t.Recorded k
  /-- An item whose entry stood at another place records where this entry stands now. -/
  found : ∀ (other : Nat) (e : HeapEntry), other ≠ place → s.heap[other]? = some e →
    ∀ x, t.item? e.slot = some x → t.heap[x.heapPlace]? = some e
  sameItems : SameItems s t

/-- An entry that an item points back at is left unless it stands at the place of the removal. -/
theorem mem_heap_removeAt {s : Shard κ τ} (hr : ∀ k, s.Recorded k) {place other : Nat} {e : HeapEntry}
    (hne : other ≠ place) (he : s.heap[other]? = some e) (hsome : (s.item? e.slot).isSome) :
    e ∈ (s.removeAt place).heap.toList := by
  have hmem : e ∈ s.heap.toList := List.mem_iff_getElem?.2 ⟨other, by simpa using he⟩
  rcases hf : s.heap[place]? with _ | f
  · have hge : ¬ place < s.heap.size := Nat.not_lt.2 (Array.getElem?_eq_none_iff.1 hf)
    rw [removeAt, if_neg hge]
    exact hmem
  · rcases List.mem_cons.1 ((heap_removeAt_perm hf).mem_iff.1 hmem) with rfl | h
    · exact absurd ((apart_of_recorded hr).place_unique he hf rfl hsome) hne
    · exact h

/--
In an ordered heap in which every place is recorded, the removal at a place takes out the entry at it and no other one,
and leaves the heap ordered and every place recorded.  Moving entries up or down comes to an end, after at most as many
exchanges as the heap has levels, and changes nothing but the order of the heap and the places that items record.
-/
theorem removed_removeAt (s : Shard κ τ) (ho : s.Ordered) (hr : ∀ k, s.Recorded k) (place : Nat) :
    Removed s (s.removeAt place) place ∧
      ∀ (t : Shard κ τ) (k : Nat), k < t.heap.size →
        (SameItems t (t.siftUp k) ∧ ∃ rounds, 2 ^ rounds ≤ k + 1 ∧ Rises (t.recordPlace k) k rounds (t.siftUp k)) ∧
          SameItems t (t.siftDown k).1 ∧
            ∃ rounds, 2 ^ rounds * (k + 1) ≤ t.heap.size ∧ Sinks t k rounds (t.siftDown k) := by
  have hkeep := sameItems_removeAt s place
  have hrecorded := recorded_removeAt hr place
  refine ⟨⟨fun hge => ?_, fun e he => heap_removeAt_perm he, ordered_removeAt ho place, hrecorded, ?_, hkeep⟩, ?_⟩
  · rw [removeAt, if_neg (Nat.not_lt.2 hge)]
  · intro other e hne he x hx
    have hsome : (s.item? e.slot).isSome := by
      rw [← isSome_of_map_eq (hkeep.items e.slot), hx]
      rfl
    obtain ⟨i, hi⟩ := List.mem_iff_getElem?.1 (mem_heap_removeAt hr hne he hsome)
    have hi' : (s.removeAt place).heap[i]? = some e := by simpa using hi
    rw [hrecorded i e hi' x hx]
    exact hi'
  · intro t k hk
    exact ⟨⟨sameItems_siftUp t k, exists_rises (t.recordPlace k) k⟩, sameItems_siftDown t k, exists_sinks hk⟩

/-- Seven items; the last one goes up when it takes the place of the fourth. -/
def risingShard : Shard Nat Nat :=
  ({} : Shard Nat Nat).run ([1, 10, 2, 11, 12, 3, 4].map fun due => .push 7 due 0 due)

theorem removed_removeAt_rising :
    risingShard.Ordered ∧ (∀ k, risingShard.Recorded k) ∧ Removed risingShard (risingShard.removeAt 3) 3 ∧
      (risingShard.removeAt 3).heap.toList.map (·.expiresAt) = [1, 4, 2, 10, 12, 3] := by
  have hw : risingShard.WellFormed := wellFormed_empty.run _
  exact ⟨hw.heap.ordered, hw.heap.recorded,
    (removed_removeAt risingShard hw.heap.ordered hw.heap.recorded 3).1, by decide +kernel⟩

end ChatModeration.Store.Shard
