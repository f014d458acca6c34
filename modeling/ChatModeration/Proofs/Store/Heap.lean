import ChatModeration.Store.Shard
import Mathlib.Data.List.Nodup
import Mathlib.Data.List.Perm.Subperm

/-!
# The heap of a shard

Moving entries of the heap changes nothing of a shard but the order of its heap and the places that items record
(`SameItems`).  The two sifts restore the order of the heap from the one place where it may be broken (`OrderedBelow`,
`OrderedAbove`), and so the removal of an entry leaves an ordered heap in which every place is recorded
(`ordered_removeAt`, `recorded_removeAt`).
-/

namespace ChatModeration.Store

variable {κ τ : Type}

/-- An item without the place that it records. -/
def Item.unplaced (x : Item κ τ) : Item κ τ := { x with heapPlace := 0 }

theorem isSome_of_map_eq {o p : Option (Item κ τ)} (h : o.map Item.unplaced = p.map Item.unplaced) :
    o.isSome = p.isSome := by
  have := congrArg Option.isSome h
  simpa using this

namespace Shard

/-! ### What moving entries leaves alone -/

/-- Two shards that differ at most in their heaps and in the places that items record. -/
structure SameItems (s t : Shard κ τ) : Prop where
  free : t.free = s.free
  keys : t.keys = s.keys
  pushed : t.pushed = s.pushed
  size : t.slots.size = s.slots.size
  items : ∀ slot, (t.item? slot).map Item.unplaced = (s.item? slot).map Item.unplaced

theorem SameItems.refl (s : Shard κ τ) : SameItems s s := ⟨rfl, rfl, rfl, rfl, fun _ => rfl⟩

theorem SameItems.trans {s t u : Shard κ τ} (h₁ : SameItems s t) (h₂ : SameItems t u) : SameItems s u :=
  ⟨h₂.free.trans h₁.free, h₂.keys.trans h₁.keys, h₂.pushed.trans h₁.pushed, h₂.size.trans h₁.size,
    fun slot => (h₂.items slot).trans (h₁.items slot)⟩

/-- The slots that the entries of the heap point at, in the order of the heap. -/
def heapSlots (s : Shard κ τ) : List Nat := s.heap.toList.map (·.slot)

/-- Whether the item that a heap entry points at records its place. -/
def Recorded (s : Shard κ τ) (place : Nat) : Prop :=
  ∀ e, s.heap[place]? = some e → ∀ x, s.item? e.slot = some x → x.heapPlace = place

theorem mem_heapSlots {s : Shard κ τ} {slot : Nat} :
    slot ∈ s.heapSlots ↔ ∃ (i : Nat) (e : HeapEntry), s.heap[i]? = some e ∧ e.slot = slot := by
  rw [heapSlots, List.mem_map]
  constructor
  · rintro ⟨e, he, hslot⟩
    obtain ⟨i, hi⟩ := List.mem_iff_getElem?.1 he
    exact ⟨i, e, by simpa using hi, hslot⟩
  · rintro ⟨i, e, hi, hslot⟩
    exact ⟨e, List.mem_iff_getElem?.2 ⟨i, by simpa using hi⟩, hslot⟩

theorem length_heapSlots (s : Shard κ τ) : s.heapSlots.length = s.heap.size := by simp [heapSlots]

/-- No two entries of the heap point at the same item. -/
def Apart (s : Shard κ τ) : Prop := s.heapSlots.Pairwise fun a b => (s.item? a).isSome → a ≠ b

theorem apart_of_nodup {s : Shard κ τ} (hn : s.heapSlots.Nodup) : s.Apart := by
  refine List.Pairwise.imp ?_ hn
  exact fun hne _ => hne

/-- An item records one place, so that its entry cannot stand at two. -/
theorem apart_of_recorded {s : Shard κ τ} (h : ∀ place, s.Recorded place) : s.Apart := by
  refine List.pairwise_iff_getElem.2 fun i j hi hj hij hsome heq => ?_
  rw [length_heapSlots] at hi hj
  obtain ⟨x, hx⟩ := Option.isSome_iff_exists.1 hsome
  simp only [heapSlots, List.getElem_map, Array.getElem_toList] at hx heq
  have hxi := h i _ (Array.getElem?_eq_getElem hi) x hx
  have hxj := h j _ (Array.getElem?_eq_getElem hj) x (heq ▸ hx)
  omega

/-- The place of an item's entry is the only one. -/
theorem Apart.place_unique {s : Shard κ τ} (ha : s.Apart) {i j : Nat} {e f : HeapEntry} (hi : s.heap[i]? = some e)
    (hj : s.heap[j]? = some f) (h : e.slot = f.slot) (hsome : (s.item? e.slot).isSome) : i = j := by
  have hi' : s.heapSlots[i]? = some e.slot := by simp [heapSlots, hi]
  have hj' : s.heapSlots[j]? = some e.slot := by simp [heapSlots, hj, h]
  obtain ⟨hil, hie⟩ := List.getElem?_eq_some_iff.1 hi'
  obtain ⟨hjl, hje⟩ := List.getElem?_eq_some_iff.1 hj'
  have hne := List.pairwise_iff_getElem.1 ha
  rcases Nat.lt_trichotomy i j with hij | hij | hij
  · exact absurd (hie.trans hje.symm) (hne i j hil hjl hij (by rwa [hie]))
  · exact hij
  · exact absurd (hje.trans hie.symm) (hne j i hjl hil hij (by rwa [hje]))

/-- Entries stay apart when they change their places or go. -/
theorem Apart.of_subperm {s t : Shard κ τ} (ha : s.Apart) (hs : SameItems s t)
    (hp : t.heap.toList.Subperm s.heap.toList) : t.Apart := by
  obtain ⟨entries, hperm, hsub⟩ := hp
  have hsymm : ∀ {a b : Nat}, ((s.item? a).isSome → a ≠ b) → (s.item? b).isSome → b ≠ a := by
    rintro a b hne hsome rfl
    exact hne hsome rfl
  have hleft : (entries.map HeapEntry.slot).Pairwise fun a b => (s.item? a).isSome → a ≠ b :=
    ha.sublist (hsub.map _)
  refine (((hperm.map HeapEntry.slot).pairwise_iff hsymm).1 hleft).imp fun hne hsome => hne ?_
  rwa [← isSome_of_map_eq (hs.items _)]

/-! ### A recorded place -/

theorem item?_recordPlace {s : Shard κ τ} {place : Nat} {e : HeapEntry} (he : s.heap[place]? = some e) (slot : Nat) :
    (s.recordPlace place).item? slot =
      if e.slot = slot then (s.item? slot).map fun x => { x with heapPlace := place } else s.item? slot := by
  simp only [recordPlace, he, item?, Array.getElem?_modify]
  split
  · rcases s.slots[slot]? with _ | _ | x <;> rfl
  · rfl

theorem sameItems_recordPlace (s : Shard κ τ) (place : Nat) : SameItems s (s.recordPlace place) := by
  rcases he : s.heap[place]? with _ | e
  · simp only [recordPlace, he]
    exact SameItems.refl s
  · refine ⟨?_, ?_, ?_, ?_, fun slot => ?_⟩
    · simp only [recordPlace, he]
    · simp only [recordPlace, he]
    · simp only [recordPlace, he]
    · simp only [recordPlace, he, Array.size_modify]
    · rw [item?_recordPlace he]
      split
      · rcases s.item? slot with _ | x <;> rfl
      · rfl

theorem recorded_recordPlace_self (s : Shard κ τ) (place : Nat) : (s.recordPlace place).Recorded place := by
  intro e he x hx
  rw [heap_recordPlace] at he
  rw [item?_recordPlace he, if_pos rfl] at hx
  obtain ⟨y, -, rfl⟩ := Option.map_eq_some_iff.1 hx
  rfl

theorem Apart.recordPlace {s : Shard κ τ} (ha : s.Apart) (place : Nat) : (s.recordPlace place).Apart := by
  refine ha.of_subperm (sameItems_recordPlace s place) ?_
  rw [heap_recordPlace]

theorem Recorded.recordPlace {s : Shard κ τ} (ha : s.Apart) {i : Nat} (h : s.Recorded i) (place : Nat) :
    (s.recordPlace place).Recorded i := by
  by_cases hi : i = place
  · rw [hi]
    exact recorded_recordPlace_self s place
  · intro e he x hx
    rw [heap_recordPlace] at he
    rcases hp : s.heap[place]? with _ | f
    · simp only [Shard.recordPlace, hp] at hx
      exact h e he x hx
    · rw [item?_recordPlace hp] at hx
      split at hx
      · obtain ⟨y, hy, -⟩ := Option.map_eq_some_iff.1 hx
        exact absurd (ha.place_unique he hp (Eq.symm ‹_›) (by rw [hy]; rfl)) hi
      · exact h e he x hx

/-! ### Two exchanged entries -/

theorem heap_exchange (s : Shard κ τ) (i j : Nat) : (s.exchange i j).heap = s.heap.swapIfInBounds i j := by
  simp only [exchange, heap_recordPlace]

theorem sameItems_exchange (s : Shard κ τ) (i j : Nat) : SameItems s (s.exchange i j) := by
  have hs : SameItems s { s with heap := s.heap.swapIfInBounds i j } := ⟨rfl, rfl, rfl, rfl, fun _ => rfl⟩
  exact (hs.trans (sameItems_recordPlace _ i)).trans (sameItems_recordPlace _ j)

theorem swapIfInBounds_perm (a : Array HeapEntry) (i j : Nat) : (a.swapIfInBounds i j).toList.Perm a.toList := by
  rw [Array.swapIfInBounds_def]
  split
  · split
    · exact (Array.swap_perm ‹_› ‹_›).toList
    · exact List.Perm.refl _
  · exact List.Perm.refl _

theorem heap_exchange_perm (s : Shard κ τ) (i j : Nat) : (s.exchange i j).heap.toList.Perm s.heap.toList := by
  rw [heap_exchange]
  exact swapIfInBounds_perm _ i j

theorem getElem?_swapIfInBounds_of_ne {a : Array HeapEntry} {i j k : Nat} (hi : k ≠ i) (hj : k ≠ j) :
    (a.swapIfInBounds i j)[k]? = a[k]? := by
  rw [Array.swapIfInBounds_def]
  split
  · split
    · rw [Array.getElem?_swap, if_neg (Ne.symm hj), if_neg (Ne.symm hi)]
    · rfl
  · rfl

/-- An exchange records the places of both entries that it moves. -/
theorem recorded_exchange {s : Shard κ τ} (ha : s.Apart) {i j : Nat}
    (h : ∀ k, k ≠ i → k ≠ j → s.Recorded k) (k : Nat) : (s.exchange i j).Recorded k := by
  let t : Shard κ τ := { s with heap := s.heap.swapIfInBounds i j }
  have hat : t.Apart := ha.of_subperm ⟨rfl, rfl, rfl, rfl, fun _ => rfl⟩ (swapIfInBounds_perm s.heap i j).subperm
  show ((t.recordPlace i).recordPlace j).Recorded k
  by_cases hj : k = j
  · rw [hj]
    exact recorded_recordPlace_self _ j
  · refine Recorded.recordPlace (hat.recordPlace i) ?_ j
    by_cases hi : k = i
    · rw [hi]
      exact recorded_recordPlace_self _ i
    · refine Recorded.recordPlace hat ?_ i
      intro e he x hx
      have he' : s.heap[k]? = some e := (getElem?_swapIfInBounds_of_ne hi hj).symm.trans he
      exact h k hi hj e he' x hx

/-! ### The order of the heap -/

/-- The time when the item of the heap entry at a place expires; zero beyond the heap. -/
def due (s : Shard κ τ) (place : Nat) : Nat := (s.heap[place]?.map (·.expiresAt)).getD 0

/-- No entry of the heap expires before the one above it. -/
def Ordered (s : Shard κ τ) : Prop := ∀ i, 0 < i → i < s.heap.size → s.due (parent i) ≤ s.due i

/--
The heap is ordered, except that the entry at a place may stand in a wrong order to its neighbours.  The entries below
the place do not expire before the one above it.
-/
structure OrderedAround (s : Shard κ τ) (place : Nat) : Prop where
  inside : place < s.heap.size
  others : ∀ i, 0 < i → i < s.heap.size → i ≠ place → parent i ≠ place → s.due (parent i) ≤ s.due i
  past : ∀ i, 0 < i → i < s.heap.size → parent i = place → 0 < place → s.due (parent place) ≤ s.due i

/-- The heap is ordered, except that the entry at a place may expire before the one above it. -/
structure OrderedAbove (s : Shard κ τ) (place : Nat) : Prop extends OrderedAround s place where
  below : ∀ i, 0 < i → i < s.heap.size → parent i = place → s.due place ≤ s.due i

/-- The heap is ordered, except that entries below a place may expire before the one at it. -/
structure OrderedBelow (s : Shard κ τ) (place : Nat) : Prop extends OrderedAround s place where
  above : 0 < place → s.due (parent place) ≤ s.due place

theorem OrderedAround.ordered {s : Shard κ τ} {place : Nat} (h : s.OrderedAround place)
    (habove : 0 < place → s.due (parent place) ≤ s.due place)
    (hbelow : ∀ i, 0 < i → i < s.heap.size → parent i = place → s.due place ≤ s.due i) : s.Ordered := by
  intro i hi0 hi
  by_cases hip : i = place
  · subst hip
    exact habove hi0
  · by_cases hpi : parent i = place
    · rw [hpi]
      exact hbelow i hi0 hi hpi
    · exact h.others i hi0 hi hip hpi

theorem sooner_iff {s : Shard κ τ} {i j : Nat} (hi : i < s.heap.size) (hj : j < s.heap.size) :
    s.sooner i j = true ↔ s.due i < s.due j := by
  simp [sooner, due, hi, hj]

theorem lt_size_of_sooner_left {s : Shard κ τ} {i j : Nat} (h : s.sooner i j = true) : i < s.heap.size := by
  by_contra hi
  simp [sooner, Nat.le_of_not_lt hi] at h

theorem due_exchange {s : Shard κ τ} {i j : Nat} (hi : i < s.heap.size) (hj : j < s.heap.size) (k : Nat) :
    (s.exchange i j).due k = if k = i then s.due j else if k = j then s.due i else s.due k := by
  rw [due, heap_exchange, Array.swapIfInBounds_def, dif_pos hi, dif_pos hj, Array.getElem?_swap]
  by_cases hki : k = i
  · subst hki
    by_cases hkj : j = k
    · subst hkj
      simp [due, hi]
    · simp [due, hkj, hj]
  · by_cases hkj : k = j
    · subst hkj
      simp [due, hki, hi]
    · simp [due, hki, hkj, Ne.symm hki, Ne.symm hkj]

theorem OrderedAbove.exchange {s : Shard κ τ} {place : Nat} (h : s.OrderedAbove place) (h0 : place ≠ 0)
    (hs : s.due place < s.due (parent place)) : (s.exchange place (parent place)).OrderedAbove (parent place) := by
  have hp : parent place < place := parent_lt h0
  have hin := h.inside
  have hdue := due_exchange hin (show parent place < s.heap.size by omega)
  refine ⟨⟨?_, fun i hi0 hi hne hpi => ?_, fun i hi0 hi hpi hpos => ?_⟩, fun i hi0 hi hpi => ?_⟩
  · rw [size_heap_exchange]
    omega
  · rw [size_heap_exchange] at hi
    have hip : i ≠ place := fun hip => hpi (by rw [hip])
    rw [hdue, hdue]
    simp only [hip, hne, hpi, ↓reduceIte]
    split
    -- a child of the place stands below the entry that has come down from above
    · exact h.past i hi0 hi ‹_› (by omega)
    · exact h.others i hi0 hi hip ‹_›
  · rw [size_heap_exchange] at hi
    have hpp : parent (parent place) < parent place := parent_lt (by omega)
    have habove := h.others (parent place) hpos (by omega) (by omega) (by omega)
    have hipp : i ≠ parent place := by have := parent_lt (show i ≠ 0 by omega); omega
    rw [hdue, hdue]
    simp only [show parent (parent place) ≠ place by omega, show parent (parent place) ≠ parent place by omega,
      hipp, ↓reduceIte]
    split
    -- the entry that has come down, or its other child
    · exact habove
    · have := h.others i hi0 hi ‹_› (by omega)
      rw [hpi] at this
      omega
  · rw [size_heap_exchange] at hi
    have hipp : i ≠ parent place := by have := parent_lt (show i ≠ 0 by omega); omega
    rw [hdue, hdue]
    simp only [show parent place ≠ place by omega, hipp, ↓reduceIte]
    split
    · omega
    · have := h.others i hi0 hi ‹_› (by omega)
      rw [hpi] at this
      omega

theorem ordered_liftUp {s : Shard κ τ} {place : Nat} (h : s.OrderedAbove place) : (s.liftUp place).Ordered := by
  fun_induction liftUp s place with
  | case1 s => exact h.ordered (fun h0 => absurd h0 (by omega)) h.below
  | case2 s place h0 hs ih =>
    have hin := h.inside
    have hp : parent place < s.heap.size := by have := parent_lt h0; omega
    exact ih (h.exchange h0 ((sooner_iff hin hp).1 hs))
  | case3 s place h0 hs =>
    have hin := h.inside
    have hp : parent place < s.heap.size := by have := parent_lt h0; omega
    rw [sooner_iff hin hp] at hs
    exact h.ordered (fun _ => by omega) h.below

/-- Of two places the earlier one is one of them, within the heap, and neither expires before it. -/
theorem earlier_spec {s : Shard κ τ} {i : Nat} (hi : i < s.heap.size) (j : Nat) :
    (s.earlier i j = i ∨ s.earlier i j = j) ∧ s.earlier i j < s.heap.size ∧ s.due (s.earlier i j) ≤ s.due i ∧
      (j < s.heap.size → s.due (s.earlier i j) ≤ s.due j) := by
  unfold earlier
  split
  · have hj : j < s.heap.size := lt_size_of_sooner_left ‹_›
    have hlt := (sooner_iff hj hi).1 ‹_›
    exact ⟨Or.inr rfl, hj, by omega, fun _ => Nat.le_refl _⟩
  · refine ⟨Or.inl rfl, hi, Nat.le_refl _, fun hj => ?_⟩
    rename_i h
    rw [sooner_iff hj hi] at h
    omega

theorem earliest_spec {s : Shard κ τ} {place : Nat} (hp : place < s.heap.size) :
    (s.earliest place = place ∨ parent (s.earliest place) = place ∧ 0 < s.earliest place) ∧
      s.earliest place < s.heap.size ∧ s.due (s.earliest place) ≤ s.due place ∧
      ∀ i, 0 < i → i < s.heap.size → parent i = place → s.due (s.earliest place) ≤ s.due i := by
  obtain ⟨hl, hls, hlp, hll⟩ := earlier_spec hp (2 * place + 1)
  obtain ⟨hr, hrs, hrp, hrr⟩ := earlier_spec hls (2 * place + 2)
  -- a place below this one is one of the two that it is compared with
  refine ⟨?_, hrs, Nat.le_trans hrp hlp, fun i hi0 hi hpi => ?_⟩
  · show s.earlier (s.earlier place (2 * place + 1)) (2 * place + 2) = place ∨ _
    rcases hr with hr | hr
    · rcases hl with hl | hl
      · exact Or.inl (by rw [hr, hl])
      · exact Or.inr (by rw [earliest, hr, hl, parent]; omega)
    · exact Or.inr (by rw [earliest, hr, parent]; omega)
  · have hchild : i = 2 * place + 1 ∨ i = 2 * place + 2 := by unfold parent at hpi; omega
    rcases hchild with rfl | rfl
    · exact Nat.le_trans hrp (hll hi)
    · exact hrr hi

/-- The first step down repairs the order at its place, whichever neighbour was in a wrong order. -/
theorem OrderedAround.exchange {s : Shard κ τ} {place : Nat} (h : s.OrderedAround place)
    (hne : s.earliest place ≠ place) :
    (s.exchange place (s.earliest place)).OrderedBelow (s.earliest place) := by
  obtain ⟨hcase, hes, hle, hmin⟩ := earliest_spec h.inside
  obtain ⟨hpe, he0⟩ := hcase.resolve_left hne
  have hlt : place < s.earliest place := (lt_earliest hne).1
  have hdue := due_exchange h.inside hes
  generalize s.earliest place = e at *
  refine ⟨⟨?_, fun i hi0 hi hie hpi => ?_, fun i hi0 hi hpi _ => ?_⟩, fun _ => ?_⟩
  · rw [size_heap_exchange]
    exact hes
  · rw [size_heap_exchange] at hi
    rw [hdue, hdue]
    simp only [hie, hpi, ↓reduceIte]
    by_cases hip : i = place
    · subst hip
      have hpp : parent i ≠ i := by have := parent_lt (show i ≠ 0 by omega); omega
      simp only [hpp, ↓reduceIte]
      exact h.past e he0 hes hpe hi0
    · by_cases hpp : parent i = place
      · simp only [hip, hpp, ↓reduceIte]
        exact hmin i hi0 hi hpp
      · simp only [hip, hpp, ↓reduceIte]
        exact h.others i hi0 hi hip hpp
  · rw [size_heap_exchange] at hi
    have hei : e < i := by have := parent_lt (show i ≠ 0 by omega); omega
    rw [hdue, hdue]
    simp only [hpe, ↓reduceIte, show i ≠ place by omega, show i ≠ e by omega]
    have := h.others i hi0 hi (by omega) (by omega)
    rwa [hpi] at this
  · rw [hdue, hdue]
    simp only [hpe, ↓reduceIte, hne]
    exact hle

theorem OrderedAround.below_of_earliest {s : Shard κ τ} {place : Nat} (h : s.OrderedAround place)
    (he : s.earliest place = place) (i : Nat) (hi0 : 0 < i) (hi : i < s.heap.size) (hpi : parent i = place) :
    s.due place ≤ s.due i := by
  have := (earliest_spec h.inside).2.2.2 i hi0 hi hpi
  rwa [he] at this

theorem ordered_siftDown {s : Shard κ τ} {place : Nat} (h : s.OrderedBelow place) :
    (s.siftDown place).1.Ordered := by
  fun_induction siftDown s place with
  | case1 s place e he => exact h.ordered h.above (h.below_of_earliest he)
  | case2 s place e hne ih => exact ih (h.exchange hne)

theorem le_siftDown (s : Shard κ τ) (place : Nat) : place ≤ (s.siftDown place).2 := by
  fun_induction siftDown s place with
  | case1 s place e he => exact Nat.le_refl _
  | case2 s place e hne ih => exact Nat.le_trans (Nat.le_of_lt (lt_earliest hne).1) ih

/-! ### Sifting as a whole -/

theorem sameItems_liftUp (s : Shard κ τ) (place : Nat) : SameItems s (s.liftUp place) := by
  fun_induction liftUp s place with
  | case1 s => exact SameItems.refl s
  | case2 s place _ _ ih => exact (sameItems_exchange s _ _).trans ih
  | case3 s place _ _ => exact SameItems.refl s

theorem heap_liftUp_perm (s : Shard κ τ) (place : Nat) : (s.liftUp place).heap.toList.Perm s.heap.toList := by
  fun_induction liftUp s place with
  | case1 s => exact List.Perm.refl _
  | case2 s place _ _ ih => exact ih.trans (heap_exchange_perm s _ _)
  | case3 s place _ _ => exact List.Perm.refl _

theorem recorded_liftUp {s : Shard κ τ} {place : Nat} (h : ∀ k, s.Recorded k) : ∀ k, (s.liftUp place).Recorded k := by
  fun_induction liftUp s place with
  | case1 s => exact h
  | case2 s place _ _ ih => exact ih (recorded_exchange (apart_of_recorded h) fun k _ _ => h k)
  | case3 s place _ _ => exact h

theorem sameItems_siftDown (s : Shard κ τ) (place : Nat) : SameItems s (s.siftDown place).1 := by
  fun_induction siftDown s place with
  | case1 s place e he => exact SameItems.refl s
  | case2 s place e hne ih => exact (sameItems_exchange s _ _).trans ih

theorem heap_siftDown_perm (s : Shard κ τ) (place : Nat) : (s.siftDown place).1.heap.toList.Perm s.heap.toList := by
  fun_induction siftDown s place with
  | case1 s place e he => exact List.Perm.refl _
  | case2 s place e hne ih => exact ih.trans (heap_exchange_perm s _ _)

theorem recorded_siftDown {s : Shard κ τ} {place : Nat} (h : ∀ k, s.Recorded k) :
    ∀ k, (s.siftDown place).1.Recorded k := by
  fun_induction siftDown s place with
  | case1 s place e he => exact h
  | case2 s place e hne ih => exact ih (recorded_exchange (apart_of_recorded h) fun k _ _ => h k)

theorem sameItems_siftUp (s : Shard κ τ) (place : Nat) : SameItems s (s.siftUp place) :=
  (sameItems_recordPlace s place).trans (sameItems_liftUp _ place)

theorem heap_siftUp_perm (s : Shard κ τ) (place : Nat) : (s.siftUp place).heap.toList.Perm s.heap.toList := by
  have := heap_liftUp_perm (s.recordPlace place) place
  rwa [heap_recordPlace] at this

/-- A sift records the place where it begins, so that one place need not be recorded before it. -/
theorem recorded_recordPlace {s : Shard κ τ} (ha : s.Apart) {place : Nat}
    (h : ∀ k, k ≠ place → s.Recorded k) (k : Nat) : (s.recordPlace place).Recorded k := by
  by_cases hk : k = place
  · rw [hk]
    exact recorded_recordPlace_self s place
  · exact (h k hk).recordPlace ha place

theorem recorded_siftUp {s : Shard κ τ} (ha : s.Apart) {place : Nat} (h : ∀ k, k ≠ place → s.Recorded k) :
    ∀ k, (s.siftUp place).Recorded k := recorded_liftUp (recorded_recordPlace ha h)

theorem due_recordPlace (s : Shard κ τ) (place k : Nat) : (s.recordPlace place).due k = s.due k := by
  rw [due, heap_recordPlace, due]

theorem OrderedAround.recordPlace {s : Shard κ τ} {place : Nat} (h : s.OrderedAround place) (k : Nat) :
    (s.recordPlace k).OrderedAround place := by
  refine ⟨?_, ?_, ?_⟩
  · rw [heap_recordPlace]
    exact h.inside
  · simp only [due_recordPlace, heap_recordPlace]
    exact h.others
  · simp only [due_recordPlace, heap_recordPlace]
    exact h.past

theorem OrderedAbove.recordPlace {s : Shard κ τ} {place : Nat} (h : s.OrderedAbove place) (k : Nat) :
    (s.recordPlace k).OrderedAbove place := by
  refine ⟨h.toOrderedAround.recordPlace k, ?_⟩
  simp only [due_recordPlace, heap_recordPlace]
  exact h.below

theorem ordered_siftUp {s : Shard κ τ} {place : Nat} (h : s.OrderedAbove place) : (s.siftUp place).Ordered :=
  ordered_liftUp (h.recordPlace place)

/-! ### Removing an entry -/

/-- The shard with the last heap entry in place of another one, which is gone. -/
def moveLast (s : Shard κ τ) (place : Nat) : Shard κ τ :=
  { s with heap := (s.heap.swapIfInBounds place (s.heap.size - 1)).pop }

/-- Moves the entry at a place down, or up where it does not move down. -/
def resift (s : Shard κ τ) (place : Nat) : Shard κ τ :=
  if (s.siftDown place).2 = place then (s.siftDown place).1.siftUp place else (s.siftDown place).1

theorem removeAt_of_lt {s : Shard κ τ} {place : Nat} (h : place < s.heap.size) :
    s.removeAt place =
      if place < s.heap.size - 1 then ((s.moveLast place).recordPlace place).resift place else s.moveLast place := by
  have hsize : (s.heap.swapIfInBounds place (s.heap.size - 1)).pop.size = s.heap.size - 1 := by simp
  unfold removeAt
  rw [if_pos h]
  dsimp only
  rw [hsize]
  rfl

theorem sameItems_resift (s : Shard κ τ) (place : Nat) : SameItems s (s.resift place) := by
  unfold resift
  split
  · exact (sameItems_siftDown s place).trans (sameItems_siftUp _ place)
  · exact sameItems_siftDown s place

theorem heap_resift_perm (s : Shard κ τ) (place : Nat) : (s.resift place).heap.toList.Perm s.heap.toList := by
  unfold resift
  split
  · exact (heap_siftUp_perm _ place).trans (heap_siftDown_perm s place)
  · exact heap_siftDown_perm s place

theorem recorded_resift {s : Shard κ τ} {place : Nat} (h : ∀ k, s.Recorded k) : ∀ k, (s.resift place).Recorded k := by
  have hdown : ∀ k, (s.siftDown place).1.Recorded k := recorded_siftDown h
  unfold resift
  split
  · exact recorded_siftUp (apart_of_recorded hdown) fun k _ => hdown k
  · exact hdown

theorem ordered_resift {s : Shard κ τ} {place : Nat} (h : s.OrderedAround place) : (s.resift place).Ordered := by
  -- an entry that moves down is out of order to what is below it, else only to what is above it
  by_cases he : s.earliest place = place
  · have hdown : s.siftDown place = (s, place) := by
      rw [siftDown]
      exact dif_pos he
    simp only [resift, hdown, ↓reduceIte]
    exact ordered_siftUp ⟨h, h.below_of_earliest he⟩
  · have hdown : s.siftDown place = (s.exchange place (s.earliest place)).siftDown (s.earliest place) := by
      rw [siftDown]
      exact dif_neg he
    have hend := le_siftDown (s.exchange place (s.earliest place)) (s.earliest place)
    have hlt := (lt_earliest he).1
    rw [resift, hdown, if_neg (by omega)]
    exact ordered_siftDown (h.exchange he)

theorem getElem?_heap_moveLast {s : Shard κ τ} {place : Nat} (h : place < s.heap.size) (i : Nat) :
    (s.moveLast place).heap[i]? =
      if i < s.heap.size - 1 then if i = place then s.heap[s.heap.size - 1]? else s.heap[i]? else none := by
  have hl : s.heap.size - 1 < s.heap.size := by omega
  rw [moveLast, Array.getElem?_pop, Array.size_swapIfInBounds, Array.swapIfInBounds_def, dif_pos h, dif_pos hl,
    Array.getElem?_swap]
  by_cases hi : i < s.heap.size - 1
  · rw [if_pos hi, if_pos hi, if_neg (by omega)]
    by_cases hip : i = place
    · rw [if_pos hip.symm, if_pos hip, Array.getElem?_eq_getElem hl]
    · rw [if_neg (Ne.symm hip), if_neg hip]
  · rw [if_neg hi, if_neg hi]

theorem size_heap_moveLast (s : Shard κ τ) (place : Nat) : (s.moveLast place).heap.size = s.heap.size - 1 := by
  simp [moveLast]

theorem sameItems_moveLast (s : Shard κ τ) (place : Nat) : SameItems s (s.moveLast place) :=
  ⟨rfl, rfl, rfl, rfl, fun _ => rfl⟩

theorem heap_moveLast_perm {s : Shard κ τ} {place : Nat} {e : HeapEntry} (he : s.heap[place]? = some e) :
    s.heap.toList.Perm (e :: (s.moveLast place).heap.toList) := by
  obtain ⟨hlt, hge⟩ := Array.getElem?_eq_some_iff.1 he
  let swapped := s.heap.swapIfInBounds place (s.heap.size - 1)
  have hlast : e ∈ swapped.toList.getLast? := by
    have hl : s.heap.size - 1 < s.heap.size := by omega
    rw [List.getLast?_eq_getElem?, Array.length_toList, Array.getElem?_toList]
    simp only [swapped, Array.size_swapIfInBounds]
    rw [Array.swapIfInBounds_def, dif_pos hlt, dif_pos hl, Array.getElem?_swap, if_pos rfl, hge]
    rfl
  have hsplit : swapped.pop.toList ++ [e] = swapped.toList := by
    rw [Array.toList_pop]
    exact List.dropLast_append_getLast? e hlast
  refine (swapIfInBounds_perm s.heap place (s.heap.size - 1)).symm.trans ?_
  show swapped.toList.Perm (e :: swapped.pop.toList)
  rw [← hsplit]
  exact List.perm_append_singleton e _

theorem due_moveLast {s : Shard κ τ} {place : Nat} (h : place < s.heap.size) {i : Nat} (hi : i < s.heap.size - 1) :
    (s.moveLast place).due i = if i = place then s.due (s.heap.size - 1) else s.due i := by
  rw [due, getElem?_heap_moveLast h, if_pos hi]
  split
  · rfl
  · rfl

theorem orderedAround_moveLast {s : Shard κ τ} {place : Nat} (h : s.Ordered) (hp : place < s.heap.size - 1) :
    (s.moveLast place).OrderedAround place := by
  have hlt : place < s.heap.size := by omega
  refine ⟨?_, fun i hi0 hi hip hpi => ?_, fun i hi0 hi hpi hpos => ?_⟩
  · rw [size_heap_moveLast]
    exact hp
  · rw [size_heap_moveLast] at hi
    have hpar := parent_lt (show i ≠ 0 by omega)
    rw [due_moveLast hlt hi, due_moveLast hlt (show parent i < s.heap.size - 1 by omega), if_neg hip, if_neg hpi]
    exact h i hi0 (by omega)
  · rw [size_heap_moveLast] at hi
    have hpar := parent_lt (show i ≠ 0 by omega)
    have hpp := parent_lt (show place ≠ 0 by omega)
    rw [due_moveLast hlt hi, due_moveLast hlt (show parent place < s.heap.size - 1 by omega),
      if_neg (show i ≠ place by omega), if_neg (show parent place ≠ place by omega)]
    have hi' := h i hi0 (by omega)
    rw [hpi] at hi'
    exact Nat.le_trans (h place hpos hlt) hi'

theorem recorded_moveLast {s : Shard κ τ} {place : Nat} (hp : place < s.heap.size) (h : ∀ k, s.Recorded k) (k : Nat)
    (hk : k ≠ place) : (s.moveLast place).Recorded k := by
  intro e he x hx
  rw [getElem?_heap_moveLast hp, if_neg hk] at he
  split at he
  · exact h k e he x hx
  · cases he

theorem apart_moveLast {s : Shard κ τ} {place : Nat} (hp : place < s.heap.size) (ha : s.Apart) :
    (s.moveLast place).Apart := by
  have hperm := heap_moveLast_perm (Array.getElem?_eq_getElem hp)
  exact ha.of_subperm (sameItems_moveLast s place) ((List.sublist_cons_self _ _).subperm.trans hperm.symm.subperm)

/-- The removal of an entry leaves the items as they are. -/
theorem sameItems_removeAt (s : Shard κ τ) (place : Nat) : SameItems s (s.removeAt place) := by
  by_cases hp : place < s.heap.size
  · rw [removeAt_of_lt hp]
    split
    · exact ((sameItems_moveLast s place).trans (sameItems_recordPlace _ place)).trans (sameItems_resift _ place)
    · exact sameItems_moveLast s place
  · rw [removeAt, if_neg hp]
    exact SameItems.refl s

/-- The removal of an entry takes that entry out of the heap and no other one. -/
theorem heap_removeAt_perm {s : Shard κ τ} {place : Nat} {e : HeapEntry} (he : s.heap[place]? = some e) :
    s.heap.toList.Perm (e :: (s.removeAt place).heap.toList) := by
  rw [removeAt_of_lt (Array.getElem?_eq_some_iff.1 he).1]
  refine (heap_moveLast_perm he).trans (List.Perm.cons e ?_)
  split
  · have := heap_resift_perm ((s.moveLast place).recordPlace place) place
    rw [heap_recordPlace] at this
    exact this.symm
  · exact List.Perm.refl _

/-- The removal of an entry keeps the heap in order. -/
theorem ordered_removeAt {s : Shard κ τ} (h : s.Ordered) (place : Nat) : (s.removeAt place).Ordered := by
  by_cases hp : place < s.heap.size
  · rw [removeAt_of_lt hp]
    split
    · exact ordered_resift ((orderedAround_moveLast h ‹_›).recordPlace place)
    -- the last entry is the one that is removed, so that none has moved
    · intro i hi0 hi
      rw [size_heap_moveLast] at hi
      have hpar := parent_lt (show i ≠ 0 by omega)
      rw [due_moveLast hp hi, due_moveLast hp (show parent i < s.heap.size - 1 by omega), if_neg (by omega),
        if_neg (by omega)]
      exact h i hi0 (by omega)
  · rw [removeAt, if_neg hp]
    exact h

/-- The removal of an entry records every place that has changed. -/
theorem recorded_removeAt {s : Shard κ τ} (h : ∀ k, s.Recorded k) (place k : Nat) :
    (s.removeAt place).Recorded k := by
  by_cases hp : place < s.heap.size
  · rw [removeAt_of_lt hp]
    split
    · exact recorded_resift (recorded_recordPlace (apart_moveLast hp (apart_of_recorded h)) (recorded_moveLast hp h)) k
    · by_cases hk : k = place
      · intro e he
        rw [getElem?_heap_moveLast hp, if_neg (by omega)] at he
        cases he
      · exact recorded_moveLast hp h k hk
  · rw [removeAt, if_neg hp]
    exact h k

end Shard

end ChatModeration.Store
