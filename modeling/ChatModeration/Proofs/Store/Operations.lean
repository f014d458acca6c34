import ChatModeration.Proofs.Store.WellFormed

/-!
# Operations on a shard

Every operation keeps a shard well-formed, and changes the items of each key as its name says: a push appends one item
(`items_push`), clearing a key removes all of its items (`items_clear`), and a sweep keeps those that expire later
(`items_reclaim`).
-/

namespace ChatModeration.Store.Shard

variable {κ τ : Type}

/-! ### Putting an item in -/

/-- A shard with one more item, as far as slots and heap go. -/
structure With (s t : Shard κ τ) (slot : Nat) (x : Item κ τ) : Prop where
  vacant : s.item? slot = none
  new : (t.item? slot).map Item.unplaced = (some x).map Item.unplaced
  others : ∀ other, other ≠ slot → (t.item? other).map Item.unplaced = (s.item? other).map Item.unplaced

theorem item?_place {s : Shard κ τ} (hf : s.FreeSound) (x : Item κ τ) (other : Nat) :
    (s.place x).2.item? other = if other = (s.place x).1 then some x else s.item? other := by
  rcases hfree : s.free with _ | ⟨slot, rest⟩
  · simp only [place, hfree, item?, Array.getElem?_push]
    split <;> rfl
  · have hlt : slot < s.slots.size := ((hf.mem_iff slot).1 (by rw [hfree]; exact List.mem_cons_self)).1
    simp only [place, hfree, item?, Array.getElem?_setIfInBounds]
    by_cases h : slot = other
    · subst h
      rw [if_pos rfl, if_pos rfl, if_pos hlt]
      rfl
    · rw [if_neg h, if_neg (Ne.symm h)]

theorem vacant_place {s : Shard κ τ} (hf : s.FreeSound) (x : Item κ τ) : s.item? (s.place x).1 = none := by
  rcases hfree : s.free with _ | ⟨slot, rest⟩
  · simp [place, hfree, item?]
  · simp only [place, hfree]
    exact ((hf.mem_iff slot).1 (by rw [hfree]; exact List.mem_cons_self)).2

theorem freeSound_place {s : Shard κ τ} (hf : s.FreeSound) (x : Item κ τ) : (s.place x).2.FreeSound := by
  rcases hfree : s.free with _ | ⟨slot, rest⟩
  · have hnone : (s.place x).2.free = [] := by simp only [place, hfree]
    have hsize : (s.place x).2.slots.size = s.slots.size + 1 := by simp [place, hfree]
    refine ⟨by rw [hnone]; exact List.nodup_nil, fun other => ?_⟩
    have hold := hf.mem_iff other
    rw [hfree] at hold
    rw [hnone, item?_place hf, hsize, show (s.place x).1 = s.slots.size by simp only [place, hfree]]
    by_cases hlast : other = s.slots.size
    · simp [hlast]
    · rw [if_neg hlast, hold]
      exact ⟨fun h => ⟨by omega, h.2⟩, fun h => ⟨by omega, h.2⟩⟩
  · have hrest : (s.place x).2.free = rest := by simp only [place, hfree]
    have hsize : (s.place x).2.slots.size = s.slots.size := by simp [place, hfree]
    have hn := hf.nodup
    rw [hfree, List.nodup_cons] at hn
    refine ⟨by rw [hrest]; exact hn.2, fun other => ?_⟩
    have hold := hf.mem_iff other
    rw [hfree, List.mem_cons] at hold
    rw [hrest, item?_place hf, hsize, show (s.place x).1 = slot by simp only [place, hfree]]
    by_cases hslot : other = slot
    · subst hslot
      simp [hn.1]
    · rw [if_neg hslot, ← hold]
      simp [hslot]

theorem heap_place (s : Shard κ τ) (x : Item κ τ) : (s.place x).2.heap = s.heap := by
  unfold place; split <;> rfl

theorem keys_place (s : Shard κ τ) (x : Item κ τ) : (s.place x).2.keys = s.keys := by
  unfold place; split <;> rfl

theorem pushed_place (s : Shard κ τ) (x : Item κ τ) : (s.place x).2.pushed = s.pushed := by
  unfold place; split <;> rfl

/-- The shard with an item in a slot and at the end of the heap, and in no key list. -/
def addLast (s : Shard κ τ) (x : Item κ τ) : Shard κ τ :=
  { (s.place x).2 with heap := s.heap.push ⟨x.expiresAt, (s.place x).1⟩, pushed := s.pushed + 1 }

theorem item?_addLast {s : Shard κ τ} (hf : s.FreeSound) (x : Item κ τ) (other : Nat) :
    (s.addLast x).item? other = if other = (s.place x).1 then some x else s.item? other := item?_place hf x other

theorem freeSound_addLast {s : Shard κ τ} (hf : s.FreeSound) (x : Item κ τ) : (s.addLast x).FreeSound :=
  ⟨(freeSound_place hf x).nodup, (freeSound_place hf x).mem_iff⟩

theorem heapSlots_addLast (s : Shard κ τ) (x : Item κ τ) :
    (s.addLast x).heapSlots = s.heapSlots ++ [(s.place x).1] := by
  simp [addLast, heapSlots]

theorem size_heap_addLast (s : Shard κ τ) (x : Item κ τ) : (s.addLast x).heap.size = s.heap.size + 1 :=
  Array.size_push _

theorem getElem?_heap_addLast (s : Shard κ τ) (x : Item κ τ) (i : Nat) :
    (s.addLast x).heap[i]? = if i = s.heap.size then some ⟨x.expiresAt, (s.place x).1⟩ else s.heap[i]? :=
  Array.getElem?_push

/-- The slot of a new item is one that the heap does not point at. -/
theorem place_not_mem_heapSlots {s : Shard κ τ} (hh : s.HeapSound) (hf : s.FreeSound) (x : Item κ τ) :
    (s.place x).1 ∉ s.heapSlots := by
  rw [hh.mem_iff, vacant_place hf x]
  simp

theorem nodup_heapSlots_addLast {s : Shard κ τ} (hh : s.HeapSound) (hf : s.FreeSound) (x : Item κ τ) :
    (s.addLast x).heapSlots.Nodup := by
  rw [heapSlots_addLast]
  refine List.Nodup.append hh.nodup (List.nodup_singleton _) ?_
  rw [List.disjoint_singleton]
  exact place_not_mem_heapSlots hh hf x

theorem recorded_addLast {s : Shard κ τ} (hh : s.HeapSound) (hf : s.FreeSound) (x : Item κ τ) (k : Nat)
    (hk : k ≠ s.heap.size) : (s.addLast x).Recorded k := by
  intro e he y hy
  rw [getElem?_heap_addLast, if_neg hk] at he
  have hne : e.slot ≠ (s.place x).1 := fun h =>
    place_not_mem_heapSlots hh hf x (h ▸ mem_heapSlots.2 ⟨k, e, he, rfl⟩)
  rw [item?_addLast hf, if_neg hne] at hy
  exact hh.recorded k e he y hy

theorem orderedAbove_addLast {s : Shard κ τ} (hh : s.HeapSound) (x : Item κ τ) :
    (s.addLast x).OrderedAbove s.heap.size := by
  have hdue : ∀ i, i < s.heap.size → (s.addLast x).due i = s.due i := by
    intro i hi
    rw [due, getElem?_heap_addLast, if_neg (by omega), due]
  have hsize := size_heap_addLast s x
  -- nothing is below the last place, so that only the first field says something
  refine ⟨⟨by omega, fun i hi0 hi hne _ => ?_, fun i hi0 hi hpi _ => ?_⟩, fun i hi0 hi hpi => ?_⟩
  · have hpar := parent_lt (show i ≠ 0 by omega)
    rw [hdue i (by omega), hdue _ (by omega)]
    exact hh.ordered i hi0 (by omega)
  · have hpar := parent_lt (show i ≠ 0 by omega)
    omega
  · have hpar := parent_lt (show i ≠ 0 by omega)
    omega

theorem expiry_addLast {s : Shard κ τ} (hh : s.HeapSound) (hf : s.FreeSound) (x : Item κ τ) :
    ∀ e ∈ (s.addLast x).heap.toList, ∀ y, (s.addLast x).item? e.slot = some y → y.expiresAt = e.expiresAt := by
  intro e he y hy
  rw [show (s.addLast x).heap.toList = s.heap.toList ++ [⟨x.expiresAt, (s.place x).1⟩] from Array.toList_push,
    List.mem_append, List.mem_singleton] at he
  rcases he with hold | rfl
  · have hne : e.slot ≠ (s.place x).1 := fun h =>
      place_not_mem_heapSlots hh hf x (h ▸ List.mem_map.2 ⟨e, hold, rfl⟩)
    rw [item?_addLast hf, if_neg hne] at hy
    exact hh.expiry e hold y hy
  · rw [item?_addLast hf, if_pos rfl] at hy
    cases hy
    rfl

/-- Sifting keeps a free list sound. -/
theorem SameItems.freeSound {s t : Shard κ τ} (h : SameItems s t) (hf : s.FreeSound) : t.FreeSound := by
  refine ⟨by rw [h.free]; exact hf.nodup, fun slot => ?_⟩
  rw [h.free, h.size, hf.mem_iff, ← Option.not_isSome_iff_eq_none, ← Option.not_isSome_iff_eq_none,
    isSome_of_map_eq (h.items slot)]

/-- The shard with an item in a slot and in the heap, and in no key list. -/
def insert (s : Shard κ τ) (x : Item κ τ) : Shard κ τ := (s.addLast x).siftUp s.heap.size

/-- A new item leaves the slots and the heap sound. -/
theorem insert_spec {s : Shard κ τ} (hh : s.HeapSound) (hf : s.FreeSound) (x : Item κ τ) :
    With s (s.insert x) (s.place x).1 x ∧ (s.insert x).HeapSound ∧ (s.insert x).FreeSound := by
  have hkeep : SameItems (s.addLast x) (s.insert x) := sameItems_siftUp _ _
  have hperm : (s.insert x).heap.toList.Perm (s.addLast x).heap.toList := heap_siftUp_perm _ _
  have hslots : (s.insert x).heapSlots.Perm (s.addLast x).heapSlots := hperm.map _
  have hn := nodup_heapSlots_addLast hh hf x
  refine ⟨⟨vacant_place hf x, ?_, fun other hne => ?_⟩,
    ⟨hslots.nodup_iff.2 hn, fun other => ?_, ?_, fun e he y hy => ?_, ?_⟩, ?_⟩
  · rw [hkeep.items, item?_addLast hf, if_pos rfl]
  · rw [hkeep.items, item?_addLast hf, if_neg hne]
  · rw [hslots.mem_iff, isSome_of_map_eq (hkeep.items other), item?_addLast hf, heapSlots_addLast, List.mem_append,
      hh.mem_iff]
    by_cases hne : other = (s.place x).1
    · simp [hne]
    · simp [hne]
  · exact recorded_siftUp (apart_of_nodup hn) (recorded_addLast hh hf x)
  · obtain ⟨z, hz, -, hexp, -⟩ := item_of_map_eq (hkeep.items e.slot) hy
    rw [hexp]
    exact expiry_addLast hh hf x e (hperm.mem_iff.1 he) z hz
  · exact ordered_siftUp (orderedAbove_addLast hh x)
  · exact hkeep.freeSound (freeSound_addLast hf x)

theorem keys_insert (s : Shard κ τ) (x : Item κ τ) : (s.insert x).keys = s.keys :=
  (sameItems_siftUp _ _).keys.trans (keys_place s x)

theorem pushed_insert (s : Shard κ τ) (x : Item κ τ) : (s.insert x).pushed = s.pushed + 1 :=
  (sameItems_siftUp _ _).pushed

/-! ### A push -/

theorem PushedBefore.congr {s t : Shard κ τ} {a b : Nat}
    (ha : (t.item? a).map Item.unplaced = (s.item? a).map Item.unplaced)
    (hb : (t.item? b).map Item.unplaced = (s.item? b).map Item.unplaced) (h : s.PushedBefore a b) :
    t.PushedBefore a b := by
  intro x y hx hy
  obtain ⟨x', hx', -, -, hsx⟩ := item_of_map_eq ha hx
  obtain ⟨y', hy', -, -, hsy⟩ := item_of_map_eq hb hy
  rw [hsx, hsy]
  exact h x' y' hx' hy'

variable [DecidableEq κ]

theorem map_unplaced_items (s : Shard κ τ) (key : κ) :
    (s.items key).map Item.unplaced = (s.slotsOf key).filterMap fun slot => (s.item? slot).map Item.unplaced :=
  List.map_filterMap

/-- A slot that the list of a key names is occupied. -/
theorem KeysSound.isSome {s : Shard κ τ} (h : s.KeysSound) {key : κ} {slot : Nat} (hs : slot ∈ s.slotsOf key) :
    (s.item? slot).isSome := by
  obtain ⟨x, hx, -⟩ := h.listed key slot hs
  rw [hx]
  rfl

theorem KeysSound.slotsOf_nodup {s : Shard κ τ} (h : s.KeysSound) (key : κ) : (s.slotsOf key).Nodup := by
  refine (h.ascending key).imp_of_mem fun {a b} ha _ hab => ?_
  rintro rfl
  obtain ⟨x, hx, -⟩ := h.listed key a ha
  exact Nat.lt_irrefl _ (hab x x hx hx)

theorem KeysSound.slotsOf_of_mem {s : Shard κ τ} (h : s.KeysSound) {key : κ} {slots : List Nat}
    (hm : (key, slots) ∈ s.keys) : s.slotsOf key = slots := slotsIn_of_mem h.nodup hm

/-- No slot stands in two key lists or twice in one. -/
theorem KeysSound.nodup_flatMap {s : Shard κ τ} (h : s.KeysSound) : (s.keys.flatMap (·.2)).Nodup := by
  rw [List.nodup_flatMap]
  constructor
  · intro entry he
    rw [← h.slotsOf_of_mem he]
    exact h.slotsOf_nodup entry.1
  · have hne : s.keys.Pairwise fun a b => a.1 ≠ b.1 := List.pairwise_map.1 h.nodup
    refine hne.imp_of_mem fun {a b} ha hb hab => ?_
    intro slot hsa hsb
    dsimp only at hsa hsb
    rw [← h.slotsOf_of_mem ha] at hsa
    rw [← h.slotsOf_of_mem hb] at hsb
    obtain ⟨x, hx, hxa⟩ := h.listed a.1 slot hsa
    obtain ⟨y, hy, hyb⟩ := h.listed b.1 slot hsb
    rw [hx] at hy
    cases hy
    exact hab (hxa.symm.trans hyb)

theorem KeysSound.mem_flatMap {s : Shard κ τ} (h : s.KeysSound) (slot : Nat) :
    slot ∈ s.keys.flatMap (·.2) ↔ (s.item? slot).isSome := by
  rw [List.mem_flatMap]
  constructor
  · rintro ⟨entry, he, hs⟩
    rw [← h.slotsOf_of_mem he] at hs
    exact h.isSome hs
  · intro hs
    obtain ⟨x, hx⟩ := Option.isSome_iff_exists.1 hs
    have hm := h.complete slot x hx
    exact ⟨_, mem_of_slotsIn_ne_nil (List.ne_nil_of_mem hm), hm⟩

/-- The item that a push puts in. -/
def newItem (s : Shard κ τ) (key : κ) (payload : τ) (now expiresAt : Nat) : Item κ τ :=
  ⟨key, payload, now, expiresAt, s.heap.size, s.pushed⟩

theorem push_eq (s : Shard κ τ) (key : κ) (payload : τ) (now expiresAt : Nat) :
    s.push key payload now expiresAt =
      { s.insert (s.newItem key payload now expiresAt) with
        keys := link key (s.place (s.newItem key payload now expiresAt)).1 s.keys } := by
  rw [← keys_insert s (s.newItem key payload now expiresAt)]
  simp only [push, heap_place, pushed_place, Array.size_push, Nat.add_sub_cancel]
  rfl

theorem slotsOf_push (s : Shard κ τ) (key : κ) (payload : τ) (now expiresAt : Nat) (k : κ) :
    (s.push key payload now expiresAt).slotsOf k =
      s.slotsOf k ++ if key = k then [(s.place (s.newItem key payload now expiresAt)).1] else [] := by
  rw [push_eq]
  exact slotsIn_link _ _ _ _

theorem With.keysSound_push {s : Shard κ τ} (h : s.KeysSound) {key : κ} {payload : τ} {now expiresAt : Nat}
    (w : With s (s.insert (s.newItem key payload now expiresAt)) (s.place (s.newItem key payload now expiresAt)).1
      (s.newItem key payload now expiresAt)) : (s.push key payload now expiresAt).KeysSound := by
  have hslots := slotsOf_push s key payload now expiresAt
  have hitem : (s.push key payload now expiresAt).item? = (s.insert (s.newItem key payload now expiresAt)).item? := by
    rw [push_eq]
    rfl
  have hpushed : (s.push key payload now expiresAt).pushed = s.pushed + 1 := by
    rw [push_eq]
    exact pushed_insert _ _
  have hkeys : (s.push key payload now expiresAt).keys =
      link key (s.place (s.newItem key payload now expiresAt)).1 s.keys := by rw [push_eq]
  -- from here on only what the facts above say about the push matters
  generalize s.push key payload now expiresAt = t at *
  generalize (s.place (s.newItem key payload now expiresAt)).1 = slot at *
  have hnotin : ∀ k, slot ∉ s.slotsOf k := by
    intro k hmem
    have := h.isSome hmem
    rw [w.vacant] at this
    cases this
  have hothers : ∀ k, ∀ a ∈ s.slotsOf k, (t.item? a).map Item.unplaced = (s.item? a).map Item.unplaced := by
    intro k a ha
    rw [hitem]
    exact w.others a fun he => hnotin k (he ▸ ha)
  have hnew : ∀ y, t.item? slot = some y → y.key = key ∧ y.sequence = s.pushed := by
    intro y hy
    rw [hitem] at hy
    obtain ⟨z, hz, hk, -, hq⟩ := item_of_map_eq w.new hy
    cases hz
    exact ⟨hk, hq⟩
  refine ⟨?_, ?_, fun k a ha => ?_, fun k => ?_, fun a y hy => ?_, fun a y hy => ?_⟩
  · rw [hkeys]
    exact nodup_map_fst_link h.nodup key slot
  · rw [hkeys]
    exact nonempty_link h.nonempty key slot
  · rw [hslots, List.mem_append] at ha
    rcases ha with ha | ha
    · obtain ⟨y, hy, hk⟩ := h.listed k a ha
      obtain ⟨z, hz, hkz, -, -⟩ := item_of_map_eq (hothers k a ha).symm hy
      exact ⟨z, hz, hkz.symm.trans hk⟩
    · split at ha
      · obtain rfl := List.mem_singleton.1 ha
        obtain ⟨y, hy⟩ := Option.isSome_iff_exists.1 ((isSome_of_map_eq w.new).trans rfl)
        rw [← hitem] at hy
        exact ⟨y, hy, (hnew y hy).1.trans ‹key = k›⟩
      · cases ha
  · rw [hslots, List.pairwise_append]
    refine ⟨(h.ascending k).imp_of_mem fun {a b} ha hb hab => hab.congr (hothers k a ha) (hothers k b hb), ?_, ?_⟩
    · split
      · exact List.pairwise_singleton _ _
      · exact List.Pairwise.nil
    · intro a ha b hb x y hx hy
      split at hb
      · obtain rfl := List.mem_singleton.1 hb
        obtain ⟨x', hx', -, -, hq⟩ := item_of_map_eq (hothers k a ha) hx
        rw [hq, (hnew y hy).2]
        exact h.pushed a x' hx'
      · cases hb
  · rw [hslots, List.mem_append]
    by_cases hne : a = slot
    · subst hne
      rw [if_pos (hnew y hy).1.symm]
      exact Or.inr (List.mem_singleton.2 rfl)
    · rw [hitem] at hy
      obtain ⟨z, hz, hk, -, -⟩ := item_of_map_eq (w.others a hne) hy
      rw [hk]
      exact Or.inl (h.complete a z hz)
  · rw [hpushed]
    by_cases hne : a = slot
    · subst hne
      rw [(hnew y hy).2]
      omega
    · rw [hitem] at hy
      obtain ⟨z, hz, -, -, hq⟩ := item_of_map_eq (w.others a hne) hy
      rw [hq]
      exact Nat.lt_succ_of_lt (h.pushed a z hz)

theorem WellFormed.push {s : Shard κ τ} (h : s.WellFormed) (key : κ) (payload : τ) (now expiresAt : Nat) :
    (s.push key payload now expiresAt).WellFormed := by
  obtain ⟨w, hh, hf⟩ := insert_spec h.heap h.free (s.newItem key payload now expiresAt)
  refine ⟨?_, ?_, w.keysSound_push h.keys⟩
  · rw [push_eq]
    exact ⟨hh.nodup, hh.mem_iff, hh.recorded, hh.expiry, hh.ordered⟩
  · rw [push_eq]
    exact ⟨hf.nodup, hf.mem_iff⟩

/-- A push appends an item to the items of its key. -/
theorem items_push {s : Shard κ τ} (h : s.WellFormed) (key : κ) (payload : τ) (now expiresAt : Nat) (k : κ) :
    ((s.push key payload now expiresAt).items k).map Item.unplaced =
      (s.items k).map Item.unplaced ++
        if key = k then [(s.newItem key payload now expiresAt).unplaced] else [] := by
  obtain ⟨w, -, -⟩ := insert_spec h.heap h.free (s.newItem key payload now expiresAt)
  have hitem : (s.push key payload now expiresAt).item? = (s.insert (s.newItem key payload now expiresAt)).item? := by
    rw [push_eq]
    rfl
  rw [map_unplaced_items, map_unplaced_items, slotsOf_push, List.filterMap_append, hitem]
  congr 1
  · refine List.filterMap_congr fun a ha => w.others a ?_
    rintro rfl
    have := h.keys.isSome ha
    rw [w.vacant] at this
    cases this
  · split
    · rw [List.filterMap_cons, w.new]
      rfl
    · rfl

/-! ### Taking items out -/

/-- What is left of a shard without the items in some slots, as far as slots and key lists go. -/
structure WithoutAll (s t : Shard κ τ) (slots : List Nat) : Prop where
  pushed : t.pushed = s.pushed
  gone : ∀ slot ∈ slots, t.item? slot = none
  others : ∀ slot, slot ∉ slots → (t.item? slot).map Item.unplaced = (s.item? slot).map Item.unplaced
  nodup : (t.keys.map (·.1)).Nodup
  nonempty : ∀ entry ∈ t.keys, entry.2 ≠ []
  slotsOf : ∀ key, t.slotsOf key = (s.slotsOf key).filter (· ∉ slots)

theorem WithoutAll.others_of_mem {s t : Shard κ τ} {slots : List Nat} (w : WithoutAll s t slots) {key : κ}
    {slot : Nat} (h : slot ∈ t.slotsOf key) :
    slot ∈ s.slotsOf key ∧ (t.item? slot).map Item.unplaced = (s.item? slot).map Item.unplaced := by
  rw [w.slotsOf, List.mem_filter] at h
  exact ⟨h.1, w.others slot (by simpa using h.2)⟩

theorem WithoutAll.keysSound {s t : Shard κ τ} {slots : List Nat} (w : WithoutAll s t slots) (h : s.KeysSound) :
    t.KeysSound := by
  refine ⟨w.nodup, w.nonempty, fun key slot hs => ?_, fun key => ?_, fun slot x hx => ?_, fun slot x hx => ?_⟩
  · obtain ⟨hold, heq⟩ := w.others_of_mem hs
    obtain ⟨y, hy, hk⟩ := h.listed key slot hold
    obtain ⟨x, hx, hkx, -, -⟩ := item_of_map_eq heq.symm hy
    exact ⟨x, hx, hkx.symm.trans hk⟩
  · have hsub : (t.slotsOf key).Sublist (s.slotsOf key) := by
      rw [w.slotsOf]
      exact List.filter_sublist
    refine ((h.ascending key).sublist hsub).imp_of_mem fun {a b} ha hb hab => ?_
    exact hab.congr (w.others_of_mem ha).2 (w.others_of_mem hb).2
  · have hout : slot ∉ slots := fun hmem => by rw [w.gone slot hmem] at hx; cases hx
    obtain ⟨y, hy, hk, -, -⟩ := item_of_map_eq (w.others slot hout) hx
    rw [w.slotsOf, List.mem_filter, hk]
    exact ⟨h.complete slot y hy, by simpa using hout⟩
  · have hout : slot ∉ slots := fun hmem => by rw [w.gone slot hmem] at hx; cases hx
    obtain ⟨y, hy, -, -, hq⟩ := item_of_map_eq (w.others slot hout) hx
    rw [hq, w.pushed]
    exact h.pushed slot y hy

/-- The items that are left under a key. -/
theorem WithoutAll.map_unplaced_items {s t : Shard κ τ} {slots : List Nat} (w : WithoutAll s t slots) (key : κ) :
    (t.items key).map Item.unplaced =
      ((s.slotsOf key).filter (· ∉ slots)).filterMap fun slot => (s.item? slot).map Item.unplaced := by
  rw [Shard.map_unplaced_items, w.slotsOf]
  exact List.filterMap_congr fun slot hs => w.others slot (by simpa using (List.mem_filter.1 hs).2)

/-! ### Clearing a key -/

theorem filter_not_mem_slotsOf {s : Shard κ τ} (h : s.KeysSound) (key k : κ) :
    (s.slotsOf k).filter (· ∉ s.slotsOf key) = if k = key then [] else s.slotsOf k := by
  split
  · subst k
    rw [List.filter_eq_nil_iff]
    intro a ha
    simpa using ha
  · rename_i hne
    rw [List.filter_eq_self]
    intro a ha
    simp only [decide_eq_true_eq]
    intro hak
    obtain ⟨x, hx, hxk⟩ := h.listed k a ha
    obtain ⟨y, hy, hyk⟩ := h.listed key a hak
    rw [hx] at hy
    cases hy
    exact hne (hxk.symm.trans hyk)

/-- Clearing a key leaves the shard without the items in the list of the key. -/
theorem clear_spec {s : Shard κ τ} (h : s.WellFormed) (key : κ) :
    WithoutAll s (s.clear key).1 (s.slotsOf key) ∧ (s.clear key).1.WellFormed ∧
      (s.clear key).1.heap.size + (s.clear key).2 = s.heap.size := by
  -- the list of the key goes first, and then the items that it names
  let u : Shard κ τ := { s with keys := dropKey key s.keys }
  have hu : u.HeapSound := ⟨h.heap.nodup, h.heap.mem_iff, h.heap.recorded, h.heap.expiry, h.heap.ordered⟩
  have hfu : u.FreeSound := ⟨h.free.nodup, h.free.mem_iff⟩
  obtain ⟨hh, hf, hk, hp, hl, hg, ho⟩ :=
    foldl_drop_spec hu hfu (h.keys.slotsOf_nodup key) fun a ha => h.keys.isSome ha
  have hw : WithoutAll s (s.clear key).1 (s.slotsOf key) := by
    refine ⟨hp, hg, ho, ?_, ?_, fun k => ?_⟩
    · show (((s.slotsOf key).foldl drop u).keys.map (·.1)).Nodup
      rw [hk]
      exact h.keys.nodup.sublist (List.filter_sublist.map _)
    · show ∀ entry ∈ ((s.slotsOf key).foldl drop u).keys, _
      rw [hk]
      exact fun entry he => h.keys.nonempty entry (List.mem_of_mem_filter he)
    · rw [filter_not_mem_slotsOf h.keys]
      show slotsIn ((s.slotsOf key).foldl drop u).keys k = _
      rw [hk]
      exact slotsIn_dropKey key s.keys k
  exact ⟨hw, ⟨hh, hf, hw.keysSound h.keys⟩, hl⟩

/-- Clearing a key removes its items and no others. -/
theorem items_clear {s : Shard κ τ} (h : s.WellFormed) (key k : κ) :
    ((s.clear key).1.items k).map Item.unplaced = if k = key then [] else (s.items k).map Item.unplaced := by
  rw [(clear_spec h key).1.map_unplaced_items, filter_not_mem_slotsOf h.keys]
  split
  · rfl
  · exact (map_unplaced_items s k).symm

theorem count_eq_length_items {s : Shard κ τ} (h : s.WellFormed) (key : κ) : s.count key = (s.items key).length := by
  rw [items, List.length_filterMap_eq_countP, List.countP_eq_length.2 fun slot hs => h.keys.isSome hs]
  rfl

/-! ### A sweep -/

/-- A vacated slot is erased from the list of its key, found by the number of its item. -/
theorem withoutSlot_slotsOf {s v : Shard κ τ} (h : s.KeysSound) {slot : Nat} {x : Item κ τ} (w : Without s v slot)
    (hx : s.item? slot = some x) :
    v.withoutSlot slot x.sequence (s.slotsOf x.key) = (s.slotsOf x.key).erase slot := by
  refine withoutSlot_eq_erase w.gone ?_
  have hnumber : ∀ a y, s.item? a = some y → v.numberOf x.sequence a = y.sequence := by
    intro a y hy
    by_cases ha : a = slot
    · subst ha
      rw [hx] at hy
      cases hy
      rw [numberOf, w.gone]
      rfl
    · obtain ⟨z, hz, -, -, hq⟩ := item_of_map_eq (w.others a ha).symm hy
      rw [numberOf, hz, hq]
      rfl
  rw [List.pairwise_map]
  refine (h.ascending x.key).imp_of_mem fun {a b} ha hb hab => ?_
  obtain ⟨y, hy, -⟩ := h.listed _ a ha
  obtain ⟨z, hz, -⟩ := h.listed _ b hb
  rw [hnumber a y hy, hnumber b z hz]
  exact hab y z hy hz

/-- One step of a sweep: the item at the root of the heap is gone. -/
def evict (s : Shard κ τ) (top : HeapEntry) (x : Item κ τ) : Shard κ τ :=
  ((((s.removeAt 0).vacate top.slot).unlink x.key top.slot x.sequence).release top.slot)

/-- The slot of the item that is gone is erased from the list of its key, and stands in no other list. -/
theorem slotsOf_evict {s : Shard κ τ} (h : s.WellFormed) {top : HeapEntry} (ht : s.heap[0]? = some top)
    {x : Item κ τ} (hx : (s.removeAt 0).item? top.slot = some x) (k : κ) :
    (s.evict top x).slotsOf k = (s.slotsOf k).filter (· ∉ [top.slot]) := by
  obtain ⟨y, hy, hk, -, hq⟩ := item_of_map_eq ((sameItems_removeAt s 0).items top.slot) hx
  have hsame : (s.slotsOf k).filter (· ∉ [top.slot]) = (s.slotsOf k).erase top.slot := by
    rw [(h.keys.slotsOf_nodup k).erase_eq_filter]
    exact List.filter_congr fun a _ => by by_cases ha : a = top.slot <;> simp [ha]
  show slotsIn (shrink x.key (((s.removeAt 0).vacate top.slot).withoutSlot top.slot x.sequence)
    (s.removeAt 0).keys) k = _
  rw [(sameItems_removeAt s 0).keys, slotsIn_shrink h.keys.nodup x.key rfl, hsame]
  split
  · subst k
    rw [hk, hq]
    exact withoutSlot_slotsOf h.keys (without_removeAt_vacate ht) hy
  · rename_i hne
    refine (List.erase_of_not_mem fun hmem => hne ?_).symm
    obtain ⟨z, hz, hzk⟩ := h.keys.listed k _ hmem
    rw [hy] at hz
    cases hz
    exact hzk.symm.trans hk.symm

theorem evict_spec {s : Shard κ τ} (h : s.WellFormed) {top : HeapEntry} (ht : s.heap[0]? = some top) {x : Item κ τ}
    (hx : (s.removeAt 0).item? top.slot = some x) :
    WithoutAll s (s.evict top x) [top.slot] ∧ (s.evict top x).WellFormed ∧
      (s.evict top x).heap.size + 1 = s.heap.size := by
  have hv := without_removeAt_vacate ht
  have hkeep := sameItems_removeAt s 0
  have hkeys : (s.removeAt 0).keys = s.keys := hkeep.keys
  have hw : WithoutAll s (s.evict top x) [top.slot] := by
    refine ⟨hv.pushed, fun a ha => ?_, fun a ha => hv.others a (by simpa using ha), ?_, ?_, slotsOf_evict h ht hx⟩
    · rw [List.mem_singleton.1 ha]
      exact hv.gone
    · refine List.Nodup.sublist (map_fst_shrink_sublist _ _ _) ?_
      show ((s.removeAt 0).keys.map (·.1)).Nodup
      rw [hkeys]
      exact h.keys.nodup
    · have hnonempty : ∀ entry ∈ (s.removeAt 0).keys, entry.2 ≠ [] := by
        rw [hkeys]
        exact h.keys.nonempty
      exact nonempty_shrink hnonempty _ _
  have hh := h.heap.removeAt_vacate ht
  have hsome : (s.item? top.slot).isSome := by
    rw [← isSome_of_map_eq (hkeep.items top.slot), hx]
    rfl
  have hfree : (((s.removeAt 0).vacate top.slot).release top.slot).free = top.slot :: s.free :=
    congrArg (top.slot :: ·) hkeep.free
  have hf := hv.release.freeSound h.free hsome hfree
  refine ⟨hw, ⟨⟨hh.nodup, hh.mem_iff, hh.recorded, hh.expiry, hh.ordered⟩, ⟨hf.nodup, hf.mem_iff⟩,
    hw.keysSound h.keys⟩, ?_⟩
  have hlt : 0 < s.heap.size := (Array.getElem?_eq_some_iff.1 ht).1
  show (s.removeAt 0).heap.size + 1 = s.heap.size
  rw [size_heap_removeAt hlt]
  omega

/-- Taking an expired item out makes no difference to the items that expire later. -/
theorem WithoutAll.live_items {s t : Shard κ τ} {slot : Nat} (w : WithoutAll s t [slot]) {x : Item κ τ} {now : Nat}
    (hx : s.item? slot = some x) (hexp : x.expiresAt ≤ now) (key : κ) :
    ((t.items key).filter (now < ·.expiresAt)).map Item.unplaced =
      ((s.items key).filter (now < ·.expiresAt)).map Item.unplaced := by
  rw [map_unplaced_filter, map_unplaced_filter, w.map_unplaced_items, Shard.map_unplaced_items, List.filterMap_filter,
    List.filter_filterMap, List.filter_filterMap]
  refine List.filterMap_congr fun a _ => ?_
  by_cases ha : a = slot
  · subst ha
    have hdead : decide (now < x.unplaced.expiresAt) = false := decide_eq_false (Nat.not_lt.2 hexp)
    simp [hx, Option.filter, hdead]
  · simp [ha]

/-- A sweep keeps the items that expire later, and tells how many others there were. -/
theorem reclaim_spec {s : Shard κ τ} (h : s.WellFormed) (now : Nat) :
    (s.reclaim now).1.WellFormed ∧ (s.reclaim now).1.heap.size + (s.reclaim now).2 = s.heap.size ∧
      ∀ key, ((s.reclaim now).1.items key).map Item.unplaced =
        ((s.items key).filter (now < ·.expiresAt)).map Item.unplaced := by
  fun_induction reclaim s now with
  | case1 s hnone =>
    refine ⟨h, rfl, fun key => ?_⟩
    have hitems : s.items key = [] := by
      refine List.filterMap_eq_nil_iff.2 fun slot _ => Option.not_isSome_iff_eq_none.1 fun hs => ?_
      obtain ⟨i, e, he, -⟩ := mem_heapSlots.1 ((h.heap.mem_iff slot).2 hs)
      have := (Array.getElem?_eq_some_iff.1 he).1
      rw [Array.getElem?_eq_none_iff] at hnone
      omega
    rw [hitems]
    rfl
  | case2 s top ht hlt =>
    refine ⟨h, rfl, fun key => ?_⟩
    rw [List.filter_eq_self.2]
    intro x hx
    obtain ⟨slot, -, hslot⟩ := List.mem_filterMap.1 hx
    have := h.heap.root_le ht hslot
    exact decide_eq_true (by omega)
  -- the root points at an occupied slot
  | case3 s top ht hge rest hnone ih =>
    obtain ⟨x, hx, -⟩ := h.heap.root_item ht
    have := isSome_of_map_eq ((sameItems_removeAt s 0).items top.slot)
    rw [hnone, hx] at this
    cases this
  | case4 s top ht hge rest x hx final n hrec ih =>
    obtain ⟨hw, hwf, hsize⟩ := evict_spec h ht hx
    obtain ⟨y, hy, -, hexp, -⟩ := item_of_map_eq ((sameItems_removeAt s 0).items top.slot) hx
    obtain ⟨z, hz, hzexp⟩ := h.heap.root_item ht
    rw [hy] at hz
    cases hz
    obtain ⟨ihw, ihs, ihi⟩ := ih hwf
    rw [hrec] at ihw ihs ihi
    refine ⟨ihw, ?_, fun key => ?_⟩
    · rw [← hsize]
      exact congrArg (· + 1) ihs
    · rw [ihi key]
      exact hw.live_items hy (by omega) key

end ChatModeration.Store.Shard
