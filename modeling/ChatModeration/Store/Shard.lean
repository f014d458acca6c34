/-!
# Shards of a store

A shard keeps expiring items of many keys.  The items lie in slots, and two views point at them: a list of slots for
each key, oldest first (`Shard.keys`), and a binary heap ordered by expiry (`Shard.heap`).  Each item records its place
in the heap, so that the items of one key can be removed without a search through the heap, and a number that grows
along the list of its key, so that an expired item is found in that list by binary search.  Vacated slots are used
again.
-/

namespace ChatModeration.Store

/-- A stored item.  Times are in milliseconds. -/
structure Item (κ τ : Type) where
  key : κ
  payload : τ
  insertedAt : Nat
  expiresAt : Nat
  /-- The place of the item in the heap. -/
  heapPlace : Nat
  /-- The number of items that were pushed before. -/
  sequence : Nat
deriving DecidableEq, Repr

/-- An entry of the heap: a slot and the time when its item expires. -/
structure HeapEntry where
  expiresAt : Nat
  slot : Nat
deriving DecidableEq, Repr

/-- A shard. -/
structure Shard (κ τ : Type) where
  slots : Array (Option (Item κ τ)) := #[]
  /-- The vacated slots, the last one first. -/
  free : List Nat := []
  /-- The slots of each key that has items, oldest first. -/
  keys : List (κ × List Nat) := []
  heap : Array HeapEntry := #[]
  /-- The number of items pushed so far. -/
  pushed : Nat := 0
deriving Repr

namespace Shard

variable {κ τ : Type}

/-- The item in a slot. -/
def item? (s : Shard κ τ) (slot : Nat) : Option (Item κ τ) := (s.slots[slot]?).join

/-! ### The heap -/

/-- Writes the place of a heap entry into the item that it points at. -/
def recordPlace (s : Shard κ τ) (place : Nat) : Shard κ τ :=
  match s.heap[place]? with
  | none => s
  | some e => { s with slots := s.slots.modify e.slot (·.map fun x => { x with heapPlace := place }) }

/-- Exchanges two heap entries. -/
def exchange (s : Shard κ τ) (i j : Nat) : Shard κ τ :=
  (({ s with heap := s.heap.swapIfInBounds i j } : Shard κ τ).recordPlace i).recordPlace j

/-- Whether the heap entry at `i` expires before the one at `j`. -/
def sooner (s : Shard κ τ) (i j : Nat) : Bool :=
  match s.heap[i]?, s.heap[j]? with
  | some a, some b => a.expiresAt < b.expiresAt
  | _, _ => false

/-- The place above a place other than the first. -/
def parent (place : Nat) : Nat := (place - 1) / 2

theorem parent_lt {place : Nat} (h : place ≠ 0) : parent place < place := by
  unfold parent; omega

/-- Moves a heap entry up as long as it expires before the one above it. -/
def liftUp (s : Shard κ τ) (place : Nat) : Shard κ τ :=
  if _h : place = 0 then s
  else if s.sooner place (parent place) then liftUp (s.exchange place (parent place)) (parent place)
  else s
termination_by place
decreasing_by exact parent_lt ‹_›

/-- Records the place of a heap entry and moves it up. -/
def siftUp (s : Shard κ τ) (place : Nat) : Shard κ τ := (s.recordPlace place).liftUp place

/-- Whichever of two places has the entry that expires first, the first one on a tie. -/
def earlier (s : Shard κ τ) (i j : Nat) : Nat := if s.sooner j i then j else i

/-- Of a place and the two below it, the one whose entry expires first. -/
def earliest (s : Shard κ τ) (place : Nat) : Nat :=
  s.earlier (s.earlier place (2 * place + 1)) (2 * place + 2)

theorem heap_recordPlace (s : Shard κ τ) (place : Nat) : (s.recordPlace place).heap = s.heap := by
  unfold recordPlace; split <;> rfl

theorem size_heap_exchange (s : Shard κ τ) (i j : Nat) : (s.exchange i j).heap.size = s.heap.size := by
  simp [exchange, heap_recordPlace]

private theorem lt_size_of_sooner {s : Shard κ τ} {i j : Nat} (h : s.sooner i j = true) : i < s.heap.size := by
  unfold sooner at h
  split at h
  · next a b ha _ => exact (Array.getElem?_eq_some_iff.1 ha).1
  · simp at h

theorem lt_earliest {s : Shard κ τ} {place : Nat} (h : s.earliest place ≠ place) :
    place < s.earliest place ∧ s.earliest place < s.heap.size := by
  unfold earliest earlier at *
  repeat' split at h
  all_goals simp_all
  all_goals first
    | exact lt_size_of_sooner ‹_›
    | exact ⟨by omega, lt_size_of_sooner ‹_›⟩

/-- Moves a heap entry down as long as one below it expires before it, and tells where it ends. -/
def siftDown (s : Shard κ τ) (place : Nat) : Shard κ τ × Nat :=
  let next := s.earliest place
  if _h : next = place then (s, place) else siftDown (s.exchange place next) next
termination_by s.heap.size - place
decreasing_by
  have := lt_earliest ‹_›
  rw [size_heap_exchange]
  omega

/-- Removes the heap entry at a place: the last entry takes its place and moves down or up. -/
def removeAt (s : Shard κ τ) (place : Nat) : Shard κ τ :=
  if place < s.heap.size then
    let s := { s with heap := (s.heap.swapIfInBounds place (s.heap.size - 1)).pop }
    if place < s.heap.size then
      let (s, final) := (s.recordPlace place).siftDown place
      if final = place then s.siftUp place else s
    else s
  else s

theorem size_heap_siftDown (s : Shard κ τ) (p : Nat) : (s.siftDown p).1.heap.size = s.heap.size := by
  fun_induction siftDown s p with
  | case1 => rfl
  | case2 s p next _ ih => rw [ih, size_heap_exchange]

theorem size_heap_liftUp (s : Shard κ τ) (p : Nat) : (s.liftUp p).heap.size = s.heap.size := by
  fun_induction liftUp s p with
  | case1 => rfl
  | case2 s p _ _ ih => rw [ih, size_heap_exchange]
  | case3 => rfl

theorem size_heap_removeAt {s : Shard κ τ} {p : Nat} (h : p < s.heap.size) :
    (s.removeAt p).heap.size = s.heap.size - 1 := by
  unfold removeAt
  rw [if_pos h]
  dsimp only
  split
  · split
    · simp [siftUp, size_heap_liftUp, heap_recordPlace, size_heap_siftDown]
    · simp [heap_recordPlace, size_heap_siftDown]
  · simp

private theorem size_heap_removeAt_lt {s : Shard κ τ} {e : HeapEntry} (h : s.heap[0]? = some e) :
    (s.removeAt 0).heap.size < s.heap.size := by
  have h0 : 0 < s.heap.size := (Array.getElem?_eq_some_iff.1 h).1
  rw [size_heap_removeAt h0]
  omega

/-! ### Keys -/

variable [DecidableEq κ]

/-- The slots of a key. -/
def slotsOf (s : Shard κ τ) (key : κ) : List Nat := (s.keys.lookup key).getD []

/-- Appends a slot to the list of a key. -/
def link (key : κ) (slot : Nat) : List (κ × List Nat) → List (κ × List Nat)
  | [] => [(key, [slot])]
  | (k, slots) :: rest => if k = key then (k, slots ++ [slot]) :: rest else (k, slots) :: link key slot rest

/-- Drops a key. -/
def dropKey (key : κ) (keys : List (κ × List Nat)) : List (κ × List Nat) := keys.filter (·.1 ≠ key)

/--
The place of a number in a list of ascending numbers, by halving the part between `low` and `high`.
-/
def searchFrom (numbers : Array Nat) (target low high : Nat) : Option Nat :=
  if low < high then
    let middle := low + (high - low) / 2
    match numbers[middle]? with
    | none => none
    | some n =>
      if n = target then some middle
      else if n < target then searchFrom numbers target (middle + 1) high
      else searchFrom numbers target low middle
  else none
termination_by high - low

/-- The place of a number in a list of ascending numbers. -/
def search (numbers : List Nat) (target : Nat) : Option Nat :=
  searchFrom numbers.toArray target 0 numbers.length

/-- The list of slots of a key without a slot that was vacated, whose item had the given number. -/
def withoutSlot (s : Shard κ τ) (slot sequence : Nat) (slots : List Nat) : List Nat :=
  match slots with
  | [] => []
  | first :: rest =>
    if first = slot then rest
    else
      match search (slots.map fun t => ((s.item? t).map (·.sequence)).getD sequence) sequence with
      | none => slots
      | some i => if slots[i]? = some slot then slots.eraseIdx i else slots

/-- Drops a vacated slot from the list of its key, and the key with its last slot. -/
def unlink (s : Shard κ τ) (key : κ) (slot sequence : Nat) : Shard κ τ :=
  let keep := fun (entry : κ × List Nat) =>
    if entry.1 = key then
      let slots := s.withoutSlot slot sequence entry.2
      if slots.isEmpty then none else some (entry.1, slots)
    else some entry
  { s with keys := s.keys.filterMap keep }

/-! ### Operations -/

/-- Takes the item out of a slot. -/
def vacate (s : Shard κ τ) (slot : Nat) : Shard κ τ := { s with slots := s.slots.setIfInBounds slot none }

/-- Makes a vacated slot free for the next item. -/
def release (s : Shard κ τ) (slot : Nat) : Shard κ τ := { s with free := slot :: s.free }

/-- The slot that the next item is put into, and the slots and free slots after it. -/
def place (s : Shard κ τ) (x : Item κ τ) : Nat × Shard κ τ :=
  match s.free with
  | slot :: rest => (slot, { s with slots := s.slots.setIfInBounds slot (some x), free := rest })
  | [] => (s.slots.size, { s with slots := s.slots.push (some x) })

/-- Appends an item to the history of a key. -/
def push (s : Shard κ τ) (key : κ) (payload : τ) (now expiresAt : Nat) : Shard κ τ :=
  let x : Item κ τ :=
    { key, payload, insertedAt := now, expiresAt, heapPlace := s.heap.size, sequence := s.pushed }
  let (slot, s) := s.place x
  let s := { s with heap := s.heap.push ⟨expiresAt, slot⟩, pushed := s.pushed + 1 }
  let s := s.siftUp (s.heap.size - 1)
  { s with keys := link key slot s.keys }

/-- The number of items of a key. -/
def count (s : Shard κ τ) (key : κ) : Nat := (s.slotsOf key).length

/-- The items of a key, oldest first. -/
def items (s : Shard κ τ) (key : κ) : List (Item κ τ) := (s.slotsOf key).filterMap s.item?

/-- Removes the item in a slot from the slots and from the heap. -/
def drop (s : Shard κ τ) (slot : Nat) : Shard κ τ :=
  match s.item? slot with
  | none => s
  | some x => ((s.vacate slot).removeAt x.heapPlace).release slot

/-- Removes the items of a key, and tells how many they were. -/
def clear (s : Shard κ τ) (key : κ) : Shard κ τ × Nat :=
  let slots := s.slotsOf key
  (slots.foldl drop { s with keys := dropKey key s.keys }, slots.length)

/-- Removes every item that has expired at the given time, the one that expired first before the others. -/
def reclaim (s : Shard κ τ) (now : Nat) : Shard κ τ × Nat :=
  match _h : s.heap[0]? with
  | none => (s, 0)
  | some top =>
    if now < top.expiresAt then (s, 0)
    else
      let rest := s.removeAt 0
      match rest.item? top.slot with
      | none => rest.reclaim now
      | some x =>
        let (final, n) := (((rest.vacate top.slot).unlink x.key top.slot x.sequence).release top.slot).reclaim now
        (final, n + 1)
termination_by s.heap.size
decreasing_by
  · exact size_heap_removeAt_lt ‹_›
  · exact size_heap_removeAt_lt ‹_›

end Shard

end ChatModeration.Store
