import ChatModeration.Store.Shard

/-!
# Stores of expiring items

A store keeps a history of items for each key, oldest first, and forgets an item some time after it was put in.  Items
that have expired stay visible until they are reclaimed (`Store.reclaim`).  Keys are spread over shards by a fixed
assignment.  Times and durations are in milliseconds.
-/

namespace ChatModeration

open Store (Shard Item)

/-- A store. -/
structure Store (κ τ : Type) where
  name : String
  /-- The time between two sweeps for expired items. -/
  interval : Nat
  /-- The last time that the clock can show. -/
  horizon : Nat
  /-- The shard of a key, modulo the number of shards. -/
  assign : κ → Nat
  shards : Array (Shard κ τ)
  shards_nonempty : 0 < shards.size

namespace Store

/-- The longest time that an item is kept: ten years. -/
def longestLife : Nat := 10 * 365 * 24 * 60 * 60 * 1000

/-- The last time of a clock that counts seconds in a signed word. -/
def wordHorizon : Nat := Nat.pow 2 63 * 1000 - 1

/-- When an item expires that is put in now and kept for some time. -/
def expiry (horizon now life : Nat) : Nat :=
  let t := now + min life longestLife
  if t ≤ horizon then t else now

variable {κ τ α : Type}

/-- A store without items.  There is at least one shard and a millisecond between two sweeps. -/
def empty (name : String) (shardCount interval horizon : Nat) (assign : κ → Nat) : Store κ τ where
  name
  interval := max interval 1
  horizon
  assign
  shards := Array.replicate (max shardCount 1) {}
  shards_nonempty := by rw [Array.size_replicate]; omega

/-- The number of shards. -/
def shardCount (s : Store κ τ) : Nat := s.shards.size

/-- The index of the shard of a key. -/
def shardIndex (s : Store κ τ) (key : κ) : Nat := s.assign key % s.shardCount

theorem shardIndex_lt (s : Store κ τ) (key : κ) : s.shardIndex key < s.shards.size :=
  Nat.mod_lt _ s.shards_nonempty

/-- The shard of a key. -/
def shardOf (s : Store κ τ) (key : κ) : Shard κ τ :=
  have := s.shardIndex_lt key
  s.shards[s.shardIndex key]

/-- The store with another shard in place of the one of a key. -/
def replaceShard (s : Store κ τ) (key : κ) (shard : Shard κ τ) : Store κ τ :=
  { s with
    shards := s.shards.set (s.shardIndex key) shard (s.shardIndex_lt key)
    shards_nonempty := by simpa using s.shards_nonempty }

/-- Exclusive access to the history of one key at a time that was read once. -/
structure Entry (κ τ : Type) where
  shard : Shard κ τ
  key : κ
  now : Nat
  horizon : Nat

namespace Entry

variable [DecidableEq κ]

/-- The number of items. -/
def count (e : Entry κ τ) : Nat := e.shard.count e.key

/-- Whether there is no item. -/
def isEmpty (e : Entry κ τ) : Bool := e.count == 0

/-- The items, oldest first. -/
def items (e : Entry κ τ) : List (Item κ τ) := e.shard.items e.key

/-- Appends an item that is kept for some time. -/
def push (e : Entry κ τ) (payload : τ) (life : Nat) : Entry κ τ :=
  { e with shard := e.shard.push e.key payload e.now (expiry e.horizon e.now life) }

/-- Removes all items, and tells how many they were. -/
def clear (e : Entry κ τ) : Entry κ τ × Nat :=
  let (shard, n) := e.shard.clear e.key
  ({ e with shard }, n)

end Entry

variable [DecidableEq κ]

/-- Runs a section with exclusive access to the history of a key. -/
def withKey (s : Store κ τ) (key : κ) (now : Nat) (work : Entry κ τ → Entry κ τ × α) : Store κ τ × α :=
  let (e, a) := work ⟨s.shardOf key, key, now, s.horizon⟩
  (s.replaceShard key e.shard, a)

/-- Appends an item to the history of a key. -/
def push (s : Store κ τ) (key : κ) (payload : τ) (now life : Nat) : Store κ τ :=
  s.replaceShard key ((s.shardOf key).push key payload now (expiry s.horizon now life))

/-- The number of items of a key. -/
def count (s : Store κ τ) (key : κ) : Nat := (s.shardOf key).count key

/-- The items of a key, oldest first. -/
def items (s : Store κ τ) (key : κ) : List (Item κ τ) := (s.shardOf key).items key

/-- Removes the items of a key, and tells how many they were. -/
def clear (s : Store κ τ) (key : κ) : Store κ τ × Nat :=
  let (shard, n) := (s.shardOf key).clear key
  (s.replaceShard key shard, n)

/-- Removes the items that have expired from one shard, and tells how many they were. -/
def reclaimShard (s : Store κ τ) (now index : Nat) : Store κ τ × Nat :=
  if h : index < s.shards.size then
    let (shard, n) := s.shards[index].reclaim now
    ({ s with shards := s.shards.set index shard h, shards_nonempty := by simpa using s.shards_nonempty }, n)
  else (s, 0)

/-- Removes all items that have expired, one shard after the other, and tells how many they were. -/
def reclaim (s : Store κ τ) (now : Nat) : Store κ τ × Nat :=
  (List.range s.shardCount).foldl
    (fun (s, total) index =>
      let (s, n) := s.reclaimShard now index
      (s, total + n))
    (s, 0)

/-- The number of keys that have items. -/
def keyCount (s : Store κ τ) : Nat := s.shards.toList.foldr (fun shard n => shard.keys.length + n) 0

/-- The number of all items. -/
def size (s : Store κ τ) : Nat := s.shards.toList.foldr (fun shard n => shard.heap.size + n) 0

end Store

end ChatModeration
