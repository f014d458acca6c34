import ChatModeration.Proofs.Store.Operations
import ChatModeration.Store.Basic
import Mathlib.Algebra.GroupWithZero.Nat
import Mathlib.Data.List.Dedup

/-!
# Ledgers

A ledger is one list of all items, in the order in which they were put in, without slots, heap or shards.  Its
operations are those of a store, said on the list.  A shard represents a ledger when it is well-formed and shows the
same items under every key (`Shard.Represents`); then it has the same keys and as many items.
-/

namespace ChatModeration.Store

variable {κ τ : Type}

/-- Things that are shared out among some classes are all found class by class. -/
theorem perm_flatMap_filter {α ι : Type} [DecidableEq ι] (f : α → ι) {classes : List ι} (hn : classes.Nodup)
    {l : List α} (h : ∀ x ∈ l, f x ∈ classes) : (classes.flatMap fun i => l.filter (f · = i)).Perm l := by
  induction classes generalizing l with
  | nil =>
    rw [List.eq_nil_iff_forall_not_mem.2 fun x hx => List.not_mem_nil (h x hx)]
    exact List.Perm.nil
  | cons i classes ih =>
    rw [List.nodup_cons] at hn
    have hrest : ∀ x ∈ l.filter (fun x => !decide (f x = i)), f x ∈ classes := by
      intro x hx
      rw [List.mem_filter] at hx
      exact (List.mem_cons.1 (h x hx.1)).resolve_left (by simpa using hx.2)
    have hsame : ∀ j ∈ classes,
        (l.filter (fun x => !decide (f x = i))).filter (f · = j) = l.filter (f · = j) := by
      intro j hj
      rw [List.filter_filter]
      refine List.filter_congr fun x _ => ?_
      by_cases hx : f x = j
      · simp [hx, show j ≠ i from fun e => hn.1 (e ▸ hj)]
      · simp [hx]
    have hothers := ih hn.2 hrest
    rw [List.flatMap_congr hsame] at hothers
    rw [List.flatMap_cons]
    exact (hothers.append_left _).trans (List.filter_append_perm _ l)

/-- Things that are shared out among some classes are counted class by class. -/
theorem sum_length_filter {α ι : Type} [DecidableEq ι] (f : α → ι) {classes : List ι} (hn : classes.Nodup)
    {l : List α} (h : ∀ x ∈ l, f x ∈ classes) :
    (classes.map fun i => (l.filter (f · = i)).length).sum = l.length := by
  rw [← List.length_flatMap]
  exact (perm_flatMap_filter f hn h).length_eq

/-- An item as it is seen from outside. -/
structure Line (κ τ : Type) where
  key : κ
  payload : τ
  insertedAt : Nat
  expiresAt : Nat
deriving DecidableEq, Repr

/-- What is seen of an item. -/
def Item.line (x : Item κ τ) : Line κ τ := ⟨x.key, x.payload, x.insertedAt, x.expiresAt⟩

/-- All items, the oldest first. -/
abbrev Ledger (κ τ : Type) := List (Line κ τ)

namespace Ledger

/-- Appends an item that is kept for some time, or not at all if the clock cannot show when it expires. -/
def push (l : Ledger κ τ) (horizon : Nat) (key : κ) (payload : τ) (now life : Nat) : Ledger κ τ :=
  l ++ [⟨key, payload, now,
    if now + min life longestLife ≤ horizon then now + min life longestLife else now⟩]

/-- Removes what has expired, and tells how many items that were. -/
def reclaim (l : Ledger κ τ) (now : Nat) : Ledger κ τ × Nat :=
  (l.filter (now < ·.expiresAt), l.countP (·.expiresAt ≤ now))

/-- The number of all items. -/
def size (l : Ledger κ τ) : Nat := l.length

variable [DecidableEq κ]

/-- The items of a key, the oldest first. -/
def items (l : Ledger κ τ) (key : κ) : List (Line κ τ) := l.filter (·.key = key)

/-- The number of items of a key. -/
def count (l : Ledger κ τ) (key : κ) : Nat := l.countP (·.key = key)

/-- Removes the items of a key, and tells how many they were. -/
def clear (l : Ledger κ τ) (key : κ) : Ledger κ τ × Nat := (l.filter (·.key ≠ key), l.countP (·.key = key))

/-- The number of keys that have items. -/
def keyCount (l : Ledger κ τ) : Nat := (l.map (·.key)).dedup.length

theorem items_eq_nil_iff {l : Ledger κ τ} {key : κ} : l.items key = [] ↔ key ∉ l.map (·.key) := by
  simp only [items, List.filter_eq_nil_iff, decide_eq_true_eq, List.mem_map, not_exists, not_and]

theorem count_eq (l : Ledger κ τ) (key : κ) : l.count key = (l.items key).length := List.countP_eq_length_filter

theorem items_push (l : Ledger κ τ) (x : Line κ τ) (key : κ) :
    Ledger.items (l ++ [x]) key = l.items key ++ if x.key = key then [x] else [] := by
  rw [items, List.filter_append, List.filter_singleton]
  by_cases h : x.key = key <;> simp [h, items]

theorem items_clear (l : Ledger κ τ) (key k : κ) :
    Ledger.items (l.clear key).1 k = if k = key then [] else l.items k := by
  rw [items, clear, List.filter_filter]
  split
  · subst k
    rw [List.filter_eq_nil_iff]
    simp
  · rename_i hne
    refine List.filter_congr fun x _ => ?_
    by_cases hx : x.key = k
    · simp [hx, hne]
    · simp [hx]

theorem items_filter (l : Ledger κ τ) (p : Line κ τ → Bool) (key : κ) :
    Ledger.items (l.filter p) key = (l.items key).filter p := by
  rw [items, items, List.filter_filter, List.filter_filter]
  exact List.filter_congr fun x _ => Bool.and_comm _ _

end Ledger

/-! ### Shards and ledgers -/

namespace Shard

theorem map_line_eq (xs : List (Item κ τ)) : xs.map Item.line = (xs.map Item.unplaced).map Item.line := by
  rw [List.map_map]
  rfl

variable [DecidableEq κ]

/-- The shard shows the items of a ledger. -/
structure Represents (s : Shard κ τ) (l : Ledger κ τ) : Prop where
  wellFormed : s.WellFormed
  items : ∀ key, (s.items key).map Item.line = l.items key

theorem represents_empty : Represents ({} : Shard κ τ) [] := ⟨wellFormed_empty, fun _ => rfl⟩

theorem Represents.push {s : Shard κ τ} {l : Ledger κ τ} (h : s.Represents l) (key : κ) (payload : τ)
    (now expiresAt : Nat) :
    (s.push key payload now expiresAt).Represents (l ++ [⟨key, payload, now, expiresAt⟩]) := by
  refine ⟨h.wellFormed.push key payload now expiresAt, fun k => ?_⟩
  rw [map_line_eq, items_push h.wellFormed, List.map_append, ← map_line_eq, h.items, Ledger.items_push]
  congr 1
  split <;> rfl

theorem Represents.clear {s : Shard κ τ} {l : Ledger κ τ} (h : s.Represents l) (key : κ) :
    (s.clear key).1.Represents (l.clear key).1 := by
  refine ⟨(clear_spec h.wellFormed key).2.1, fun k => ?_⟩
  rw [map_line_eq, items_clear h.wellFormed, Ledger.items_clear]
  split
  · rfl
  · rw [← map_line_eq, h.items]

theorem Represents.reclaim {s : Shard κ τ} {l : Ledger κ τ} (h : s.Represents l) (now : Nat) :
    (s.reclaim now).1.Represents (l.reclaim now).1 := by
  obtain ⟨hw, -, hi⟩ := reclaim_spec h.wellFormed now
  refine ⟨hw, fun k => ?_⟩
  rw [map_line_eq, hi, ← map_line_eq, Ledger.reclaim, Ledger.items_filter, ← h.items, List.filter_map]
  rfl

theorem Represents.count {s : Shard κ τ} {l : Ledger κ τ} (h : s.Represents l) (key : κ) :
    s.count key = l.count key := by
  rw [count_eq_length_items h.wellFormed, Ledger.count_eq, ← h.items, List.length_map]

theorem Represents.mem_keys {s : Shard κ τ} {l : Ledger κ τ} (h : s.Represents l) (key : κ) :
    key ∈ s.keys.map (·.1) ↔ key ∈ l.map (·.key) := by
  have hcount := h.count key
  rw [Ledger.count_eq] at hcount
  have hnil : l.items key = [] ↔ s.slotsOf key = [] := by
    rw [← List.length_eq_zero_iff, ← hcount]
    exact List.length_eq_zero_iff
  rw [← not_iff_not, ← Ledger.items_eq_nil_iff, hnil]
  constructor
  · exact slotsIn_eq_nil
  · intro he hmem
    obtain ⟨entry, hm, rfl⟩ := List.mem_map.1 hmem
    exact h.wellFormed.keys.nonempty entry hm ((slotsIn_of_mem h.wellFormed.keys.nodup hm).symm.trans he)

/-- A shard has as many items as the ledger. -/
theorem Represents.size {s : Shard κ τ} {l : Ledger κ τ} (h : s.Represents l) : s.heap.size = l.length := by
  have hk := h.wellFormed.keys
  -- heap and key lists name the same slots, and the key lists are counted key by key
  have hperm : s.heapSlots.Perm (s.keys.flatMap (·.2)) :=
    (List.perm_ext_iff_of_nodup h.wellFormed.heap.nodup hk.nodup_flatMap).2 fun slot => by
      rw [h.wellFormed.heap.mem_iff, hk.mem_flatMap]
  have hcover : ∀ x ∈ l, x.key ∈ s.keys.map (·.1) := by
    intro x hx
    exact (h.mem_keys x.key).2 (List.mem_map.2 ⟨x, hx, rfl⟩)
  rw [← length_heapSlots, hperm.length_eq, List.length_flatMap, ← sum_length_filter (·.key) hk.nodup hcover,
    List.map_map]
  refine congrArg List.sum (List.map_congr_left fun entry he => ?_)
  show entry.2.length = (l.items entry.1).length
  rw [← Ledger.count_eq, ← h.count, Shard.count, hk.slotsOf_of_mem he]

theorem Represents.reclaim_count {s : Shard κ τ} {l : Ledger κ τ} (h : s.Represents l) (now : Nat) :
    (s.reclaim now).2 = (l.reclaim now).2 := by
  have hsize := (reclaim_spec h.wellFormed now).2.1
  rw [h.size, (h.reclaim now).size] at hsize
  have hlen := List.length_eq_countP_add_countP (now < ·.expiresAt) (l := l)
  have hdead : l.countP (fun x => decide ¬decide (now < x.expiresAt) = true) = l.countP (·.expiresAt ≤ now) :=
    List.countP_congr fun x _ => by simp
  rw [hdead] at hlen
  rw [Ledger.reclaim, ← List.countP_eq_length_filter] at hsize
  rw [Ledger.reclaim]
  omega

end Shard

end ChatModeration.Store
