import ChatModeration.Proofs.Store.Refinement
import Mathlib.Data.List.Perm.Basic

/-!
# What lies in the slots

The items in the slots of a shard, whatever their keys, are those of the ledger that it represents, in some order
(`Shard.Represents.lines_perm`).  The same holds of the shards of a store together (`Represents.lines_perm`), so that
what a clear or a sweep takes out of a store can be read off its slots.
-/

namespace ChatModeration.Store

variable {κ τ : Type}

namespace Shard

/-- The items in all slots. -/
def lines (s : Shard κ τ) : List (Line κ τ) := s.slots.toList.filterMap (·.map Item.line)

/-- The item in a slot as it is seen from outside. -/
def line? (s : Shard κ τ) (slot : Nat) : Option (Line κ τ) := (s.item? slot).map Item.line

theorem lt_of_isSome {s : Shard κ τ} {slot : Nat} (h : (s.item? slot).isSome) : slot < s.slots.size := by
  by_contra hge
  simp [item?, Nat.le_of_not_lt hge] at h

/-- The slots are gone through by their numbers. -/
theorem toList_slots (s : Shard κ τ) : s.slots.toList = (List.range s.slots.size).map s.item? := by
  refine List.ext_getElem (by simp) fun i h₁ h₂ => ?_
  have hi : i < s.slots.size := by simpa using h₁
  simp [item?, hi]

theorem lines_eq_filterMap (s : Shard κ τ) : s.lines = (List.range s.slots.size).filterMap s.line? := by
  rw [lines, toList_slots, List.filterMap_map]
  rfl

/-- Slots without an item make no difference. -/
theorem filterMap_occupied (s : Shard κ τ) (slots : List Nat) :
    (slots.filter fun slot => (s.item? slot).isSome).filterMap s.line? = slots.filterMap s.line? := by
  rw [List.filterMap_filter]
  refine List.filterMap_congr fun slot _ => ?_
  cases h : s.item? slot <;> simp [line?, h]

variable [DecidableEq κ]

/-- The key lists name the occupied slots. -/
theorem KeysSound.perm_occupied {s : Shard κ τ} (h : s.KeysSound) :
    ((List.range s.slots.size).filter fun slot => (s.item? slot).isSome).Perm (s.keys.flatMap (·.2)) := by
  refine (List.perm_ext_iff_of_nodup (List.nodup_range.filter _) h.nodup_flatMap).2 fun slot => ?_
  rw [List.mem_filter, h.mem_flatMap, List.mem_range]
  exact ⟨fun hslot => hslot.2, fun hslot => ⟨lt_of_isSome hslot, hslot⟩⟩

/-- The slots have the items of the ledger. -/
theorem Represents.lines_perm {s : Shard κ τ} {l : Ledger κ τ} (h : s.Represents l) : s.lines.Perm l := by
  have hkeys := h.wellFormed.keys
  have hcover : ∀ x ∈ l, x.key ∈ s.keys.map (·.1) := by
    intro x hx
    exact (h.mem_keys x.key).2 (List.mem_map.2 ⟨x, hx, rfl⟩)
  -- key by key, both are the items that are seen under the key
  have hitems : (s.keys.flatMap (·.2)).filterMap s.line? =
      (s.keys.map (·.1)).flatMap fun key => l.filter (·.key = key) := by
    rw [List.filterMap_flatMap, List.flatMap_map]
    refine List.flatMap_congr fun entry he => ?_
    have hkey := h.items entry.1
    rw [Shard.items, hkeys.slotsOf_of_mem he, List.map_filterMap] at hkey
    exact hkey
  rw [lines_eq_filterMap, ← filterMap_occupied]
  refine (hkeys.perm_occupied.filterMap _).trans ?_
  rw [hitems]
  exact perm_flatMap_filter (fun x : Line κ τ => x.key) hkeys.nodup hcover

end Shard

/-- The items in the slots of one shard; there are none if there is no such shard. -/
def linesAt (s : Store κ τ) (index : Nat) : List (Line κ τ) := (s.shards[index]?.map Shard.lines).getD []

/-- The items in the slots of all shards. -/
def lines (s : Store κ τ) : List (Line κ τ) := (List.range s.shardCount).flatMap s.linesAt

variable [DecidableEq κ]

theorem Represents.linesAt_perm {s : Store κ τ} {l : Ledger κ τ} (h : s.Represents l) {index : Nat}
    (hi : index < s.shardCount) : (s.linesAt index).Perm (l.share s.shardIndex index) := by
  have hshard : s.shards[index]? = some s.shards[index] := Array.getElem?_eq_getElem hi
  rw [linesAt, hshard]
  exact (h index _ hshard).lines_perm

theorem Represents.lines_perm {s : Store κ τ} {l : Ledger κ τ} (h : s.Represents l) : s.lines.Perm l := by
  have hshares : s.lines.Perm ((List.range s.shardCount).flatMap fun i => l.filter (s.shardIndex ·.key = i)) :=
    List.Perm.flatMap_left _ fun i hi => h.linesAt_perm (List.mem_range.1 hi)
  exact hshares.trans (perm_flatMap_filter (fun x : Line κ τ => s.shardIndex x.key) List.nodup_range fun x _ =>
    s.shardIndex_mem_range x.key)

end ChatModeration.Store
