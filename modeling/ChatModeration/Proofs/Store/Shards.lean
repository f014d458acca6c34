import ChatModeration.Store.Basic

/-!
# Stores and their shards

Operations on a store change at most one shard, and leave everything else as it is (`SameShape`).
-/

namespace ChatModeration.Store

variable {κ τ α : Type}

/-- Two stores that may differ in their shards only. -/
structure SameShape (s t : Store κ τ) : Prop where
  name : s.name = t.name
  interval : s.interval = t.interval
  horizon : s.horizon = t.horizon
  assign : s.assign = t.assign
  size : s.shards.size = t.shards.size

theorem SameShape.refl (s : Store κ τ) : SameShape s s := ⟨rfl, rfl, rfl, rfl, rfl⟩

theorem SameShape.symm {s t : Store κ τ} (h : SameShape s t) : SameShape t s :=
  ⟨h.name.symm, h.interval.symm, h.horizon.symm, h.assign.symm, h.size.symm⟩

theorem SameShape.trans {s t u : Store κ τ} (h : SameShape s t) (g : SameShape t u) : SameShape s u :=
  ⟨h.name.trans g.name, h.interval.trans g.interval, h.horizon.trans g.horizon, h.assign.trans g.assign,
    h.size.trans g.size⟩

theorem SameShape.shardIndex {s t : Store κ τ} (h : SameShape s t) : s.shardIndex = t.shardIndex := by
  funext key
  rw [Store.shardIndex, Store.shardIndex, shardCount, shardCount, h.assign, h.size]

/-- Stores of the same shape with the same shards are equal. -/
theorem SameShape.eq {s t : Store κ τ} (h : SameShape s t) (hs : ∀ i : Nat, s.shards[i]? = t.shards[i]?) : s = t := by
  obtain ⟨hname, hinterval, hhorizon, hassign, -⟩ := h
  have hshards : s.shards = t.shards := Array.ext_getElem? hs
  cases s
  cases t
  simp_all

theorem getElem?_shardIndex (s : Store κ τ) (key : κ) : s.shards[s.shardIndex key]? = some (s.shardOf key) :=
  Array.getElem?_eq_getElem _

/-- Two stores that may differ in one shard only. -/
structure SameElsewhere (s t : Store κ τ) (i : Nat) : Prop extends SameShape s t where
  others : ∀ j, i ≠ j → s.shards[j]? = t.shards[j]?

theorem SameElsewhere.refl (s : Store κ τ) (i : Nat) : SameElsewhere s s i := ⟨.refl s, fun _ _ => rfl⟩

/-- The shard of a key is found at the same index. -/
theorem SameShape.shardOf {s t : Store κ τ} (h : SameShape s t) {key : κ}
    (hi : s.shards[t.shardIndex key]? = t.shards[t.shardIndex key]?) : s.shardOf key = t.shardOf key := by
  have hs := s.getElem?_shardIndex key
  rw [h.shardIndex, hi, getElem?_shardIndex] at hs
  exact (Option.some.inj hs).symm

theorem SameElsewhere.shardOf {s t : Store κ τ} {i : Nat} (h : SameElsewhere s t i) {key : κ}
    (hne : i ≠ t.shardIndex key) : s.shardOf key = t.shardOf key := h.toSameShape.shardOf (h.others _ hne)

/-! ### Another shard for a key -/

theorem sameShape_replaceShard (s : Store κ τ) (key : κ) (shard : Shard κ τ) :
    SameShape (s.replaceShard key shard) s := ⟨rfl, rfl, rfl, rfl, by simp [replaceShard]⟩

theorem getElem?_replaceShard (s : Store κ τ) (key : κ) (shard : Shard κ τ) (i : Nat) :
    (s.replaceShard key shard).shards[i]? = if s.shardIndex key = i then some shard else s.shards[i]? := by
  simp only [replaceShard]
  exact Array.getElem?_set _

theorem sameElsewhere_replaceShard (s : Store κ τ) (key : κ) (shard : Shard κ τ) :
    SameElsewhere (s.replaceShard key shard) s (s.shardIndex key) := by
  refine ⟨sameShape_replaceShard s key shard, fun j hne => ?_⟩
  rw [getElem?_replaceShard, if_neg hne]

theorem shardOf_replaceShard (s : Store κ τ) (key : κ) (shard : Shard κ τ) :
    (s.replaceShard key shard).shardOf key = shard := by
  have h := getElem?_shardIndex (s.replaceShard key shard) key
  rw [(sameShape_replaceShard s key shard).shardIndex, getElem?_replaceShard, if_pos rfl] at h
  exact (Option.some.inj h).symm

/-! ### A shard without what has expired -/

variable [DecidableEq κ]

theorem sameShape_reclaimShard (s : Store κ τ) (now i : Nat) : SameShape (s.reclaimShard now i).1 s := by
  unfold reclaimShard
  split
  · exact ⟨rfl, rfl, rfl, rfl, by simp⟩
  · exact .refl s

theorem getElem?_reclaimShard (s : Store κ τ) (now i j : Nat) :
    (s.reclaimShard now i).1.shards[j]? =
      if i = j then s.shards[j]?.map fun shard => (shard.reclaim now).1 else s.shards[j]? := by
  unfold reclaimShard
  split
  · rename_i hi
    simp only [Array.getElem?_set]
    split
    · subst j
      rw [Array.getElem?_eq_getElem hi]
      rfl
    · rfl
  · rename_i hi
    split
    · subst j
      rw [Array.getElem?_eq_none (Nat.le_of_not_lt hi)]
      rfl
    · rfl

theorem sameElsewhere_reclaimShard (s : Store κ τ) (now i : Nat) : SameElsewhere (s.reclaimShard now i).1 s i := by
  refine ⟨sameShape_reclaimShard s now i, fun j hne => ?_⟩
  rw [getElem?_reclaimShard, if_neg hne]

end ChatModeration.Store
