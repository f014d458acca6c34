import ChatModeration.Proofs.Store.Ledger
import ChatModeration.Proofs.Store.Shards

/-!
# Stores and ledgers

A store represents a ledger when each of its shards represents the items whose keys are assigned to it
(`Store.Represents`).  Sections with exclusive access to a key are described step by step (`Work`), so that they can
be done on a ledger as well.  Whatever is asked of a store, one request after the other and at any times, its answers
and everything that can be seen of it are those of a ledger (`trace_empty`).
-/

namespace ChatModeration.Store

variable {κ τ α : Type}

/-! ### Shares of a ledger -/

namespace Ledger

/-- The items whose keys are assigned to a shard. -/
def share (l : Ledger κ τ) (shard : κ → Nat) (i : Nat) : Ledger κ τ := l.filter (shard ·.key = i)

theorem share_append (l m : Ledger κ τ) (shard : κ → Nat) (i : Nat) :
    Ledger.share (l ++ m) shard i = l.share shard i ++ m.share shard i := List.filter_append l m

theorem mem_map_key_share {l : Ledger κ τ} {shard : κ → Nat} {i : Nat} {key : κ} :
    key ∈ (l.share shard i).map (·.key) ↔ key ∈ l.map (·.key) ∧ shard key = i := by
  simp only [share, List.mem_map, List.mem_filter, decide_eq_true_eq]
  constructor
  · rintro ⟨x, ⟨hx, hi⟩, rfl⟩
    exact ⟨⟨x, hx, rfl⟩, hi⟩
  · rintro ⟨⟨x, hx, rfl⟩, hi⟩
    exact ⟨x, ⟨hx, hi⟩, rfl⟩

/-- Removes what has expired from the items of one shard, and tells how many items that were. -/
def reclaimShare (l : Ledger κ τ) (shard : κ → Nat) (now i : Nat) : Ledger κ τ × Nat :=
  (l.filter fun x => now < x.expiresAt ∨ shard x.key ≠ i, ((l.share shard i).reclaim now).2)

theorem share_reclaimShare (l : Ledger κ τ) (shard : κ → Nat) (now i : Nat) :
    Ledger.share (l.reclaimShare shard now i).1 shard i = (Ledger.reclaim (l.share shard i) now).1 := by
  rw [share, reclaimShare, reclaim, share, List.filter_filter, List.filter_filter]
  refine List.filter_congr fun x _ => ?_
  by_cases hx : shard x.key = i
  · simp [hx]
  · simp [hx]

/-- A sweep of one shard makes no difference to the others. -/
theorem share_reclaimShare_of_ne (l : Ledger κ τ) (shard : κ → Nat) (now : Nat) {i j : Nat} (h : i ≠ j) :
    Ledger.share (l.reclaimShare shard now i).1 shard j = l.share shard j := by
  rw [share, reclaimShare, share, List.filter_filter]
  refine List.filter_congr fun x _ => ?_
  by_cases hx : shard x.key = j
  · simp [hx, h.symm]
  · simp [hx]

variable [DecidableEq κ]

/-- A key has all of its items in one shard. -/
theorem items_share (l : Ledger κ τ) (shard : κ → Nat) (key : κ) :
    Ledger.items (l.share shard (shard key)) key = l.items key := by
  rw [items, share, List.filter_filter, items]
  refine List.filter_congr fun x _ => ?_
  by_cases hx : x.key = key
  · simp [hx]
  · simp [hx]

theorem count_share (l : Ledger κ τ) (shard : κ → Nat) (key : κ) :
    Ledger.count (l.share shard (shard key)) key = l.count key := by
  rw [count_eq, items_share, ← count_eq]

theorem share_clear (l : Ledger κ τ) (shard : κ → Nat) (key : κ) (i : Nat) :
    Ledger.share (l.clear key).1 shard i = (Ledger.clear (l.share shard i) key).1 := by
  rw [share, clear, clear, share, List.filter_filter, List.filter_filter]
  exact List.filter_congr fun x _ => Bool.and_comm _ _

/-- Clearing a key makes no difference to the other shards. -/
theorem share_clear_of_ne (l : Ledger κ τ) {shard : κ → Nat} {key : κ} {i : Nat} (h : shard key ≠ i) :
    Ledger.share (l.clear key).1 shard i = l.share shard i := by
  rw [share_clear, clear, List.filter_eq_self]
  intro x hx
  have hi : shard x.key = i := by simpa [share] using (List.mem_filter.1 hx).2
  refine decide_eq_true fun hk => h ?_
  rw [← hk, hi]

end Ledger

/-! ### Sections -/

/-- What is done while the history of a key is held, step by step, up to an answer. -/
inductive Work (κ τ α : Type) where
  | done (answer : α)
  | count (next : Nat → Work κ τ α)
  | items (next : List (Line κ τ) → Work κ τ α)
  | push (payload : τ) (life : Nat) (next : Work κ τ α)
  | clear (next : Nat → Work κ τ α)

namespace Work

variable [DecidableEq κ]

/-- Does the work on a history that is held. -/
def run : Work κ τ α → Entry κ τ → Entry κ τ × α
  | done a, e => (e, a)
  | count next, e => (next e.count).run e
  | items next, e => (next (e.items.map Item.line)).run e
  | push payload life next, e => next.run (e.push payload life)
  | clear next, e => (next e.clear.2).run e.clear.1

/-- Does the work on the items of a key in a ledger. -/
def runOn (horizon : Nat) (key : κ) (now : Nat) : Work κ τ α → Ledger κ τ → Ledger κ τ × α
  | done a, l => (l, a)
  | count next, l => (next (l.count key)).runOn horizon key now l
  | items next, l => (next (l.items key)).runOn horizon key now l
  | push payload life next, l => next.runOn horizon key now (l.push horizon key payload now life)
  | clear next, l => (next (l.clear key).2).runOn horizon key now (l.clear key).1

/-- Work on a shard is work on its ledger. -/
theorem run_represents (w : Work κ τ α) {e : Entry κ τ} {l : Ledger κ τ} (h : e.shard.Represents l) :
    (w.run e).1.shard.Represents (w.runOn e.horizon e.key e.now l).1 ∧
      (w.run e).2 = (w.runOn e.horizon e.key e.now l).2 := by
  induction w generalizing e l with
  | done a => exact ⟨h, rfl⟩
  | count next ih =>
    have hc : e.count = l.count e.key := h.count e.key
    rw [run, runOn, hc]
    exact ih _ h
  | items next ih =>
    have hi : e.items.map Item.line = l.items e.key := h.items e.key
    rw [run, runOn, hi]
    exact ih _ h
  | push payload life next ih => exact ih (h.push e.key payload e.now (expiry e.horizon e.now life))
  | clear next ih =>
    have hc : e.clear.2 = (l.clear e.key).2 := h.count e.key
    rw [run, runOn, hc]
    exact ih _ (h.clear e.key)

/-- Work on the items of a key changes the share of its shard and no other. -/
theorem runOn_share (horizon : Nat) (key : κ) (now : Nat) (shard : κ → Nat) (w : Work κ τ α) (l : Ledger κ τ) :
    w.runOn horizon key now (l.share shard (shard key)) =
        ((w.runOn horizon key now l).1.share shard (shard key), (w.runOn horizon key now l).2) ∧
      ∀ i, shard key ≠ i → (w.runOn horizon key now l).1.share shard i = l.share shard i := by
  induction w generalizing l with
  | done a => exact ⟨rfl, fun _ _ => rfl⟩
  | count next ih =>
    rw [runOn, runOn, Ledger.count_share]
    exact ih _ l
  | items next ih =>
    rw [runOn, runOn, Ledger.items_share]
    exact ih _ l
  | push payload life next ih =>
    have hown : Ledger.share (l.push horizon key payload now life) shard (shard key) =
        Ledger.push (l.share shard (shard key)) horizon key payload now life := by
      rw [Ledger.push, Ledger.share_append, Ledger.share, Ledger.share, List.filter_singleton]
      simp [Ledger.push]
    have hother : ∀ i, shard key ≠ i →
        Ledger.share (l.push horizon key payload now life) shard i = l.share shard i := by
      intro i hne
      rw [Ledger.push, Ledger.share_append, Ledger.share, Ledger.share, List.filter_singleton]
      simp [hne]
    -- the rest of the work runs on the ledger after the push, which has grown in one share only
    obtain ⟨ihown, ihother⟩ := ih (l.push horizon key payload now life)
    rw [hown] at ihown
    exact ⟨ihown, fun i hne => (ihother i hne).trans (hother i hne)⟩
  | clear next ih =>
    have hn : (Ledger.clear (l.share shard (shard key)) key).2 = (l.clear key).2 := Ledger.count_share l shard key
    obtain ⟨ihown, ihother⟩ := ih (l.clear key).2 (l.clear key).1
    rw [Ledger.share_clear] at ihown
    rw [runOn, runOn, hn]
    exact ⟨ihown, fun i hne => (ihother i hne).trans (l.share_clear_of_ne hne)⟩

end Work

/-! ### Stores -/

/-- The store shows the items of a ledger. -/
def Represents [DecidableEq κ] (s : Store κ τ) (l : Ledger κ τ) : Prop :=
  ∀ (i : Nat) (shard : Shard κ τ), s.shards[i]? = some shard → shard.Represents (l.share s.shardIndex i)

/-- What is counted shard by shard. -/
theorem foldr_shards (s : Store κ τ) (f : Shard κ τ → Nat) (g : Nat → Nat)
    (hfg : ∀ (i : Nat) (shard : Shard κ τ), s.shards[i]? = some shard → f shard = g i) :
    s.shards.toList.foldr (fun shard n => f shard + n) 0 = ((List.range s.shardCount).map g).sum := by
  have hmap : s.shards.toList.map f = (List.range s.shardCount).map g := by
    refine List.ext_getElem (by simp [shardCount]) fun i h₁ h₂ => ?_
    rw [List.getElem_map, List.getElem_map, List.getElem_range, Array.getElem_toList]
    exact hfg i _ (Array.getElem?_eq_getElem _)
  rw [← hmap, List.sum_eq_foldr, List.foldr_map]

theorem shardIndex_mem_range (s : Store κ τ) (key : κ) : s.shardIndex key ∈ List.range s.shardCount :=
  List.mem_range.2 (s.shardIndex_lt key)

variable [DecidableEq κ]

theorem represents_empty (name : String) (shardCount interval horizon : Nat) (assign : κ → Nat) :
    (Store.empty name shardCount interval horizon assign : Store κ τ).Represents [] := by
  intro i shard hi
  rw [show (Store.empty name shardCount interval horizon assign : Store κ τ).shards =
    Array.replicate (max shardCount 1) {} from rfl, Array.getElem?_replicate] at hi
  split at hi
  · obtain rfl := Option.some.inj hi
    exact Shard.represents_empty
  · cases hi

theorem Represents.shardOf {s : Store κ τ} {l : Ledger κ τ} (h : s.Represents l) (key : κ) :
    (s.shardOf key).Represents (l.share s.shardIndex (s.shardIndex key)) := h _ _ (s.getElem?_shardIndex key)

theorem Represents.replaceShard {s : Store κ τ} {l m : Ledger κ τ} (h : s.Represents l) {key : κ}
    {shard : Shard κ τ} (hown : shard.Represents (m.share s.shardIndex (s.shardIndex key)))
    (hother : ∀ i, s.shardIndex key ≠ i → m.share s.shardIndex i = l.share s.shardIndex i) :
    (s.replaceShard key shard).Represents m := by
  intro i t hi
  rw [getElem?_replaceShard] at hi
  rw [(sameShape_replaceShard s key shard).shardIndex]
  split at hi
  · subst i
    obtain rfl := Option.some.inj hi
    exact hown
  · rename_i hne
    rw [hother i hne]
    exact h i t hi

/-- A section with exclusive access to a key does its work on the ledger. -/
theorem Represents.withKey {s : Store κ τ} {l : Ledger κ τ} (h : s.Represents l) (key : κ) (now : Nat)
    (w : Work κ τ α) :
    (s.withKey key now w.run).1.Represents (w.runOn s.horizon key now l).1 ∧
      (s.withKey key now w.run).2 = (w.runOn s.horizon key now l).2 := by
  obtain ⟨hrep, hanswer⟩ := w.run_represents (e := ⟨s.shardOf key, key, now, s.horizon⟩) (h.shardOf key)
  obtain ⟨hown, hother⟩ := w.runOn_share s.horizon key now s.shardIndex l
  rw [hown] at hrep hanswer
  exact ⟨h.replaceShard hrep hother, hanswer⟩

theorem Represents.push {s : Store κ τ} {l : Ledger κ τ} (h : s.Represents l) (key : κ) (payload : τ)
    (now life : Nat) : (s.push key payload now life).Represents (l.push s.horizon key payload now life) :=
  (h.withKey key now (.push payload life (.done ()))).1

theorem Represents.clear {s : Store κ τ} {l : Ledger κ τ} (h : s.Represents l) (key : κ) :
    (s.clear key).1.Represents (l.clear key).1 ∧ (s.clear key).2 = (l.clear key).2 :=
  h.withKey key 0 (.clear .done)

theorem Represents.count {s : Store κ τ} {l : Ledger κ τ} (h : s.Represents l) (key : κ) :
    s.count key = l.count key := by
  rw [← Ledger.count_share l s.shardIndex key]
  exact (h.shardOf key).count key

theorem Represents.items {s : Store κ τ} {l : Ledger κ τ} (h : s.Represents l) (key : κ) :
    (s.items key).map Item.line = l.items key := by
  rw [← Ledger.items_share l s.shardIndex key]
  exact (h.shardOf key).items key

theorem Represents.size {s : Store κ τ} {l : Ledger κ τ} (h : s.Represents l) : s.size = l.size := by
  rw [Store.size, s.foldr_shards (·.heap.size) (fun i => (l.share s.shardIndex i).length) fun i shard hi =>
    (h i shard hi).size]
  exact sum_length_filter (fun x : Line κ τ => s.shardIndex x.key) List.nodup_range fun x _ =>
    s.shardIndex_mem_range x.key

theorem Represents.keyCount {s : Store κ τ} {l : Ledger κ τ} (h : s.Represents l) : s.keyCount = l.keyCount := by
  have hkeys : ∀ (i : Nat) (shard : Shard κ τ), s.shards[i]? = some shard →
      shard.keys.length = ((l.map (·.key)).dedup.filter (s.shardIndex · = i)).length := by
    intro i shard hi
    have hnodup := (h i shard hi).wellFormed.keys.nodup
    -- the ledger may have a key many times, the shard has it once
    have hperm : (shard.keys.map (·.1)).Perm ((l.map (·.key)).dedup.filter (s.shardIndex · = i)) := by
      refine (List.perm_ext_iff_of_nodup hnodup ((List.nodup_dedup _).filter _)).2 fun key => ?_
      rw [(h i shard hi).mem_keys, Ledger.mem_map_key_share, List.mem_filter, List.mem_dedup, decide_eq_true_eq]
    rw [← hperm.length_eq, List.length_map]
  rw [Store.keyCount, s.foldr_shards (·.keys.length) _ hkeys]
  exact sum_length_filter s.shardIndex List.nodup_range fun key _ => s.shardIndex_mem_range key

/-! ### Sweeps -/

theorem Represents.reclaimShard {s : Store κ τ} {l : Ledger κ τ} (h : s.Represents l) (now : Nat) {i : Nat}
    (hi : i < s.shardCount) :
    (s.reclaimShard now i).1.Represents (l.reclaimShare s.shardIndex now i).1 ∧
      (s.reclaimShard now i).2 = (l.reclaimShare s.shardIndex now i).2 := by
  constructor
  · intro j t hj
    rw [getElem?_reclaimShard] at hj
    rw [(sameShape_reclaimShard s now i).shardIndex]
    split at hj
    · subst j
      obtain ⟨shard, hshard, rfl⟩ := Option.map_eq_some_iff.1 hj
      rw [Ledger.share_reclaimShare]
      exact (h i shard hshard).reclaim now
    · rename_i hne
      rw [Ledger.share_reclaimShare_of_ne _ _ _ hne]
      exact h j t hj
  · have hlt : i < s.shards.size := hi
    rw [Store.reclaimShard, dif_pos hlt]
    exact (h i _ (Array.getElem?_eq_getElem hlt)).reclaim_count now

/-- Some shards are swept, one after the other. -/
theorem Represents.foldl_reclaimShard {s : Store κ τ} {l : Ledger κ τ} (h : s.Represents l) (now total : Nat)
    {order : List Nat} (hn : order.Nodup) (hlt : ∀ i ∈ order, i < s.shardCount) :
    ∃ t, order.foldl (fun (s, total) index =>
          let (s, n) := s.reclaimShard now index
          (s, total + n)) (s, total) =
        (t, total + (order.map fun i => (l.reclaimShare s.shardIndex now i).2).sum) ∧
      t.Represents (l.filter fun x => now < x.expiresAt ∨ s.shardIndex x.key ∉ order) ∧ t.horizon = s.horizon := by
  induction order generalizing s l total with
  | nil =>
    refine ⟨s, rfl, ?_, rfl⟩
    rw [List.filter_eq_self.2 fun x _ => by simp]
    exact h
  | cons i order ih =>
    rw [List.nodup_cons] at hn
    obtain ⟨hrep, hcount⟩ := h.reclaimShard now (hlt i List.mem_cons_self)
    have hsize : (s.reclaimShard now i).1.shardCount = s.shardCount := (sameShape_reclaimShard s now i).size
    obtain ⟨t, hfold, ht, hhorizon⟩ := ih hrep (total + (s.reclaimShard now i).2) hn.2 fun j hj => by
      rw [hsize]
      exact hlt j (List.mem_cons_of_mem _ hj)
    refine ⟨t, ?_, ?_, hhorizon.trans (sameShape_reclaimShard s now i).horizon⟩
    -- the shards that are still to be swept have the same share of the ledger as before
    · have hrest : order.map (fun j =>
          (Ledger.reclaimShare (l.reclaimShare s.shardIndex now i).1 s.shardIndex now j).2) =
          order.map fun j => (l.reclaimShare s.shardIndex now j).2 := by
        refine List.map_congr_left fun j hj => ?_
        have hne : i ≠ j := fun e => hn.1 (e ▸ hj)
        rw [Ledger.reclaimShare, Ledger.share_reclaimShare_of_ne _ _ _ hne]
        rfl
      rw [(sameShape_reclaimShard s now i).shardIndex, hrest] at hfold
      rw [List.foldl_cons, List.map_cons, List.sum_cons, ← Nat.add_assoc, ← hcount]
      exact hfold
    · rw [(sameShape_reclaimShard s now i).shardIndex, Ledger.reclaimShare, List.filter_filter] at ht
      have hboth : l.filter (fun x => now < x.expiresAt ∨ s.shardIndex x.key ∉ i :: order) =
          l.filter fun x => decide (now < x.expiresAt ∨ s.shardIndex x.key ∉ order) &&
            decide (now < x.expiresAt ∨ s.shardIndex x.key ≠ i) := by
        refine List.filter_congr fun x _ => ?_
        by_cases hlive : now < x.expiresAt
        · simp [hlive]
        · simp [hlive, Bool.and_comm]
      rw [hboth]
      exact ht

/-- A sweep removes what has expired from the ledger. -/
theorem Represents.reclaim {s : Store κ τ} {l : Ledger κ τ} (h : s.Represents l) (now : Nat) :
    (s.reclaim now).1.Represents (l.reclaim now).1 ∧ (s.reclaim now).2 = (l.reclaim now).2 ∧
      (s.reclaim now).1.horizon = s.horizon := by
  obtain ⟨t, hfold, ht, hhorizon⟩ := h.foldl_reclaimShard now 0 List.nodup_range fun i hi => List.mem_range.1 hi
  have hreclaim : s.reclaim now =
      (t, 0 + ((List.range s.shardCount).map fun i => (l.reclaimShare s.shardIndex now i).2).sum) := hfold
  rw [hreclaim]
  refine ⟨?_, ?_, hhorizon⟩
  · rw [Ledger.reclaim]
    have hall : l.filter (fun x => now < x.expiresAt ∨ s.shardIndex x.key ∉ List.range s.shardCount) =
        l.filter (now < ·.expiresAt) :=
      List.filter_congr fun x _ => by simp only [s.shardIndex_mem_range x.key, not_true_eq_false, or_false]
    rw [← hall]
    exact ht
  -- every item belongs to one of the shards
  · show 0 + _ = (l.reclaim now).2
    rw [Nat.zero_add, Ledger.reclaim, List.countP_eq_length_filter,
      ← sum_length_filter (fun x : Line κ τ => s.shardIndex x.key) List.nodup_range fun x _ =>
        s.shardIndex_mem_range x.key]
    refine congrArg List.sum (List.map_congr_left fun i _ => ?_)
    show List.countP _ (l.filter _) = _
    rw [List.countP_eq_length_filter, List.filter_filter, List.filter_filter]
    exact congrArg List.length (List.filter_congr fun x _ => Bool.and_comm _ _)

/-! ### Requests -/

/-- Something that is asked of a store. -/
inductive Request (κ τ α : Type) where
  | push (key : κ) (payload : τ) (life : Nat)
  | clear (key : κ)
  /-- A section with exclusive access to a key. -/
  | hold (key : κ) (work : Work κ τ α)
  | reclaim

/-- The answer to a request. -/
inductive Answer (α : Type) where
  | done
  /-- How many items have been removed. -/
  | removed (n : Nat)
  | value (a : α)

/-- All that can be seen of a store. -/
structure View (κ τ : Type) where
  count : κ → Nat
  items : κ → List (Line κ τ)
  keyCount : Nat
  size : Nat

/-- What is seen of the store. -/
def view (s : Store κ τ) : View κ τ := ⟨s.count, fun key => (s.items key).map Item.line, s.keyCount, s.size⟩

/-- The store after a request at some time, and the answer. -/
def serve (s : Store κ τ) (now : Nat) : Request κ τ α → Store κ τ × Answer α
  | .push key payload life => (s.push key payload now life, .done)
  | .clear key => ((s.clear key).1, .removed (s.clear key).2)
  | .hold key work => ((s.withKey key now work.run).1, .value (s.withKey key now work.run).2)
  | .reclaim => ((s.reclaim now).1, .removed (s.reclaim now).2)

/-- The answers to some requests, each at its time, and what is seen of the store after each of them. -/
def trace (s : Store κ τ) : List (Nat × Request κ τ α) → List (Answer α × View κ τ)
  | [] => []
  | (now, r) :: requests => ((s.serve now r).2, (s.serve now r).1.view) :: (s.serve now r).1.trace requests

namespace Ledger

/-- What is seen of the ledger. -/
def view (l : Ledger κ τ) : View κ τ := ⟨l.count, l.items, l.keyCount, l.size⟩

/-- The ledger after a request at some time, and the answer. -/
def serve (horizon : Nat) (l : Ledger κ τ) (now : Nat) : Request κ τ α → Ledger κ τ × Answer α
  | .push key payload life => (l.push horizon key payload now life, .done)
  | .clear key => ((l.clear key).1, .removed (l.clear key).2)
  | .hold key work => ((work.runOn horizon key now l).1, .value (work.runOn horizon key now l).2)
  | .reclaim => ((l.reclaim now).1, .removed (l.reclaim now).2)

/-- The answers to some requests, each at its time, and what is seen of the ledger after each of them. -/
def trace (horizon : Nat) (l : Ledger κ τ) : List (Nat × Request κ τ α) → List (Answer α × View κ τ)
  | [] => []
  | (now, r) :: requests =>
    ((l.serve horizon now r).2, Ledger.view (l.serve horizon now r).1) ::
      Ledger.trace horizon (l.serve horizon now r).1 requests

end Ledger

theorem Represents.view {s : Store κ τ} {l : Ledger κ τ} (h : s.Represents l) : s.view = l.view := by
  rw [Store.view, Ledger.view, h.keyCount, h.size, funext h.count]
  exact congrArg (View.mk _ · _ _) (funext h.items)

theorem horizon_serve (s : Store κ τ) {l : Ledger κ τ} (h : s.Represents l) (now : Nat) (r : Request κ τ α) :
    (s.serve now r).1.horizon = s.horizon := by
  cases r with
  | push key payload life => rfl
  | clear key => rfl
  | hold key work => rfl
  | reclaim => exact (h.reclaim now).2.2

/-- A request has the same answer from a store and from its ledger, and does the same to both. -/
theorem Represents.serve {s : Store κ τ} {l : Ledger κ τ} (h : s.Represents l) (now : Nat) (r : Request κ τ α) :
    (s.serve now r).1.Represents (l.serve s.horizon now r).1 ∧ (s.serve now r).2 = (l.serve s.horizon now r).2 := by
  cases r with
  | push key payload life => exact ⟨h.push key payload now life, rfl⟩
  | clear key => exact ⟨(h.clear key).1, congrArg Answer.removed (h.clear key).2⟩
  | hold key work => exact ⟨(h.withKey key now work).1, congrArg Answer.value (h.withKey key now work).2⟩
  | reclaim => exact ⟨(h.reclaim now).1, congrArg Answer.removed (h.reclaim now).2.1⟩

theorem Represents.trace {s : Store κ τ} {l : Ledger κ τ} (h : s.Represents l)
    (requests : List (Nat × Request κ τ α)) : s.trace requests = l.trace s.horizon requests := by
  induction requests generalizing s l with
  | nil => rfl
  | cons request requests ih =>
    obtain ⟨now, r⟩ := request
    obtain ⟨hrep, hanswer⟩ := h.serve now r
    have hrest := ih hrep
    rw [horizon_serve s h] at hrest
    rw [Store.trace, Ledger.trace, hanswer, hrep.view, hrest]

/--
A store that starts without items, with at least one shard, answers requests like a ledger and looks like one after
each of them.
-/
theorem trace_empty (name : String) (shardCount interval horizon : Nat) (assign : κ → Nat)
    (requests : List (Nat × Request κ τ α)) :
    (Store.empty name shardCount interval horizon assign : Store κ τ).shardCount = max shardCount 1 ∧
      (Store.empty name shardCount interval horizon assign : Store κ τ).trace requests =
        Ledger.trace horizon [] requests :=
  ⟨Array.size_replicate, (represents_empty name shardCount interval horizon assign).trace requests⟩

end ChatModeration.Store
