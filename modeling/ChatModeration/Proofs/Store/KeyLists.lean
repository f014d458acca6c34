import ChatModeration.Store.Shard
import Mathlib.Data.List.Nodup

/-!
# The key lists of a shard

What each change of the key lists does to the list of every key (`slotsIn_link`, `slotsIn_dropKey`, `slotsIn_shrink`).
The numbers of the items ascend along the list of a key, so the search by halves finds a vacated slot
(`search_eq_some`), and the slot is erased from the list of its key (`withoutSlot_eq_erase`).
-/

namespace ChatModeration.Store.Shard

variable {κ τ : Type}

/-! ### The search by halves -/

theorem searchFrom_eq_some {numbers : Array Nat} {target i : Nat} (hs : numbers.toList.Pairwise (· < ·))
    (hi : numbers[i]? = some target) {low high : Nat} (hl : low ≤ i) (hh : i < high) (hn : high ≤ numbers.size) :
    searchFrom numbers target low high = some i := by
  have hmono : ∀ a b : Nat, a < b → ∀ x y : Nat, numbers[a]? = some x → numbers[b]? = some y → x < y := by
    intro a b hab x y hx hy
    obtain ⟨ha, rfl⟩ := Array.getElem?_eq_some_iff.1 hx
    obtain ⟨hb, rfl⟩ := Array.getElem?_eq_some_iff.1 hy
    exact List.pairwise_iff_getElem.1 hs a b (by simpa using ha) (by simpa using hb) hab
  fun_induction searchFrom numbers target low high with
  | case1 low high hlt middle hnone =>
    rw [Array.getElem?_eq_none_iff] at hnone
    omega
  | case2 low high hlt middle hm =>
    rcases Nat.lt_trichotomy middle i with h | h | h
    · exact absurd (hmono _ _ h _ _ hm hi) (Nat.lt_irrefl _)
    · rw [h]
    · exact absurd (hmono _ _ h _ _ hi hm) (Nat.lt_irrefl _)
  | case3 low high hlt middle n hm hne hlt' ih =>
    refine ih ?_ hh hn
    by_contra hge
    rcases Nat.lt_or_eq_of_le (show i ≤ middle by omega) with h | h
    · have := hmono _ _ h _ _ hi hm
      omega
    · rw [h, hm] at hi
      exact hne (Option.some.inj hi)
  | case4 low high hlt middle n hm hne hge ih =>
    refine ih hl ?_ (by omega)
    by_contra hle
    rcases Nat.lt_or_eq_of_le (show middle ≤ i by omega) with h | h
    · have := hmono _ _ h _ _ hm hi
      omega
    · rw [← h, hm] at hi
      exact hne (Option.some.inj hi)
  | case5 low high hge => omega

/-- In a list of ascending numbers the search finds every number. -/
theorem search_eq_some {numbers : List Nat} {target i : Nat} (hs : numbers.Pairwise (· < ·))
    (hi : numbers[i]? = some target) : search numbers target = some i := by
  have hlt := (List.getElem?_eq_some_iff.1 hi).1
  exact searchFrom_eq_some (by simpa using hs) (by simpa using hi) (Nat.zero_le i) hlt (by simp)

/-- The number by which a slot is searched in the list of its key. -/
def numberOf (s : Shard κ τ) (sequence slot : Nat) : Nat := ((s.item? slot).map (·.sequence)).getD sequence

/-- A vacated slot is erased from the list in which the numbers ascend. -/
theorem withoutSlot_eq_erase {s : Shard κ τ} {slot sequence : Nat} (hv : s.item? slot = none) {slots : List Nat}
    (hs : (slots.map (s.numberOf sequence)).Pairwise (· < ·)) :
    s.withoutSlot slot sequence slots = slots.erase slot := by
  -- the vacated slot has no item any more, and the search takes the given number for it
  have hvac : s.numberOf sequence slot = sequence := by rw [numberOf, hv]; rfl
  rcases slots with _ | ⟨first, rest⟩
  · rfl
  · by_cases hfirst : first = slot
    · simp only [withoutSlot, if_pos hfirst]
      rw [hfirst, List.erase_cons_head]
    · have hnumbers : (first :: rest).map (fun t => ((s.item? t).map (·.sequence)).getD sequence) =
          (first :: rest).map (s.numberOf sequence) := rfl
      simp only [withoutSlot, if_neg hfirst, hnumbers]
      by_cases hmem : slot ∈ first :: rest
      · obtain ⟨i, hi⟩ := List.mem_iff_getElem?.1 hmem
        have hfound : search ((first :: rest).map (s.numberOf sequence)) sequence = some i :=
          search_eq_some hs (by rw [List.getElem?_map, hi, Option.map_some, hvac])
        have hnd : (first :: rest).Nodup := List.Nodup.of_map _ (hs.imp Nat.ne_of_lt)
        obtain ⟨hlt, hget⟩ := List.getElem?_eq_some_iff.1 hi
        rw [hfound]
        simp only [hi, ↓reduceIte]
        rw [List.erase_eq_eraseIdx_of_idxOf]
        rw [← hget]
        exact (hnd.idxOf_getElem i hlt).symm ▸ rfl
      · rw [List.erase_of_not_mem hmem]
        split
        · rfl
        · split
          · exact absurd (List.mem_of_getElem? ‹_›) hmem
          · rfl

/-! ### The list of a key -/

variable [DecidableEq κ]

/-- The slots under a key. -/
def slotsIn (keys : List (κ × List Nat)) (key : κ) : List Nat := (keys.lookup key).getD []

theorem slotsIn_cons (entry : κ × List Nat) (keys : List (κ × List Nat)) (key : κ) :
    slotsIn (entry :: keys) key = if entry.1 = key then entry.2 else slotsIn keys key := by
  unfold slotsIn
  rw [List.lookup_cons]
  by_cases h : entry.1 = key
  · simp [h]
  · have hne : (key == entry.1) = false := beq_eq_false_iff_ne.2 (Ne.symm h)
    rw [hne, if_neg h]

theorem slotsIn_of_mem {keys : List (κ × List Nat)} (hn : (keys.map (·.1)).Nodup) {entry : κ × List Nat}
    (h : entry ∈ keys) : slotsIn keys entry.1 = entry.2 := by
  induction keys with
  | nil => cases h
  | cons e keys ih =>
    rw [List.map_cons, List.nodup_cons] at hn
    rw [slotsIn_cons]
    rcases List.mem_cons.1 h with rfl | h
    · rw [if_pos rfl]
    · rw [if_neg fun he : e.1 = entry.1 => hn.1 (List.mem_map.2 ⟨entry, h, he.symm⟩)]
      exact ih hn.2 h

theorem mem_of_slotsIn_ne_nil {keys : List (κ × List Nat)} {key : κ} (h : slotsIn keys key ≠ []) :
    (key, slotsIn keys key) ∈ keys := by
  induction keys with
  | nil => exact absurd rfl h
  | cons e keys ih =>
    rw [slotsIn_cons] at h ⊢
    by_cases he : e.1 = key
    · subst he
      simp
    · rw [if_neg he] at h ⊢
      exact List.mem_cons_of_mem _ (ih h)

theorem slotsIn_eq_nil {keys : List (κ × List Nat)} {key : κ} (h : key ∉ keys.map (·.1)) : slotsIn keys key = [] := by
  by_contra hne
  exact h (List.mem_map.2 ⟨_, mem_of_slotsIn_ne_nil hne, rfl⟩)

theorem slotsIn_link (key : κ) (slot : Nat) (keys : List (κ × List Nat)) (k : κ) :
    slotsIn (link key slot keys) k = slotsIn keys k ++ if key = k then [slot] else [] := by
  induction keys with
  | nil =>
    rw [link, slotsIn_cons]
    rfl
  | cons e keys ih =>
    unfold link
    by_cases he : e.1 = key
    · simp only [he, ↓reduceIte, slotsIn_cons]
      split <;> simp
    · simp only [he, ↓reduceIte, slotsIn_cons, ih]
      by_cases hk : e.1 = k
      · simp [hk, show ¬key = k from fun h => he (hk.trans h.symm)]
      · simp [hk]

theorem mem_map_fst_link {key : κ} {slot : Nat} {keys : List (κ × List Nat)} {k : κ} :
    k ∈ (link key slot keys).map (·.1) ↔ k = key ∨ k ∈ keys.map (·.1) := by
  induction keys with
  | nil => simp [link]
  | cons e keys ih =>
    unfold link
    split
    · simp [← ‹e.1 = key›]
    · rw [List.map_cons, List.mem_cons, ih, List.map_cons, List.mem_cons]
      exact or_left_comm

theorem nodup_map_fst_link {keys : List (κ × List Nat)} (hn : (keys.map (·.1)).Nodup) (key : κ) (slot : Nat) :
    ((link key slot keys).map (·.1)).Nodup := by
  induction keys with
  | nil => simp [link]
  | cons e keys ih =>
    rw [List.map_cons, List.nodup_cons] at hn
    unfold link
    split
    · rw [List.map_cons, List.nodup_cons]
      exact hn
    · rename_i hne
      rw [List.map_cons, List.nodup_cons, mem_map_fst_link]
      exact ⟨fun h => h.elim hne hn.1, ih hn.2⟩

theorem nonempty_link {keys : List (κ × List Nat)} (h : ∀ entry ∈ keys, entry.2 ≠ []) (key : κ) (slot : Nat) :
    ∀ entry ∈ link key slot keys, entry.2 ≠ [] := by
  induction keys with
  | nil => simp [link]
  | cons e keys ih =>
    have hrest := fun entry he => h entry (List.mem_cons_of_mem e he)
    unfold link
    split
    · intro entry he
      rcases List.mem_cons.1 he with rfl | he
      · simp
      · exact hrest entry he
    · intro entry he
      rcases List.mem_cons.1 he with rfl | he
      · exact h _ List.mem_cons_self
      · exact ih hrest entry he

theorem slotsIn_dropKey (key : κ) (keys : List (κ × List Nat)) (k : κ) :
    slotsIn (dropKey key keys) k = if k = key then [] else slotsIn keys k := by
  induction keys with
  | nil => simp [dropKey, slotsIn]
  | cons e keys ih =>
    unfold dropKey at ih ⊢
    by_cases he : e.1 = key
    · rw [List.filter_cons_of_neg (by simpa using he), ih, slotsIn_cons, he]
      by_cases hk : k = key
      · rw [if_pos hk, if_pos hk]
      · rw [if_neg hk, if_neg hk, if_neg (Ne.symm hk)]
    · rw [List.filter_cons_of_pos (by simpa using he), slotsIn_cons, slotsIn_cons, ih]
      by_cases hk : e.1 = k
      · rw [if_pos hk, if_pos hk, if_neg (hk ▸ he)]
      · rw [if_neg hk, if_neg hk]

/-- The key lists with the list of one key changed, and the key dropped with its last slot. -/
def shrink (key : κ) (f : List Nat → List Nat) (keys : List (κ × List Nat)) : List (κ × List Nat) :=
  keys.filterMap fun entry =>
    if entry.1 = key then
      let slots := f entry.2
      if slots.isEmpty then none else some (entry.1, slots)
    else some entry

theorem map_fst_shrink_sublist (key : κ) (f : List Nat → List Nat) (keys : List (κ × List Nat)) :
    ((shrink key f keys).map (·.1)).Sublist (keys.map (·.1)) := by
  induction keys with
  | nil => exact List.Sublist.slnil
  | cons e keys ih =>
    unfold shrink at ih ⊢
    rw [List.filterMap_cons]
    split
    · exact ih.cons _
    · rename_i entry he
      split at he
      · dsimp only at he
        split at he
        · cases he
        · cases he
          exact ih.cons_cons _
      · cases he
        exact ih.cons_cons _

theorem nonempty_shrink {keys : List (κ × List Nat)} (h : ∀ entry ∈ keys, entry.2 ≠ []) (key : κ)
    (f : List Nat → List Nat) : ∀ entry ∈ shrink key f keys, entry.2 ≠ [] := by
  intro entry he
  obtain ⟨old, hold, hkeep⟩ := List.mem_filterMap.1 he
  split at hkeep
  · dsimp only at hkeep
    split at hkeep
    · cases hkeep
    · cases hkeep
      simpa using ‹¬(f old.2).isEmpty = true›
  · cases hkeep
    exact h _ hold

theorem slotsIn_shrink {keys : List (κ × List Nat)} (hn : (keys.map (·.1)).Nodup) (key : κ) {f : List Nat → List Nat}
    (hf : f [] = []) (k : κ) :
    slotsIn (shrink key f keys) k = if k = key then f (slotsIn keys k) else slotsIn keys k := by
  induction keys with
  | nil => simp [shrink, slotsIn, hf]
  | cons e keys ih =>
    rw [List.map_cons, List.nodup_cons] at hn
    have ih := ih hn.2
    unfold shrink at ih ⊢
    rw [List.filterMap_cons, slotsIn_cons]
    by_cases he : e.1 = key
    -- no other entry has this key, so that the key is gone when the entry is dropped
    · have hgone : slotsIn keys key = [] := slotsIn_eq_nil (he ▸ hn.1)
      simp only [he, ↓reduceIte]
      by_cases hk : k = key
      · subst hk
        split
        · rename_i hnone
          have hempty : f e.2 = [] := by simpa using hnone
          rw [ih, if_pos rfl, hgone, hf, if_pos rfl, if_pos rfl, hempty]
        · rename_i entry hsome
          split at hsome
          · cases hsome
          · cases hsome
            rw [slotsIn_cons, if_pos rfl, if_pos rfl, if_pos rfl]
      · rw [if_neg hk, if_neg (Ne.symm hk)] at *
        split
        · exact ih
        · rename_i entry hsome
          split at hsome
          · cases hsome
          · cases hsome
            rw [slotsIn_cons, if_neg (Ne.symm hk)]
            exact ih
    · simp only [he, ↓reduceIte]
      rw [slotsIn_cons, ih]
      by_cases hk : e.1 = k
      · rw [if_pos hk, if_pos hk, if_neg (hk ▸ he)]
      · rw [if_neg hk, if_neg hk]

end ChatModeration.Store.Shard
