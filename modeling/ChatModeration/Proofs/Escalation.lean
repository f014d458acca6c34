import ChatModeration.Proofs.Moderation.Books
import ChatModeration.Proofs.Store.Survivors
import Mathlib.Data.List.DropRight

/-!
# Escalation over time

Violations of one kind of policy are escalated, forgotten and cleared in any order and at any times (`Violations.run`).
The tier of a call is found by the violations that still count (`standing`): those of earlier calls under the same key
that were not cleared since and that no sweep since has found past their deadline (`escalate_run`).  With a clock that
does not go back and a sweep just before the call these are the violations within their reset windows
(`standing_of_sweep`).
-/

namespace ChatModeration.Violations

open Moderation (Keeps keeps_empty)
open Store (Ledger Line Deed)

/-- Something that is asked of the markers of one kind of policy. -/
inductive Call where
  | escalate (key : String) (tiers : List Punishment) (window : Nat)
  | reclaim
  | clear (key : String)
deriving DecidableEq, Repr

/-- The markers after a call at some time of the clock. -/
def after (v : Violations) : Nat × Call → Violations
  | (now, .escalate key tiers window) => (v.escalate key tiers window now).1
  | (now, .reclaim) => (v.reclaim now).1
  | (_, .clear key) => (v.clear key).1

/-- The markers after some calls, each at its time. -/
def run (v : Violations) (calls : List (Nat × Call)) : Violations := calls.foldl after v

/-! ### Violations that count -/

/-- When a violation is to be forgotten: after its window, but not later than the longest time that anything is kept.
If the clock cannot show that time, it is to be forgotten at once. -/
def deadline (now window : Nat) : Nat := Store.expiry Store.wordHorizon now window

theorem deadline_eq {now window : Nat} (h : now + min window Store.longestLife ≤ Store.wordHorizon) :
    deadline now window = now + min window Store.longestLife := if_pos h

/-- Whether a call removes a violation under a key, with its deadline, that was there before. -/
def Call.removes (key : String) (deadline : Nat) : Nat × Call → Bool
  | (_, .escalate ..) => false
  | (now, .reclaim) => deadline ≤ now
  | (_, .clear k) => k = key

/-- The deadline of the violation that a call records under a key, if it records one. -/
def Call.violation? (key : String) : Nat × Call → Option Nat
  | (now, .escalate k tiers window) => if k = key ∧ tiers ≠ [] then some (deadline now window) else none
  | _ => none

/-- The number of violations under a key that count after some calls: those that no call since has removed. -/
def standing (key : String) : List (Nat × Call) → Nat
  | [] => 0
  | c :: later =>
    match Call.violation? key c with
    | none => standing key later
    | some deadline => if later.any (Call.removes key deadline) then standing key later else standing key later + 1

/-! ### Calls as deeds -/

/-- What a call does to the ledger of the markers. -/
def Call.deed? : Nat × Call → Option (Deed String Unit)
  | (now, .escalate key tiers window) =>
    if tiers = [] then none else some (.add ⟨key, (), now, deadline now window⟩)
  | (now, .reclaim) => some (.sweep now)
  | (_, .clear key) => some (.clear key)

theorem pickTier_nil (n : Nat) : pickTier [] n = none := List.getElem?_nil

/-- A call does its deed, if there is one, to the ledger. -/
theorem keeps_after {v : Violations} {l : Ledger String Unit} (h : Keeps v l) (c : Nat × Call) :
    Keeps (v.after c) ((Call.deed? c).toList.foldl Ledger.after l) := by
  obtain ⟨now, call⟩ := c
  cases call with
  | escalate key tiers window =>
    have hkeeps := (h.escalate key tiers window now).2
    by_cases htiers : tiers = []
    · subst tiers
      rw [pickTier_nil] at hkeeps
      exact hkeeps
    · rw [if_pos (Moderation.isSome_pickTier htiers _)] at hkeeps
      simp only [Call.deed?, htiers, if_false, Option.toList_some, List.foldl_cons, List.foldl_nil, Ledger.after_add]
      exact hkeeps
  | reclaim =>
    have hkeeps := h.reclaim now
    simp only [Call.deed?, Option.toList_some, List.foldl_cons, List.foldl_nil, Ledger.after_sweep]
    exact hkeeps
  | clear key =>
    have hkeeps := h.clear key
    simp only [Call.deed?, Option.toList_some, List.foldl_cons, List.foldl_nil, Ledger.after_clear]
    exact hkeeps

theorem keeps_run {v : Violations} {l : Ledger String Unit} (h : Keeps v l) (calls : List (Nat × Call)) :
    Keeps (v.run calls) ((calls.filterMap Call.deed?).foldl Ledger.after l) := by
  induction calls generalizing v l with
  | nil => exact h
  | cons c later ih =>
    have hlater := ih (keeps_after h c)
    cases hc : Call.deed? c with
    | none =>
      rw [List.filterMap_cons_none hc]
      rw [hc] at hlater
      exact hlater
    | some d =>
      rw [List.filterMap_cons_some hc]
      rw [hc] at hlater
      exact hlater

/-- A marker is spared by the deeds of some calls if none of the calls removes it. -/
theorem all_spares (key : String) (insertedAt deadline : Nat) (calls : List (Nat × Call)) :
    (calls.filterMap Call.deed?).all (·.spares ⟨key, (), insertedAt, deadline⟩) =
      !calls.any (Call.removes key deadline) := by
  induction calls with
  | nil => rfl
  | cons c later ih =>
    rw [List.any_cons, Bool.not_or, ← ih]
    obtain ⟨now, call⟩ := c
    cases call with
    | escalate k tiers window =>
      by_cases htiers : tiers = []
      · simp [Call.deed?, Call.removes, htiers]
      · simp [Call.deed?, Call.removes, htiers, Deed.spares]
    | reclaim =>
      by_cases hnow : deadline ≤ now
      · simp [Call.deed?, Call.removes, Deed.spares, hnow, Nat.not_lt.2 hnow]
      · simp [Call.deed?, Call.removes, Deed.spares, hnow, Nat.not_le.1 hnow]
    | clear k =>
      by_cases hk : k = key
      · simp [Call.deed?, Call.removes, Deed.spares, hk]
      · simp [Call.deed?, Call.removes, Deed.spares, hk, Ne.symm hk]

/-- The markers that are left under a key are those of the violations that count. -/
theorem count_survivors (key : String) (calls : List (Nat × Call)) :
    (Ledger.survivors (calls.filterMap Call.deed?)).count key = standing key calls := by
  induction calls with
  | nil => rfl
  | cons c later ih =>
    obtain ⟨now, call⟩ := c
    cases call with
    | escalate k tiers window =>
      by_cases htiers : tiers = []
      · simp [Call.deed?, htiers, standing, Call.violation?, ih]
      · rw [Ledger.count] at ih
        simp only [List.filterMap_cons, Call.deed?, htiers, if_false, Ledger.survivors, Deed.added?,
          Option.toList_some, List.filter_singleton, all_spares, Ledger.count, List.countP_append, ih]
        by_cases hk : k = key
        · subst k
          by_cases hremoved : later.any (Call.removes key (deadline now window)) = true
          · simp [standing, Call.violation?, htiers, hremoved]
          · simp [standing, Call.violation?, htiers, hremoved, Nat.add_comm]
        · by_cases hremoved : later.any (Call.removes k (deadline now window)) = true
          · simp [standing, Call.violation?, hk, hremoved]
          · simp [standing, Call.violation?, hk, hremoved]
    | reclaim => simp [Call.deed?, Ledger.survivors, Deed.added?, standing, Call.violation?, ih]
    | clear k => simp [Call.deed?, Ledger.survivors, Deed.added?, standing, Call.violation?, ih]

/-! ### The tier of a call -/

/-- The number of violations that a policy finds after some calls. -/
theorem keeps_survivors {v : Violations} (h : Keeps v []) (calls : List (Nat × Call)) :
    Keeps (v.run calls) (Ledger.survivors (calls.filterMap Call.deed?)) := by
  rw [← Ledger.foldl_after_nil]
  exact keeps_run h calls

/-- Without tiers an escalation leaves the markers as they are. -/
theorem escalate_nil (v : Violations) (key : String) (window now : Nat) :
    v.escalate key [] window now = (v, none) := by
  have hsection : v.escalate key [] window now = (v.replaceShard key (v.shardOf key), none) := by
    simp only [escalate, Store.withKey, pickTier_nil]
  rw [hsection, Store.replaceShard, Store.shardOf]
  simp only [Array.set_getElem_self]

/-- Whether a call clears a key. -/
def Call.clears (key : String) : Nat × Call → Bool
  | (_, .clear k) => k = key
  | _ => false

/-- The deadlines of the violations under a key since it was last cleared. -/
def firings (key : String) (calls : List (Nat × Call)) : List Nat :=
  (calls.rtakeWhile (!Call.clears key ·)).filterMap (Call.violation? key)

theorem violation?_of_clears {key : String} {c : Nat × Call} (h : Call.clears key c = true) :
    Call.violation? key c = none := by
  obtain ⟨now, call⟩ := c
  cases call with
  | escalate k tiers window => simp [Call.clears] at h
  | reclaim => rfl
  | clear k => rfl

/-- A call is the oldest of the firings if it records a violation and its key is not cleared after it. -/
theorem firings_cons (key : String) (c : Nat × Call) (later : List (Nat × Call)) :
    firings key (c :: later) =
      (if later.any (Call.clears key) then [] else (Call.violation? key c).toList) ++ firings key later := by
  rw [firings, List.rtakeWhile, List.reverse_cons, List.takeWhile_append]
  by_cases hcleared : later.any (Call.clears key) = true
  · have hpart : ¬(later.reverse.takeWhile (!Call.clears key ·)).length = later.reverse.length := by
      intro hlength
      have hall := (List.takeWhile_eq_self_iff.1 ((List.takeWhile_prefix _).eq_of_length hlength))
      simp only [List.mem_reverse] at hall
      obtain ⟨d, hd, hclears⟩ := List.any_eq_true.1 hcleared
      have hspared := hall d hd
      rw [hclears] at hspared
      contradiction
    rw [if_neg hpart, if_pos hcleared]
    rfl
  · have hwhole : later.reverse.takeWhile (!Call.clears key ·) = later.reverse := by
      rw [List.takeWhile_eq_self_iff]
      intro d hd
      rw [Bool.not_eq_true, List.any_eq_false] at hcleared
      simpa using hcleared d (List.mem_reverse.1 hd)
    rw [if_pos (by rw [hwhole]), if_neg hcleared, firings, List.rtakeWhile, hwhole, List.reverse_append,
      List.reverse_reverse, List.filterMap_append]
    congr 1
    by_cases hc : Call.clears key c = true
    · simp [hc, violation?_of_clears hc]
    · cases hv : Call.violation? key c with
      | none => simp [hc, hv]
      | some deadline => simp [hc, hv]

/-- After a sweep that follows everything else in time, a violation is removed if the sweep finds it past its deadline
or its key was cleared. -/
theorem any_removes (key : String) (deadline : Nat) {now : Nat} {calls : List (Nat × Call)}
    (h : ∀ c ∈ calls, c.1 ≤ now) :
    (calls ++ [(now, Call.reclaim)]).any (Call.removes key deadline) =
      (decide (deadline ≤ now) || calls.any (Call.clears key)) := by
  induction calls with
  | nil => simp [Call.removes]
  | cons c later ih =>
    rw [List.forall_mem_cons] at h
    rw [List.cons_append, List.any_cons, ih h.2, List.any_cons]
    obtain ⟨t, call⟩ := c
    cases call with
    | escalate k tiers window => simp [Call.removes, Call.clears]
    | reclaim =>
      by_cases hdead : deadline ≤ t
      · simp [Call.removes, Call.clears, hdead, hdead.trans h.1]
      · simp [Call.removes, Call.clears, hdead]
    | clear k => simp [Call.removes, Call.clears, Bool.or_left_comm]

/-- After a sweep that follows everything else in time, the violations that count are the firings since the last clear
that are still within their windows. -/
theorem standing_of_sweep (key : String) {now : Nat} {calls : List (Nat × Call)} (h : ∀ c ∈ calls, c.1 ≤ now) :
    standing key (calls ++ [(now, .reclaim)]) = (firings key calls).countP (now < ·) := by
  induction calls with
  | nil => rfl
  | cons c later ih =>
    rw [List.forall_mem_cons] at h
    rw [firings_cons, List.countP_append, ← ih h.2, List.cons_append, standing]
    cases hv : Call.violation? key c with
    | none => simp
    | some deadline =>
      simp only
      rw [any_removes key deadline h.2]
      by_cases hcleared : later.any (Call.clears key) = true
      · simp [hcleared]
      · by_cases hdead : deadline ≤ now
        · simp [hcleared, hdead]
        · simp [hcleared, hdead, Nat.not_le.1 hdead, Nat.add_comm]

variable (name : String) (shardCount interval : Nat) (assign : String → Nat)

/-- A tracker after any calls, at any times: without tiers nothing is recorded and there is no answer; with tiers the
answer is the tier of the number of violations that count, up to the last one.  After a sweep that follows everything
else in time these are the firings since the last clear that are still within their windows.  A violation is to be
forgotten at the end of its window, which is cut off at the longest time that anything is kept. -/
theorem escalate_run (past : List (Nat × Call)) (key : String) (tiers : List Punishment) (window now : Nat) :
    let v := run (Store.empty name shardCount interval Store.wordHorizon assign) past
    (tiers = [] → v.escalate key tiers window now = (v, none)) ∧
    (tiers ≠ [] → ∃ tier, tiers[min (standing key past) (tiers.length - 1)]? = some tier ∧
      (v.escalate key tiers window now).2 = some tier) ∧
    (∀ calls, past = calls ++ [(now, .reclaim)] → (∀ c ∈ calls, c.1 ≤ now) →
      standing key past = (firings key calls).countP (now < ·)) ∧
    (now + min window Store.longestLife ≤ Store.wordHorizon →
      deadline now window = now + min window Store.longestLife) := by
  intro v
  have hkeeps : Keeps v (Ledger.survivors (past.filterMap Call.deed?)) :=
    keeps_survivors (keeps_empty name shardCount interval assign) past
  refine ⟨?_, ?_, ?_, deadline_eq⟩
  · rintro rfl
    exact escalate_nil v key window now
  · intro htiers
    have hanswer := (hkeeps.escalate key tiers window now).1
    rw [count_survivors] at hanswer
    obtain ⟨tier, htier⟩ := Option.isSome_iff_exists.1 (Moderation.isSome_pickTier htiers (standing key past))
    exact ⟨tier, htier, hanswer.trans htier⟩
  · rintro calls rfl hcalls
    exact standing_of_sweep key hcalls

/-- Two violations a minute apart under one key, and one under another: the sweep at the end of the first window leaves
one of the two, and the next call gets the second tier. -/
theorem escalate_run_afterWindow :
    let before : List (Nat × Call) :=
      [(0, .escalate "ana" [.delete, .ban] 60000), (30000, .escalate "ben" [.delete, .ban] 60000),
        (60000, .escalate "ana" [.delete, .ban] 60000)]
    let past := before ++ [(60000, .reclaim)]
    let v := run (Store.empty "violations" 4 1000 Store.wordHorizon String.length) past
    v.escalate "ana" [] 60000 60000 = (v, none) ∧
      standing "ana" past = 1 ∧ (v.escalate "ana" [.delete, .ban] 60000 60000).2 = some .ban ∧
      deadline 60000 60000 = 120000 := by
  intro before past v
  have hempty := (escalate_run "violations" 4 1000 String.length past "ana" [] 60000 60000).1 rfl
  obtain ⟨-, hanswer, hsweep, hdeadline⟩ :=
    escalate_run "violations" 4 1000 String.length past "ana" [.delete, .ban] 60000 60000
  have hcount : standing "ana" past = 1 := (hsweep before rfl (by decide)).trans (by decide)
  obtain ⟨tier, htier, htold⟩ := hanswer (List.cons_ne_nil _ _)
  rw [hcount] at htier
  exact ⟨hempty, hcount, htold.trans htier.symm, hdeadline (by decide)⟩

end ChatModeration.Violations
