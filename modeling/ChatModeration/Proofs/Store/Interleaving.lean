import ChatModeration.Proofs.Store.Contents
import Mathlib.Algebra.BigOperators.Group.List.Basic

/-!
# Stores that are used side by side

Pushes, clears, sections with exclusive access to a key and sweeps use one store at the same time (`World`).  A push
and a section read the clock before they have the shard of their key, and a sweep reads it once and then reclaims one
shard after the other; their steps follow each other in any order (`Step`), but a shard that a section holds can only
be used by the section.  A section or a sweep that nobody comes in between is `Store.withKey` or `Store.reclaim`
(`section_alone`, `sweep_alone`).

Whatever the order, a step changes the store by one operation (`effect_of_step`), so there is a ledger that the store
represents and that balances with what has been put in and taken out (`Booked`).  Hence no item is removed twice or
before it has expired, and a cleared key stays empty until the next push for it (`sound_of_reachable`).
-/

namespace ChatModeration.Store

variable {κ τ α : Type}

/-! ### Tasks and their steps -/

/-- Something that is under way. -/
inductive Task (κ τ α : Type) where
  /-- A push that has read its time. -/
  | push (key : κ) (payload : τ) (life now : Nat)
  /-- A section that has read its time and waits for the shard of its key. -/
  | enter (key : κ) (now : Nat) (work : Work κ τ α)
  /-- A section that holds the shard of its key, and what it still has to do. -/
  | inside (key : κ) (now : Nat) (work : Work κ τ α)
  /-- A sweep with the time that it has read, the shard that is next and the number of items removed so far. -/
  | sweep (now index removed : Nat)

/-- Something that has happened. -/
inductive Event (κ τ α : Type) where
  | pushed (x : Line κ τ)
  /-- A key has been cleared of some items, and this is how many there were said to be. -/
  | cleared (key : κ) (gone : List (Line κ τ)) (told : Nat)
  /-- A sweep has removed some items from a shard, and this is how many there were said to be. -/
  | swept (now index : Nat) (gone : List (Line κ τ)) (told : Nat)
  /-- A sweep has come to its end and has told how many items it has removed. -/
  | returned (now total : Nat)
  /-- A section has come to its end with an answer. -/
  | answered (key : κ) (a : α)

/-- A store, the clock, what is under way and what has happened. -/
structure World (κ τ α : Type) where
  store : Store κ τ
  clock : Nat
  tasks : List (Task κ τ α)
  log : List (Event κ τ α)

namespace World

/-- Nothing is under way and nothing has happened. -/
def start (s : Store κ τ) (clock : Nat) : World κ τ α := ⟨s, clock, [], []⟩

/-- Whether a section holds a shard. -/
def Held (x : World κ τ α) (index : Nat) : Prop :=
  ∃ key now work, Task.inside key now work ∈ x.tasks ∧ x.store.shardIndex key = index

end World

variable [DecidableEq κ]

/-- What can happen next. -/
inductive Step (x : World κ τ α) : World κ τ α → Prop where
  /-- The clock shows another time, which may be an earlier one. -/
  | tick (clock : Nat) : Step x { x with clock }
  | callPush (key : κ) (payload : τ) (life : Nat) :
      Step x { x with tasks := x.tasks ++ [.push key payload life x.clock] }
  | callSection (key : κ) (work : Work κ τ α) : Step x { x with tasks := x.tasks ++ [.enter key x.clock work] }
  | callSweep : Step x { x with tasks := x.tasks ++ [.sweep x.clock 0 0] }
  | push {before after : List (Task κ τ α)} {key : κ} {payload : τ} {life now : Nat}
      (ht : x.tasks = before ++ .push key payload life now :: after) (hfree : ¬ x.Held (x.store.shardIndex key)) :
      Step x { x with
        store := x.store.push key payload now life
        tasks := before ++ after
        log := x.log ++ [.pushed ⟨key, payload, now, expiry x.store.horizon now life⟩] }
  | clear (key : κ) (hfree : ¬ x.Held (x.store.shardIndex key)) :
      Step x { x with
        store := (x.store.clear key).1
        log := x.log ++ [.cleared key ((x.store.items key).map Item.line) (x.store.clear key).2] }
  | enter {before after : List (Task κ τ α)} {key : κ} {now : Nat} {work : Work κ τ α}
      (ht : x.tasks = before ++ .enter key now work :: after) (hfree : ¬ x.Held (x.store.shardIndex key)) :
      Step x { x with tasks := before ++ .inside key now work :: after }
  | insideCount {before after : List (Task κ τ α)} {key : κ} {now : Nat} {next : Nat → Work κ τ α}
      (ht : x.tasks = before ++ .inside key now (.count next) :: after) :
      Step x { x with tasks := before ++ .inside key now (next (x.store.count key)) :: after }
  | insideItems {before after : List (Task κ τ α)} {key : κ} {now : Nat} {next : List (Line κ τ) → Work κ τ α}
      (ht : x.tasks = before ++ .inside key now (.items next) :: after) :
      Step x { x with tasks := before ++ .inside key now (next ((x.store.items key).map Item.line)) :: after }
  | insidePush {before after : List (Task κ τ α)} {key : κ} {now life : Nat} {payload : τ} {next : Work κ τ α}
      (ht : x.tasks = before ++ .inside key now (.push payload life next) :: after) :
      Step x { x with
        store := x.store.push key payload now life
        tasks := before ++ .inside key now next :: after
        log := x.log ++ [.pushed ⟨key, payload, now, expiry x.store.horizon now life⟩] }
  | insideClear {before after : List (Task κ τ α)} {key : κ} {now : Nat} {next : Nat → Work κ τ α}
      (ht : x.tasks = before ++ .inside key now (.clear next) :: after) :
      Step x { x with
        store := (x.store.clear key).1
        tasks := before ++ .inside key now (next (x.store.clear key).2) :: after
        log := x.log ++ [.cleared key ((x.store.items key).map Item.line) (x.store.clear key).2] }
  | leave {before after : List (Task κ τ α)} {key : κ} {now : Nat} {a : α}
      (ht : x.tasks = before ++ .inside key now (.done a) :: after) :
      Step x { x with tasks := before ++ after, log := x.log ++ [.answered key a] }
  | sweep {before after : List (Task κ τ α)} {now index removed : Nat}
      (ht : x.tasks = before ++ .sweep now index removed :: after) (hindex : index < x.store.shardCount)
      (hfree : ¬ x.Held index) :
      Step x { x with
        store := (x.store.reclaimShard now index).1
        tasks := before ++ .sweep now (index + 1) (removed + (x.store.reclaimShard now index).2) :: after
        log := x.log ++ [.swept now index ((x.store.linesAt index).filter (·.expiresAt ≤ now))
          (x.store.reclaimShard now index).2] }
  | returned {before after : List (Task κ τ α)} {now index removed : Nat}
      (ht : x.tasks = before ++ .sweep now index removed :: after) (hindex : x.store.shardCount ≤ index) :
      Step x { x with tasks := before ++ after, log := x.log ++ [.returned now removed] }

/-- What can happen after some moment. -/
inductive Reachable (x : World κ τ α) : World κ τ α → Prop where
  | refl : Reachable x x
  | step {y z : World κ τ α} (h : Reachable x y) (hyz : Step y z) : Reachable x z

theorem Reachable.head {x y z : World κ τ α} (hxy : Step x y) (h : Reachable y z) : Reachable x z := by
  induction h with
  | refl => exact .step .refl hxy
  | step _ hyz ih => exact .step ih hyz

/-! ### Tasks on their own -/

omit [DecidableEq κ] in
@[simp] theorem replaceShard_replaceShard (s : Store κ τ) (key : κ) (a b : Shard κ τ) :
    (s.replaceShard key a).replaceShard key b = s.replaceShard key b := by
  refine SameShape.eq ?_ fun i => ?_
  · exact ((sameShape_replaceShard _ key b).trans (sameShape_replaceShard s key a)).trans
      (sameShape_replaceShard s key b).symm
  · rw [getElem?_replaceShard, getElem?_replaceShard, getElem?_replaceShard,
      (sameShape_replaceShard s key a).shardIndex]
    split <;> rfl

omit [DecidableEq κ] in
@[simp] theorem replaceShard_shardOf (s : Store κ τ) (key : κ) : s.replaceShard key (s.shardOf key) = s := by
  refine (sameShape_replaceShard s key _).eq fun i => ?_
  rw [getElem?_replaceShard]
  split
  · subst i
    exact (s.getElem?_shardIndex key).symm
  · rfl

/-- A section goes on with the shard that it has changed. -/
theorem withKey_replaceShard (s : Store κ τ) (key : κ) (shard : Shard κ τ) (now : Nat) (w : Work κ τ α) :
    (s.replaceShard key shard).withKey key now w.run =
      (s.replaceShard key (w.run ⟨shard, key, now, s.horizon⟩).1.shard,
        (w.run ⟨shard, key, now, s.horizon⟩).2) := by
  simp only [withKey, shardOf_replaceShard, replaceShard_replaceShard]
  rfl

/-- A section that nobody comes in between works on the store as a whole. -/
theorem section_alone (w : Work κ τ α) {x : World κ τ α} {before after : List (Task κ τ α)} {key : κ} {now : Nat}
    (ht : x.tasks = before ++ .inside key now w :: after) :
    ∃ y, Reachable x y ∧ y.tasks = before ++ after ∧ y.store = (x.store.withKey key now w.run).1 ∧
      y.log.getLast? = some (.answered key (x.store.withKey key now w.run).2) := by
  induction w generalizing x with
  | done a =>
    have hsame : x.store.withKey key now (Work.done a : Work κ τ α).run = (x.store, a) :=
      Prod.ext (replaceShard_shardOf x.store key) rfl
    rw [hsame]
    exact ⟨_, .step .refl (.leave ht), rfl, rfl, List.getLast?_concat⟩
  | count next ih =>
    obtain ⟨y, hy, h⟩ := ih (x.store.count key) (x := { x with
      tasks := before ++ .inside key now (next (x.store.count key)) :: after }) rfl
    exact ⟨y, hy.head (.insideCount ht), h⟩
  | items next ih =>
    obtain ⟨y, hy, h⟩ := ih ((x.store.items key).map Item.line) (x := { x with
      tasks := before ++ .inside key now (next ((x.store.items key).map Item.line)) :: after }) rfl
    exact ⟨y, hy.head (.insideItems ht), h⟩
  | push payload life next ih =>
    obtain ⟨y, hy, h⟩ := ih (x := { x with
      store := x.store.push key payload now life
      tasks := before ++ .inside key now next :: after
      log := x.log ++ [.pushed ⟨key, payload, now, expiry x.store.horizon now life⟩] }) rfl
    have hrest : (x.store.push key payload now life).withKey key now next.run =
        x.store.withKey key now (Work.push payload life next).run := withKey_replaceShard ..
    rw [hrest] at h
    exact ⟨y, hy.head (.insidePush ht), h⟩
  | clear next ih =>
    obtain ⟨y, hy, h⟩ := ih (x.store.clear key).2 (x := { x with
      store := (x.store.clear key).1
      tasks := before ++ .inside key now (next (x.store.clear key).2) :: after
      log := x.log ++ [.cleared key ((x.store.items key).map Item.line) (x.store.clear key).2] }) rfl
    have hrest : (x.store.clear key).1.withKey key now (next (x.store.clear key).2).run =
        x.store.withKey key now (Work.clear next).run := withKey_replaceShard ..
    rw [hrest] at h
    exact ⟨y, hy.head (.insideClear ht), h⟩

/-- A sweep that nobody comes in between goes through the shards that are left. -/
theorem sweep_rest {x : World κ τ α} {before after : List (Task κ τ α)} {now index removed : Nat}
    (ht : x.tasks = before ++ .sweep now index removed :: after) (hfree : ∀ i, ¬ x.Held i) {left : Nat}
    (hleft : index + left = x.store.shardCount) :
    ∃ y total, Reachable x y ∧ y.tasks = before ++ after ∧
      (List.range' index left).foldl (fun (s, total) i =>
        let (s, n) := s.reclaimShard now i
        (s, total + n)) (x.store, removed) = (y.store, total) ∧
      y.log.getLast? = some (.returned now total) := by
  induction left generalizing x index removed with
  | zero => exact ⟨_, removed, .step .refl (.returned ht (by omega)), rfl, rfl, List.getLast?_concat⟩
  | succ left ih =>
    have hshape := sameShape_reclaimShard x.store now index
    let next : World κ τ α := { x with
      store := (x.store.reclaimShard now index).1
      tasks := before ++ .sweep now (index + 1) (removed + (x.store.reclaimShard now index).2) :: after
      log := x.log ++ [.swept now index ((x.store.linesAt index).filter (·.expiresAt ≤ now))
        (x.store.reclaimShard now index).2] }
    have hnext : ∀ i, ¬ next.Held i := by
      rintro i ⟨key, t, work, hmem, hi⟩
      refine hfree i ⟨key, t, work, ?_, ?_⟩
      · rw [ht]
        simpa [next] using hmem
      · rw [← hi, hshape.shardIndex]
    have hrest : index + 1 + left = next.store.shardCount := by
      show index + 1 + left = Array.size _
      rw [hshape.size, Nat.add_right_comm]
      exact hleft
    have hnextTasks : next.tasks =
        before ++ .sweep now (index + 1) (removed + (x.store.reclaimShard now index).2) :: after := rfl
    obtain ⟨y, total, hy, h⟩ := ih hnextTasks hnext hrest
    exact ⟨y, total, hy.head (.sweep ht (by omega) (hfree index)), h⟩

/-- A sweep that nobody comes in between reclaims the store as a whole. -/
theorem sweep_alone {x : World κ τ α} {before after : List (Task κ τ α)} {now : Nat}
    (ht : x.tasks = before ++ .sweep now 0 0 :: after) (hfree : ∀ i, ¬ x.Held i) :
    ∃ y, Reachable x y ∧ y.tasks = before ++ after ∧ y.store = (x.store.reclaim now).1 ∧
      y.log.getLast? = some (.returned now (x.store.reclaim now).2) := by
  obtain ⟨y, total, hy, htasks, hfold, hlast⟩ := sweep_rest ht hfree (Nat.zero_add x.store.shardCount)
  have hreclaim : x.store.reclaim now = (y.store, total) := by
    rw [reclaim, List.range_eq_range']
    exact hfold
  rw [hreclaim]
  exact ⟨y, hy, htasks, rfl, hlast⟩

/-! ### Effects of a step -/

namespace Event

omit [DecidableEq κ]

/-- The item that has been put in. -/
def added : Event κ τ α → List (Line κ τ)
  | pushed x => [x]
  | _ => []

/-- The items that have been taken out. -/
def gone : Event κ τ α → List (Line κ τ)
  | cleared _ gone _ => gone
  | swept _ _ gone _ => gone
  | _ => []

/-- How many items a clear has said that it has removed. -/
def clearCount : Event κ τ α → Nat
  | cleared _ _ told => told
  | _ => 0

/-- How many items a sweep has counted in one shard. -/
def sweepCount : Event κ τ α → Nat
  | swept _ _ _ told => told
  | _ => 0

/-- How many items a sweep has said in the end that it has removed. -/
def sweepTotal : Event κ τ α → Nat
  | returned _ total => total
  | _ => 0

end Event

/-- What a step does to the store, and what it says about it. -/
inductive Effect (s : Store κ τ) : Store κ τ → List (Event κ τ α) → Prop where
  | none : Effect s s []
  | push (key : κ) (payload : τ) (now life : Nat) :
      Effect s (s.push key payload now life) [.pushed ⟨key, payload, now, expiry s.horizon now life⟩]
  | clear (key : κ) :
      Effect s (s.clear key).1 [.cleared key ((s.items key).map Item.line) (s.clear key).2]
  | sweep (now index : Nat) (hindex : index < s.shardCount) :
      Effect s (s.reclaimShard now index).1
        [.swept now index ((s.linesAt index).filter (·.expiresAt ≤ now)) (s.reclaimShard now index).2]
  | returned (now total : Nat) : Effect s s [.returned now total]
  | answered (key : κ) (a : α) : Effect s s [.answered key a]

/-- A step has one effect. -/
theorem effect_of_step {x y : World κ τ α} (h : Step x y) :
    ∃ events, Effect x.store y.store events ∧ y.log = x.log ++ events := by
  cases h with
  | push ht hfree => exact ⟨_, .push .., rfl⟩
  | insidePush ht => exact ⟨_, .push .., rfl⟩
  | clear key hfree => exact ⟨_, .clear key, rfl⟩
  | insideClear ht => exact ⟨_, .clear _, rfl⟩
  | sweep ht hindex hfree => exact ⟨_, .sweep _ _ hindex, rfl⟩
  | returned ht hindex => exact ⟨_, .returned .., rfl⟩
  | leave ht => exact ⟨_, .answered .., rfl⟩
  | _ => exact ⟨[], .none, (List.append_nil _).symm⟩

/-! ### A shard that has been swept -/

/-- What the sweep of a shard takes out of a store, and what it leaves. -/
structure Swept (s t : Store κ τ) (now index : Nat) (gone : List (Line κ τ)) : Prop where
  /-- Nothing is taken out that expires later. -/
  expired : ∀ x ∈ gone, x.expiresAt ≤ now
  split : (s.linesAt index).Perm (gone ++ t.linesAt index)
  /-- Nothing is left that has expired. -/
  live : ∀ x ∈ t.linesAt index, now < x.expiresAt
  others : ∀ i, i ≠ index → t.linesAt i = s.linesAt i
  /-- The items that are left are seen in the same order as before. -/
  items : ∀ key, (t.items key).map Item.line =
    ((s.items key).map Item.line).filter fun x => now < x.expiresAt ∨ s.shardIndex key ≠ index

omit [DecidableEq κ] in
/-- What is to be taken out of a list and what is to be left make up the list. -/
theorem perm_expired_append_live (l : List (Line κ τ)) (now : Nat) :
    l.Perm (l.filter (·.expiresAt ≤ now) ++ l.filter (now < ·.expiresAt)) := by
  have hlive : l.filter (now < ·.expiresAt) = l.filter fun x => !decide (x.expiresAt ≤ now) :=
    List.filter_congr fun x _ => by rw [← decide_not, decide_eq_decide, Nat.not_le]
  rw [hlive]
  exact (List.filter_append_perm _ l).symm

theorem Represents.swept {s : Store κ τ} {l : Ledger κ τ} (h : s.Represents l) (now : Nat) {index : Nat}
    (hindex : index < s.shardCount) :
    Swept s (s.reclaimShard now index).1 now index ((s.linesAt index).filter (·.expiresAt ≤ now)) := by
  have hshape := sameShape_reclaimShard s now index
  have hrep := (h.reclaimShard now hindex).1
  have hleft : ((s.reclaimShard now index).1.linesAt index).Perm ((s.linesAt index).filter (now < ·.expiresAt)) := by
    have hsize : index < (s.reclaimShard now index).1.shardCount := by
      rw [shardCount, hshape.size]
      exact hindex
    have hlines := hrep.linesAt_perm hsize
    rw [hshape.shardIndex, Ledger.share_reclaimShare] at hlines
    exact hlines.trans ((h.linesAt_perm hindex).filter _).symm
  refine ⟨?_, ?_, ?_, ?_, ?_⟩
  · intro x hx
    exact of_decide_eq_true (List.mem_filter.1 hx).2
  · exact (perm_expired_append_live _ now).trans (hleft.symm.append_left _)
  · intro x hx
    exact of_decide_eq_true (List.mem_filter.1 (hleft.mem_iff.1 hx)).2
  · intro i hi
    rw [linesAt, linesAt, (sameElsewhere_reclaimShard s now index).others i hi.symm]
  · intro key
    rw [hrep.items, h.items, Ledger.reclaimShare, Ledger.items_filter]
    refine List.filter_congr fun x hx => ?_
    rw [show x.key = key by simpa [Ledger.items] using (List.mem_filter.1 hx).2]

/-! ### Books -/

/-- A key has been cleared and nothing has been pushed for it since. -/
def Unused (key : κ) (log : List (Event κ τ α)) : Prop :=
  ∃ before gone told after, log = before ++ .cleared key gone told :: after ∧
    ∀ x, .pushed x ∈ after → x.key ≠ key

omit [DecidableEq κ] in
/-- After one more event the key has been cleared just now, or it was unused before and has not been pushed. -/
theorem unused_concat {key : κ} {log : List (Event κ τ α)} {e : Event κ τ α} (h : Unused key (log ++ [e])) :
    (∃ gone told, e = .cleared key gone told) ∨ (Unused key log ∧ ∀ x, e = .pushed x → x.key ≠ key) := by
  obtain ⟨before, gone, told, after, hlog, hafter⟩ := h
  rcases List.eq_nil_or_concat after with rfl | ⟨after, last, rfl⟩
  · obtain ⟨-, he⟩ := List.append_inj' hlog rfl
    exact .inl ⟨gone, told, List.singleton_inj.1 he⟩
  · rw [List.concat_eq_append, ← List.cons_append, ← List.append_assoc] at hlog
    obtain ⟨rfl, he⟩ := List.append_inj' hlog rfl
    obtain rfl := List.singleton_inj.1 he
    refine .inr ⟨⟨before, gone, told, after, rfl, fun x hx => hafter x ?_⟩, ?_⟩
    · simp [hx]
    · rintro x rfl
      exact hafter x (by simp)

/-- The store represents a ledger that balances with what has happened. -/
structure Booked (x : World κ τ α) (l : Ledger κ τ) : Prop where
  represents : x.store.Represents l
  balance : (x.log.flatMap Event.added).Perm (x.log.flatMap Event.gone ++ l)
  told : ∀ e ∈ x.log, e.clearCount + e.sweepCount = e.gone.length
  unused : ∀ key, Unused key x.log → l.items key = []

theorem booked_start {s : Store κ τ} (h : s.Represents []) (clock : Nat) :
    Booked (World.start s clock : World κ τ α) [] := by
  refine ⟨h, List.Perm.refl _, nofun, ?_⟩
  rintro key ⟨before, gone, told, after, hlog, -⟩
  exact absurd hlog (by simp [World.start])

/-- One more event with its effect on the ledger. -/
theorem Booked.extend {x y : World κ τ α} {l m : Ledger κ τ} (h : Booked x l) {e : Event κ τ α}
    (hlog : y.log = x.log ++ [e]) (hrep : y.store.Represents m) (hbalance : (l ++ e.added).Perm (e.gone ++ m))
    (htold : e.clearCount + e.sweepCount = e.gone.length)
    (hcleared : ∀ key gone told, e = .cleared key gone told → m.items key = [])
    (hkept : ∀ key, l.items key = [] → (∀ x, e = .pushed x → x.key ≠ key) → m.items key = []) : Booked y m := by
  refine ⟨hrep, ?_, ?_, ?_⟩
  · rw [hlog, List.flatMap_append, List.flatMap_append, List.flatMap_singleton, List.flatMap_singleton]
    have hgrown := h.balance.append_right e.added
    rw [List.append_assoc] at hgrown
    rw [List.append_assoc]
    exact hgrown.trans (hbalance.append_left _)
  · intro e' he'
    rw [hlog, List.mem_append, List.mem_singleton] at he'
    rcases he' with he' | rfl
    · exact h.told e' he'
    · exact htold
  · intro key hunused
    rw [hlog] at hunused
    rcases unused_concat hunused with ⟨gone, told, he⟩ | ⟨hbefore, hpush⟩
    · exact hcleared key gone told he
    · exact hkept key (h.unused key hbefore) hpush

/-- An event that has nothing to do with the items. -/
theorem Booked.quiet {x y : World κ τ α} {l : Ledger κ τ} (h : Booked x l) {e : Event κ τ α}
    (hlog : y.log = x.log ++ [e]) (hstore : y.store = x.store) (hadded : e.added = []) (hgone : e.gone = [])
    (htold : e.clearCount + e.sweepCount = 0) (hcleared : ∀ key gone told, e ≠ .cleared key gone told) :
    Booked y l := by
  refine h.extend hlog (hstore ▸ h.represents) ?_ ?_ ?_ fun key hitems _ => hitems
  · rw [hadded, hgone, List.append_nil, List.nil_append]
  · rw [hgone, htold]
    rfl
  · intro key gone told he
    exact absurd he (hcleared key gone told)

theorem Booked.push {x y : World κ τ α} {l : Ledger κ τ} (h : Booked x l) {key : κ} {payload : τ} {now life : Nat}
    (hstore : y.store = x.store.push key payload now life)
    (hlog : y.log = x.log ++ [.pushed ⟨key, payload, now, expiry x.store.horizon now life⟩]) :
    Booked y (l.push x.store.horizon key payload now life) := by
  refine h.extend hlog (hstore ▸ h.represents.push key payload now life) (List.Perm.refl _) rfl nofun ?_
  intro k hitems hpush
  have hne : key ≠ k := hpush _ rfl
  rw [Ledger.push, Ledger.items_push, hitems, if_neg hne]
  rfl

theorem Booked.clear {x y : World κ τ α} {l : Ledger κ τ} (h : Booked x l) {key : κ}
    (hstore : y.store = (x.store.clear key).1)
    (hlog : y.log = x.log ++ [.cleared key ((x.store.items key).map Item.line) (x.store.clear key).2]) :
    Booked y (l.clear key).1 := by
  obtain ⟨hclear, htold⟩ := h.represents.clear key
  have hgone := h.represents.items key
  refine h.extend hlog (hstore ▸ hclear) ?_ ?_ ?_ ?_
  · have hsplit := (List.filter_append_perm (fun x : Line κ τ => x.key = key) l).symm
    have hrest : (l.clear key).1 = l.filter fun x => !decide (x.key = key) :=
      List.filter_congr fun x _ => decide_not
    simp only [Event.added, Event.gone, List.append_nil, hgone]
    rw [hrest]
    exact hsplit
  · simp only [Event.clearCount, Event.sweepCount, Event.gone, htold, hgone, Nat.add_zero]
    exact l.count_eq key
  · rintro k gone told he
    obtain ⟨rfl, -, -⟩ := Event.cleared.inj he
    rw [Ledger.items_clear, if_pos rfl]
  · intro k hitems _
    rw [Ledger.items_clear, hitems, ite_self]

theorem Booked.sweep {x y : World κ τ α} {l : Ledger κ τ} (h : Booked x l) {now index : Nat}
    (hindex : index < x.store.shardCount) (hstore : y.store = (x.store.reclaimShard now index).1)
    (hlog : y.log = x.log ++ [.swept now index ((x.store.linesAt index).filter (·.expiresAt ≤ now))
      (x.store.reclaimShard now index).2]) :
    Booked y (l.reclaimShare x.store.shardIndex now index).1 := by
  obtain ⟨hsweep, htold⟩ := h.represents.reclaimShard now hindex
  have hgone : ((x.store.linesAt index).filter (·.expiresAt ≤ now)).Perm
      ((l.share x.store.shardIndex index).filter (·.expiresAt ≤ now)) := (h.represents.linesAt_perm hindex).filter _
  refine h.extend hlog (hstore ▸ hsweep) ?_ ?_ nofun ?_
  · have hsplit := (List.filter_append_perm
      (fun line : Line κ τ => line.expiresAt ≤ now ∧ x.store.shardIndex line.key = index) l).symm
    have hexpired : l.filter (fun line => line.expiresAt ≤ now ∧ x.store.shardIndex line.key = index) =
        (l.share x.store.shardIndex index).filter (·.expiresAt ≤ now) := by
      rw [Ledger.share, List.filter_filter]
      exact List.filter_congr fun line _ => by simp
    have hrest : l.filter (fun line => !decide (line.expiresAt ≤ now ∧ x.store.shardIndex line.key = index)) =
        (l.reclaimShare x.store.shardIndex now index).1 := by
      refine List.filter_congr fun line _ => ?_
      rw [← decide_not]
      exact decide_eq_decide.2 (by rw [not_and_or, Nat.not_le])
    rw [hexpired, hrest] at hsplit
    simp only [Event.added, Event.gone, List.append_nil]
    exact hsplit.trans (hgone.symm.append_right _)
  · simp only [Event.clearCount, Event.sweepCount, Event.gone, htold, Nat.zero_add, hgone.length_eq]
    exact List.countP_eq_length_filter
  · intro k hitems _
    rw [Ledger.reclaimShare, Ledger.items_filter, hitems]
    rfl

/-- The ledger goes along with a step. -/
theorem Booked.step {x y : World κ τ α} {l : Ledger κ τ} (h : Booked x l) (hxy : Step x y) : ∃ m, Booked y m := by
  obtain ⟨events, heffect, hlog⟩ := effect_of_step hxy
  generalize hstore : y.store = t at heffect
  cases heffect with
  | none =>
    rw [List.append_nil] at hlog
    exact ⟨l, hstore ▸ h.represents, hlog ▸ h.balance, hlog ▸ h.told, hlog ▸ h.unused⟩
  | push key payload now life => exact ⟨_, h.push hstore hlog⟩
  | clear key => exact ⟨_, h.clear hstore hlog⟩
  | sweep now index hindex => exact ⟨_, h.sweep hindex hstore hlog⟩
  | returned now total => exact ⟨l, h.quiet hlog hstore rfl rfl rfl nofun⟩
  | answered key a => exact ⟨l, h.quiet hlog hstore rfl rfl rfl nofun⟩

theorem booked_of_reachable {s : Store κ τ} (hs : s.Represents []) {clock : Nat} {y : World κ τ α}
    (h : Reachable (.start s clock) y) : ∃ l, Booked y l := by
  induction h with
  | refl => exact ⟨[], booked_start hs clock⟩
  | step _ hyz ih =>
    obtain ⟨l, hl⟩ := ih
    exact hl.step hyz

/-! ### Totals of sweeps -/

omit [DecidableEq κ] in
/-- The number of items that a sweep has removed so far. -/
def Task.removed : Task κ τ α → Nat
  | sweep _ _ removed => removed
  | _ => 0

/-- What sweeps have counted in shards, they have told in the end or still remember. -/
def Totalled (x : World κ τ α) : Prop :=
  (x.log.map Event.sweepCount).sum = (x.log.map Event.sweepTotal).sum + (x.tasks.map Task.removed).sum

theorem Totalled.step {x y : World κ τ α} (h : Totalled x) (hxy : Step x y) : Totalled y := by
  unfold Totalled at h ⊢
  cases hxy with
  | tick clock => exact h
  | callPush key payload life => simpa [Task.removed] using h
  | callSection key work => simpa [Task.removed] using h
  | callSweep => simpa [Task.removed] using h
  | clear key hfree => simpa [Event.sweepCount, Event.sweepTotal] using h
  | push ht hfree | enter ht hfree | insideCount ht | insideItems ht | insidePush ht | insideClear ht | leave ht =>
    rw [ht] at h
    simpa [Task.removed, Event.sweepCount, Event.sweepTotal] using h
  -- a count goes from the shard to the running number of its sweep, and from there to the total
  | sweep ht hindex hfree =>
    rw [ht] at h
    simp only [List.map_append, List.map_cons, List.map_nil, List.sum_append, List.sum_cons, List.sum_nil,
      Task.removed, Event.sweepCount, Event.sweepTotal] at h ⊢
    omega
  | returned ht hindex =>
    rw [ht] at h
    simp only [List.map_append, List.map_cons, List.map_nil, List.sum_append, List.sum_cons, List.sum_nil,
      Task.removed, Event.sweepCount, Event.sweepTotal] at h ⊢
    omega

theorem totalled_of_reachable {s : Store κ τ} {clock : Nat} {y : World κ τ α} (h : Reachable (.start s clock) y) :
    Totalled y := by
  induction h with
  | refl => rfl
  | step _ hyz ih => exact ih.step hyz

/-! ### Any interleaving -/

/-- What holds of a store that is used side by side. -/
structure Sound (y : World κ τ α) : Prop where
  /-- A sweep takes everything that has expired, and nothing else, out of a shard. -/
  swept : ∀ z, Step y z → ∀ now index gone told, z.log = y.log ++ [.swept now index gone told] →
    Swept y.store z.store now index gone
  /-- A key that has been cleared is empty until the next push. -/
  unused : ∀ key, Unused key y.log → y.store.count key = 0 ∧ y.store.items key = []
  /-- What has been put in has been taken out once or is still there. -/
  balance : (y.log.flatMap Event.added).Perm (y.log.flatMap Event.gone ++ y.store.lines)
  /-- The numbers that are told are those of the items that have been taken out. -/
  told : ∀ e ∈ y.log, e.clearCount + e.sweepCount = e.gone.length
  counted : (y.log.flatMap Event.added).length =
    (y.log.map Event.clearCount).sum + (y.log.map Event.sweepCount).sum + y.store.size
  returned : (y.log.map Event.sweepCount).sum =
    (y.log.map Event.sweepTotal).sum + (y.tasks.map Task.removed).sum

/-- A sweep that is seen in the log has swept a shard. -/
theorem swept_of_step {y z : World κ τ α} {l : Ledger κ τ} (h : y.store.Represents l) (hyz : Step y z)
    {now index told : Nat} {gone : List (Line κ τ)} (hlog : z.log = y.log ++ [.swept now index gone told]) :
    Swept y.store z.store now index gone := by
  obtain ⟨events, heffect, hevents⟩ := effect_of_step hyz
  rw [hlog] at hevents
  obtain rfl := List.append_cancel_left hevents
  generalize z.store = t at heffect
  cases heffect with
  | sweep _ _ hindex => exact h.swept now hindex

/-- A store that has been without items is used by any tasks, and their steps follow each other in any order. -/
theorem sound_of_reachable (name : String) (shardCount interval horizon : Nat) (assign : κ → Nat) (clock : Nat)
    {y : World κ τ α} (h : Reachable (.start (.empty name shardCount interval horizon assign) clock) y) : Sound y := by
  obtain ⟨l, hl⟩ := booked_of_reachable (represents_empty name shardCount interval horizon assign) h
  have hlines := hl.represents.lines_perm
  refine ⟨?_, ?_, ?_, hl.told, ?_, totalled_of_reachable h⟩
  · intro z hyz now index gone told hlog
    exact swept_of_step hl.represents hyz hlog
  · intro key hunused
    have hitems := hl.unused key hunused
    refine ⟨?_, ?_⟩
    · rw [hl.represents.count, Ledger.count_eq, hitems]
      rfl
    · rw [← hl.represents.items] at hitems
      exact List.map_eq_nil_iff.1 hitems
  · exact hl.balance.trans (hlines.symm.append_left _)
  · have htold : (y.log.map Event.clearCount).sum + (y.log.map Event.sweepCount).sum =
        (y.log.flatMap Event.gone).length := by
      rw [← List.sum_map_add, List.map_congr_left hl.told, List.length_flatMap]
    rw [htold, hl.represents.size, hl.balance.length_eq, List.length_append]
    rfl

/-- While a sweep is under way that has not come to any shard yet, an item is pushed at a time that was read before,
and its key is cleared. -/
theorem sound_of_reachable_sweepUnderWay :
    ∃ y : World Nat Unit Unit, Reachable (.start (.empty "store" 2 1000 wordHorizon id) 5) y ∧ y.clock = 100 ∧
      y.tasks = [.sweep 5 0 0] ∧ y.log.flatMap Event.added = [⟨7, (), 5, 15⟩] ∧ y.store.count 7 = 0 ∧
      (y.log.map Event.clearCount).sum + y.store.size = 1 := by
  have hfree : ∀ (x : World Nat Unit Unit) (i : Nat), (∀ t ∈ x.tasks, ∀ key now work, t ≠ .inside key now work) →
      ¬ x.Held i := by
    rintro x i htasks ⟨key, now, work, hmem, -⟩
    exact htasks _ hmem key now work rfl
  let called : World Nat Unit Unit :=
    { World.start (.empty "store" 2 1000 wordHorizon id) 100 with tasks := [.sweep 5 0 0, .push 7 () 10 5] }
  have hcalled : Reachable (.start (.empty "store" 2 1000 wordHorizon id) 5) called :=
    .step (.step (.step .refl .callSweep) (.callPush 7 () 10)) (.tick 100)
  have htasks : called.tasks = [.sweep 5 0 0] ++ .push 7 () 10 5 :: [] := rfl
  have hrun := (hcalled.step (.push htasks (hfree _ _ (by simp [called])))).step (.clear 7 (hfree _ _ (by simp)))
  have hsound := sound_of_reachable "store" 2 1000 wordHorizon id 5 hrun
  have hunused := hsound.unused 7 ⟨[_], _, _, [], rfl, nofun⟩
  exact ⟨_, hrun, rfl, rfl, rfl, hunused.1, hsound.counted.symm⟩

end ChatModeration.Store
