import ChatModeration.Proofs.Workers.Flow
import Mathlib.Data.List.Induction

/-!
# What becomes of the messages of a pool

Whatever dispatches, workers, cancellation and shutdown do one after the other, every message has been taken from the
queue, is in it, has been refused or waits (`run_accounts`).  Messages are taken in the order in which they were put
in, the queue keeps its bound, a worker that has seen the cancellation takes nothing, and a dispatch fails only after
it has found the queue full and only when the pool is cancelled.  When all workers are gone, what has been put into the
queue has been handled or is left there to be discarded.
-/

namespace ChatModeration.WorkerPool

open Event (acceptedMessages refusedMessages takenMessages handledMessages lostMessages)

variable {α : Type}

/-! ### Workers that are gone -/

theorem isDown_iff {p : WorkerPool α} : p.isDown = true ↔ ∀ a ∈ p.workers, a = .gone := by
  rw [isDown, liveWorker?, Option.isNone_iff_eq_none, List.findIdx?_eq_none_iff]
  constructor
  · intro h a ha
    have hlive := h a ha
    cases a with
    | gone => rfl
    | _ => cases hlive
  · intro h a ha
    rw [h a ha]

theorem inHand_eq_nil_of_isDown {p : WorkerPool α} (h : p.isDown = true) : p.inHand = [] := by
  rw [inHand, List.filterMap_eq_nil_iff]
  intro a ha
  rw [isDown_iff.1 h a ha]
  rfl

/-- A worker that is gone takes nothing. -/
theorem take_not_mem_of_gone {p q : WorkerPool α} {w : Nat} {moves : List (Move α)}
    {events : List (Event α)} (hw : p.workers[w]? = some .gone) (h : p.run moves = some (q, events)) :
    .take w ∉ moves := by
  induction moves generalizing p events with
  | nil => exact List.not_mem_nil
  | cons move moves ih =>
    obtain ⟨r, e, e', hstep, hrun, -⟩ := run_cons_eq_some.1 h
    have hlater := ih ((turn_of_step hstep).flow.gone w hw) hrun
    intro hmem
    rcases List.mem_cons.1 hmem with rfl | hmem
    · simp [step, hw] at hstep
    · exact hlater hmem

/-- A worker that sees the cancellation is gone. -/
theorem gone_of_check {p q : WorkerPool α} {w : Nat} {events : List (Event α)} (hp : p.isCancelled = true)
    (h : p.step (.check w) = some (q, events)) : q.workers[w]? = some .gone := by
  cases turn_of_step h with
  | check hw =>
    have hlt := (List.getElem?_eq_some_iff.1 hw).1
    simp [setWorker, hp, hlt]

/-! ### Handlers that return -/

/-- Only a handler that fails loses a message. -/
theorem Turn.lostMessages_eq_nil {p q : WorkerPool α} {move : Move α} {events : List (Event α)}
    (h : Turn p move q events) (hmove : ∀ w, move ≠ .fail w) : lostMessages events = [] := by
  cases h with
  | fail hw => exact absurd rfl (hmove _)
  | _ => rfl

/-- If handlers return, nothing is lost. -/
theorem lost_of_run {p q : WorkerPool α} {moves : List (Move α)} {events : List (Event α)}
    (h : p.run moves = some (q, events)) (hmoves : ∀ w, .fail w ∉ moves) : lostMessages events = [] := by
  induction moves generalizing p events with
  | nil =>
    cases h
    rfl
  | cons move moves ih =>
    obtain ⟨r, e, e', hstep, hrun, rfl⟩ := run_cons_eq_some.1 h
    have hfirst : lostMessages e = [] := by
      refine (turn_of_step hstep).lostMessages_eq_nil fun w hw => ?_
      exact hmoves w (by simp [hw])
    have hlater : lostMessages e' = [] := ih hrun fun w hw => hmoves w (List.mem_cons_of_mem _ hw)
    simp only [lostMessages, List.filterMap_append] at hfirst hlater ⊢
    rw [hfirst, hlater, List.append_nil]

/-! ### Dispatches that fail -/

/-- Some moves contain a dispatch of a message that found the queue full. -/
def FoundFull (p : WorkerPool α) (moves : List (Move α)) (m : α) : Prop :=
  ∃ before after q events, moves = before ++ .dispatch m :: after ∧ p.run before = some (q, events) ∧
    q.queue.length = q.capacity

theorem FoundFull.append {p : WorkerPool α} {moves : List (Move α)} {m : α} (h : p.FoundFull moves m)
    (others : List (Move α)) : p.FoundFull (moves ++ others) m := by
  obtain ⟨before, after, q, events, rfl, hrun, hfull⟩ := h
  exact ⟨before, after ++ others, q, events, by simp, hrun, hfull⟩

/-- A message waits after a move if it waited before, or if its dispatch has found the queue full. -/
theorem Turn.mem_blocked {p q : WorkerPool α} {move : Move α} {events : List (Event α)} {m : α}
    (h : Turn p move q events) (hm : m ∈ q.blocked) :
    m ∈ p.blocked ∨ (move = .dispatch m ∧ p.hasRoom ≠ true) := by
  cases h with
  | block hopen hfull =>
    rcases List.mem_append.1 hm with hm | hm
    · exact .inl hm
    · rw [List.mem_singleton.1 hm]
      exact .inr ⟨rfl, hfull⟩
  | retry hi hroom => exact .inl (List.mem_of_mem_eraseIdx hm)
  | giveUp hi hcancelled => exact .inl (List.mem_of_mem_eraseIdx hm)
  | _ => exact .inl hm

/-- A message that waits has found the queue full. -/
theorem foundFull_of_mem_blocked {p q : WorkerPool α} {moves : List (Move α)}
    {events : List (Event α)} {m : α} (hp : p.blocked = []) (hbounded : p.queue.length ≤ p.capacity)
    (h : p.run moves = some (q, events)) (hm : m ∈ q.blocked) : p.FoundFull moves m := by
  -- from the end of the run, so that the last move is the one that may have blocked the message
  induction moves using List.reverseRecOn generalizing q events with
  | nil =>
    cases h
    simp [hp] at hm
  | append_singleton moves move ih =>
    obtain ⟨r, e, e', hrun, hlast, rfl⟩ := run_append_eq_some.1 h
    obtain ⟨s, e₁, e₂, hstep, hnil, rfl⟩ := run_cons_eq_some.1 hlast
    cases hnil
    rcases (turn_of_step hstep).mem_blocked hm with hbefore | ⟨rfl, hroom⟩
    · exact (ih hrun hbefore).append [move]
    · have hle := (run_flow hrun).bounded hbounded
      have hfull := mt hasRoom_iff.2 hroom
      exact ⟨moves, [], r, e, rfl, hrun, by omega⟩

/-- A dispatch fails only when it waits and the pool is cancelled, and it leaves the queue as it is. -/
theorem Turn.of_refused {p q : WorkerPool α} {move : Move α} {events : List (Event α)} {m : α}
    (h : Turn p move q events) (hm : .refused m ∈ events) :
    p.isCancelled = true ∧ q.queue = p.queue ∧ m ∈ p.blocked := by
  cases h with
  | giveUp hi hcancelled =>
    obtain rfl : m = _ := by simpa using hm
    exact ⟨hcancelled, rfl, List.mem_of_getElem? hi⟩
  | _ => simp at hm

/-! ### One dispatch after the other -/

/-- No dispatch among some moves begins while another one waits. -/
def OneByOne (p : WorkerPool α) (moves : List (Move α)) : Prop :=
  ∀ before m after q events, moves = before ++ .dispatch m :: after → p.run before = some (q, events) → q.blocked = []

theorem OneByOne.of_append {p : WorkerPool α} {moves others : List (Move α)} (h : p.OneByOne (moves ++ others)) :
    p.OneByOne moves := by
  rintro before m after q events rfl hrun
  exact h before m (after ++ others) q events (by simp) hrun

/-- The only dispatch that waits is the one that goes on. -/
theorem eraseIdx_of_length_le_one {l : List α} {i : Nat} {m : α} (hl : l.length ≤ 1) (h : l[i]? = some m) :
    l = [m] ∧ l.eraseIdx i = [] := by
  match l, i, h with
  | [n], 0, h =>
    obtain rfl := Option.some.inj h
    exact ⟨rfl, rfl⟩
  | _ :: _ :: _, _, _ => simp at hl

/-- A dispatch that waits is the last one, and the others have put their messages into the queue in order. -/
theorem sublist_of_oneByOne {p q : WorkerPool α} {moves : List (Move α)} {events : List (Event α)}
    (hp : p.blocked = []) (hmoves : p.OneByOne moves) (h : p.run moves = some (q, events)) :
    q.blocked.length ≤ 1 ∧ (acceptedMessages events ++ q.blocked).Sublist (dispatched moves) := by
  induction moves using List.reverseRecOn generalizing q events with
  | nil =>
    cases h
    simp [hp, acceptedMessages]
  | append_singleton moves move ih =>
    obtain ⟨r, e, e', hrun, hlast, rfl⟩ := run_append_eq_some.1 h
    obtain ⟨s, e₁, e₂, hstep, hnil, rfl⟩ := run_cons_eq_some.1 hlast
    cases hnil
    obtain ⟨hle, hsub⟩ := ih hmoves.of_append hrun
    have hsplit : acceptedMessages (e ++ (e₁ ++ [])) = acceptedMessages e ++ acceptedMessages e₁ := by
      rw [List.append_nil, acceptedMessages, List.filterMap_append]
      rfl
    have hdispatched : dispatched (moves ++ [move]) = dispatched moves ++ move.message?.toList := by
      rw [dispatched, List.filterMap_append]
      cases hm : move.message? <;> simp [dispatched, hm]
    rw [hsplit, hdispatched]
    cases turn_of_step hstep with
    | accept hopen hroom =>
      have hblocked := hmoves moves _ [] r e rfl hrun
      simp only [hblocked, List.append_nil] at hsub
      simp only [enqueue, hblocked]
      exact ⟨Nat.zero_le 1, by simpa [acceptedMessages, Move.message?] using hsub⟩
    | block hopen hfull =>
      have hblocked := hmoves moves _ [] r e rfl hrun
      simp only [hblocked, List.append_nil] at hsub
      simp only [hblocked]
      exact ⟨Nat.le_refl 1, by simpa [acceptedMessages, Move.message?] using hsub⟩
    | retry hi hroom =>
      obtain ⟨hblocked, herase⟩ := eraseIdx_of_length_le_one hle hi
      rw [hblocked] at hsub
      simp only [herase]
      exact ⟨Nat.zero_le 1, by simpa [acceptedMessages, Move.message?] using hsub⟩
    | giveUp hi hcancelled =>
      obtain ⟨-, herase⟩ := eraseIdx_of_length_le_one hle hi
      simp only [herase]
      have hfewer := (List.sublist_append_left _ _).trans hsub
      exact ⟨Nat.zero_le 1, by simpa [acceptedMessages, Move.message?] using hfewer⟩
    | check hw => exact ⟨hle, by simpa [acceptedMessages, Move.message?, setWorker] using hsub⟩
    | take hw hq => exact ⟨hle, by simpa [acceptedMessages, Move.message?, setWorker] using hsub⟩
    | stopWaiting hw => exact ⟨hle, by simpa [acceptedMessages, Move.message?, setWorker] using hsub⟩
    | finish hw => exact ⟨hle, by simpa [acceptedMessages, Move.message?, setWorker] using hsub⟩
    | fail hw => exact ⟨hle, by simpa [acceptedMessages, Move.message?, setWorker] using hsub⟩
    | cancel => exact ⟨hle, by simpa [acceptedMessages, Move.message?] using hsub⟩
    | close hblocked => exact ⟨hle, by simpa [acceptedMessages, Move.message?] using hsub⟩

/-! ### Accounts -/

/-- What has become of the messages after some moves of a pool that has places for `capacity` of them. -/
structure Accounts (start : WorkerPool α) (capacity : Nat) (moves : List (Move α)) (events : List (Event α))
    (q : WorkerPool α) : Prop where
  /-- There is a place in the queue at least, and there are never more messages than places. -/
  bounded : q.queue.length ≤ max capacity 1
  /-- Messages are taken in the order in which their dispatches have put them into the queue. -/
  ordered : acceptedMessages events = takenMessages events ++ q.queue
  /-- This is the order in which they are dispatched, if one dispatch follows the other. -/
  sequential : start.OneByOne moves → (takenMessages events ++ q.queue).Sublist (dispatched moves)
  /-- The dispatch of a message has put it into the queue, has failed, or waits. -/
  settled : (dispatched moves).Perm (acceptedMessages events ++ refusedMessages events ++ q.blocked)
  /-- A worker that has seen the cancellation takes nothing. -/
  stopped : ∀ before w after p past, moves = before ++ .check w :: after → start.run before = some (p, past) →
    p.isCancelled = true → .take w ∉ after
  /-- A dispatch fails only when the pool is cancelled and after it has found the queue full, which it leaves as it
  is. -/
  refused : ∀ before move after p past p' now m, moves = before ++ move :: after →
    start.run before = some (p, past) → p.step move = some (p', now) → .refused m ∈ now →
    p.isCancelled = true ∧ p'.queue = p.queue ∧ start.FoundFull before m
  /-- When a shutdown is complete and no handler has failed, what was put into the queue has been handled once or is
  discarded. -/
  complete : (∀ w, .fail w ∉ moves) → q.isClosed = true → q.isDown = true →
    q.blocked = [] ∧ (handledMessages events).Perm (takenMessages events) ∧
      (handledMessages events ++ q.queue).Perm (acceptedMessages events) ∧
      (handledMessages events).length + q.discarded = (acceptedMessages events).length
  /-- Where messages can be told apart, none of them is handled twice, or handled and also discarded or refused. -/
  distinct : (∀ w, .fail w ∉ moves) → q.isClosed = true → q.isDown = true → (dispatched moves).Nodup →
    (handledMessages events ++ q.queue ++ refusedMessages events).Nodup

theorem inHand_start (generation size capacity : Nat) :
    (start generation size capacity : WorkerPool α).inHand = [] :=
  List.filterMap_replicate_of_none rfl

/-- When the workers of a closed pool are gone, what they have taken has been handled. -/
theorem handled_perm_taken {generation size capacity : Nat} {moves : List (Move α)} {q : WorkerPool α}
    {events : List (Event α)} (h : (start generation size capacity).run moves = some (q, events))
    (hmoves : ∀ w, .fail w ∉ moves) (hdown : q.isDown = true) :
    (handledMessages events).Perm (takenMessages events) := by
  -- nobody has a message in hand, neither at the start nor at the end
  have hinHand := (run_flow h).inHand
  rw [inHand_start, inHand_eq_nil_of_isDown hdown, lost_of_run h hmoves] at hinHand
  simpa using hinHand.symm

/-- Whatever a pool does, its messages are accounted for. -/
theorem run_accounts (generation size capacity : Nat) {moves : List (Move α)} {q : WorkerPool α}
    {events : List (Event α)} (h : (start generation size capacity).run moves = some (q, events)) :
    Accounts (start generation size capacity) capacity moves events q := by
  have hflow := run_flow h
  have hordered : acceptedMessages events = takenMessages events ++ q.queue := hflow.queue
  have hsettled : (dispatched moves).Perm (acceptedMessages events ++ refusedMessages events ++ q.blocked) :=
    hflow.blocked
  refine {
    bounded := ?_
    ordered := hordered
    sequential := ?_
    settled := hsettled
    stopped := ?_
    refused := ?_
    complete := ?_
    distinct := ?_ }
  · have hle := hflow.bounded (Nat.zero_le _)
    rw [hflow.capacity] at hle
    exact hle
  · intro hmoves
    rw [← hordered]
    exact (List.sublist_append_left _ _).trans (sublist_of_oneByOne rfl hmoves h).2
  · rintro before w after p past rfl hbefore hcancelled
    obtain ⟨p₁, e, e', hrun, hrest, -⟩ := run_append_eq_some.1 h
    obtain ⟨rfl, rfl⟩ := Prod.mk.inj (Option.some.inj (hbefore.symm.trans hrun))
    obtain ⟨r, e₁, e₂, hstep, hafter, -⟩ := run_cons_eq_some.1 hrest
    exact take_not_mem_of_gone (gone_of_check hcancelled hstep) hafter
  · rintro before move after p past p' now m rfl hbefore hstep hm
    obtain ⟨hcancelled, hqueue, hblocked⟩ := (turn_of_step hstep).of_refused hm
    exact ⟨hcancelled, hqueue, foundFull_of_mem_blocked rfl (Nat.zero_le _) hbefore hblocked⟩
  · intro hmoves hclosed hdown
    have hhandled := handled_perm_taken h hmoves hdown
    have hall : (handledMessages events ++ q.queue).Perm (acceptedMessages events) := by
      rw [hordered]
      exact hhandled.append_right q.queue
    refine ⟨(hflow.closed nofun hclosed).2, hhandled, hall, ?_⟩
    rw [discarded, ← List.length_append]
    exact hall.length_eq
  · intro hmoves hclosed hdown hnodup
    rw [hsettled.nodup_iff, hordered] at hnodup
    have hhandled := handled_perm_taken h hmoves hdown
    have hsame := (hhandled.append_right q.queue).append_right (refusedMessages events)
    exact hsame.nodup_iff.2 (List.nodup_append.1 hnodup).1

/-- A worker is busy, a message waits in the queue, and the dispatch of another one fails. -/
def crowded : List (Move Nat) :=
  [.dispatch 1, .check 0, .take 0, .dispatch 2, .dispatch 3, .cancel, .giveUp 0, .finish 0, .check 0, .close]

/-- The pool after that, whose only worker is gone. -/
def deserted : WorkerPool Nat := ⟨1, 1, [2], [.gone], [], true, true⟩

theorem run_accounts_crowded :
    (start 1 1 0).run crowded =
        some (deserted, [.accepted 1, .taken 1, .accepted 2, .refused 3, .handled 1]) ∧
      (∀ w, .fail w ∉ crowded) ∧ deserted.isClosed = true ∧ deserted.isDown = true ∧
      Accounts (start 1 1 0) 0 crowded [.accepted 1, .taken 1, .accepted 2, .refused 3, .handled 1] deserted :=
  ⟨rfl, by simp [crowded], rfl, rfl, run_accounts 1 1 0 rfl⟩

end ChatModeration.WorkerPool
