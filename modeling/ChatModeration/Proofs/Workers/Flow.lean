import ChatModeration.Workers
import Mathlib.Data.List.Perm.Basic

/-!
# The flow of messages through a pool

A move may do one of a few things (`Turn`).  What it does to the messages (`Turn.flow`) is said as a balance: messages
enter the queue at one end and leave it at the other, a message that is taken is in the hands of a worker until it is
handled or lost, and a dispatch is waiting until its message is accepted or refused.  Balances add up (`Flow.trans`),
so a whole run has one too (`run_flow`).
-/

namespace ChatModeration

variable {α : Type}

namespace Event

/-- The messages of some events whose dispatch has succeeded, in the order in which they were put into the queue. -/
def acceptedMessages (events : List (Event α)) : List α :=
  events.filterMap fun
    | .accepted m => some m
    | _ => none

/-- The messages of some events whose dispatch has failed. -/
def refusedMessages (events : List (Event α)) : List α :=
  events.filterMap fun
    | .refused m => some m
    | _ => none

/-- The messages of some events that workers have taken from the queue, in this order. -/
def takenMessages (events : List (Event α)) : List α :=
  events.filterMap fun
    | .taken m => some m
    | _ => none

/-- The messages of some events whose handler has failed. -/
def lostMessages (events : List (Event α)) : List α :=
  events.filterMap fun
    | .lost m => some m
    | _ => none

end Event

/-- The message that a worker handles. -/
def Worker.message? : Worker α → Option α
  | busy m => some m
  | _ => none

/-- The message that a move brings to the pool. -/
def Move.message? : Move α → Option α
  | dispatch m => some m
  | _ => none

namespace WorkerPool

open Event (acceptedMessages refusedMessages takenMessages handledMessages lostMessages)

/-- The messages that workers are handling. -/
def inHand (p : WorkerPool α) : List α := p.workers.filterMap Worker.message?

/-- What has become of the messages between a state of a pool and a later one. -/
structure Flow (p : WorkerPool α) (dispatched : List α) (events : List (Event α)) (q : WorkerPool α) : Prop where
  generation : q.generation = p.generation
  capacity : q.capacity = p.capacity
  /-- What is put into the queue leaves it in the same order. -/
  queue : p.queue ++ acceptedMessages events = takenMessages events ++ q.queue
  inHand : (p.inHand ++ takenMessages events).Perm (handledMessages events ++ lostMessages events ++ q.inHand)
  blocked : (p.blocked ++ dispatched).Perm (acceptedMessages events ++ refusedMessages events ++ q.blocked)
  bounded : p.queue.length ≤ p.capacity → q.queue.length ≤ q.capacity
  cancelled : p.isCancelled = true → q.isCancelled = true
  /-- Nothing is dispatched after the pool has been closed. -/
  closed : (p.isClosed = true → p.isCancelled = true ∧ p.blocked = []) →
    q.isClosed = true → q.isCancelled = true ∧ q.blocked = []
  /-- A worker that is gone does not come back. -/
  gone : ∀ w : Nat, p.workers[w]? = some .gone → q.workers[w]? = some .gone

theorem Flow.refl (p : WorkerPool α) : Flow p [] [] p where
  generation := rfl
  capacity := rfl
  queue := List.append_nil _
  inHand := by simp [takenMessages, handledMessages, lostMessages]
  blocked := by simp [acceptedMessages, refusedMessages]
  bounded := id
  cancelled := id
  closed := id
  gone _ := id

theorem Flow.trans {p q r : WorkerPool α} {d d' : List α} {e e' : List (Event α)} (h : Flow p d e q)
    (g : Flow q d' e' r) : Flow p (d ++ d') (e ++ e') r where
  generation := g.generation.trans h.generation
  capacity := g.capacity.trans h.capacity
  queue := by
    have hq := h.queue
    have gq := g.queue
    simp only [acceptedMessages, takenMessages, List.filterMap_append] at hq gq ⊢
    rw [← List.append_assoc, hq, List.append_assoc, gq, List.append_assoc]
  inHand := by
    classical
    refine List.perm_iff_count.2 fun m => ?_
    have hm := List.perm_iff_count.1 h.inHand m
    have gm := List.perm_iff_count.1 g.inHand m
    simp only [takenMessages, handledMessages, lostMessages, List.filterMap_append, List.count_append] at hm gm ⊢
    omega
  blocked := by
    classical
    refine List.perm_iff_count.2 fun m => ?_
    have hm := List.perm_iff_count.1 h.blocked m
    have gm := List.perm_iff_count.1 g.blocked m
    simp only [acceptedMessages, refusedMessages, List.filterMap_append, List.count_append] at hm gm ⊢
    omega
  bounded hp := g.bounded (h.bounded hp)
  cancelled hp := g.cancelled (h.cancelled hp)
  closed hp := g.closed (h.closed hp)
  gone w hp := g.gone w (h.gone w hp)

/-! ### One move -/

/-- A list with another entry at a place. -/
theorem exists_set_eq {β : Type} {l : List β} {i : Nat} {a : β} (h : l[i]? = some a) :
    ∃ before after, l = before ++ a :: after ∧ before.length = i ∧ ∀ b, l.set i b = before ++ b :: after := by
  obtain ⟨hi, rfl⟩ := List.getElem?_eq_some_iff.1 h
  refine ⟨l.take i, l.drop (i + 1), ?_, ?_, fun b => ?_⟩
  · simp
  · simp only [List.length_take]
    omega
  · exact List.set_eq_take_append_cons_drop.trans (if_pos hi)

/-- What a worker has in hand before and after it does something else. -/
theorem count_inHand_setWorker [DecidableEq α] {p : WorkerPool α} {w : Nat} {a : Worker α}
    (h : p.workers[w]? = some a) (b : Worker α) (m : α) :
    (p.setWorker w b).inHand.count m + a.message?.toList.count m =
      p.inHand.count m + b.message?.toList.count m := by
  obtain ⟨before, after, hl, -, hset⟩ := exists_set_eq h
  have hcons : ∀ c : Worker α, (c :: after).filterMap Worker.message? =
      c.message?.toList ++ after.filterMap Worker.message? := by
    intro c
    cases hc : c.message? <;> simp [hc]
  rw [inHand, inHand, setWorker, hset b, hl]
  simp only [List.filterMap_append, hcons, List.count_append]
  omega

theorem gone_setWorker {p : WorkerPool α} {w : Nat} {a : Worker α} (h : p.workers[w]? = some a) (ha : a ≠ .gone)
    (b : Worker α) (v : Nat) (hv : p.workers[v]? = some .gone) : (p.setWorker w b).workers[v]? = some .gone := by
  have hne : w ≠ v := by
    rintro rfl
    exact ha (Option.some.inj (h.symm.trans hv))
  rw [setWorker, List.getElem?_set_ne hne, hv]

/-- A worker turns to something else without touching a message. -/
theorem flow_setWorker {p : WorkerPool α} {w : Nat} {a b : Worker α} (h : p.workers[w]? = some a)
    (hgone : a ≠ .gone) (ha : a.message? = none) (hb : b.message? = none) : Flow p [] [] (p.setWorker w b) where
  generation := rfl
  capacity := rfl
  queue := List.append_nil _
  inHand := by
    classical
    refine List.perm_iff_count.2 fun m => ?_
    have hm := count_inHand_setWorker h b m
    simp only [ha, hb] at hm
    simpa [takenMessages, handledMessages, lostMessages] using hm.symm
  blocked := by simp [acceptedMessages, refusedMessages, setWorker]
  bounded := id
  cancelled := id
  closed := id
  gone := gone_setWorker h hgone b

/-- A worker takes the oldest message. -/
theorem flow_take {p : WorkerPool α} {w : Nat} {m : α} {rest : List α}
    (h : p.workers[w]? = some .waiting) (hq : p.queue = m :: rest) :
    Flow p [] [.taken m] { p.setWorker w (.busy m) with queue := rest } where
  generation := rfl
  capacity := rfl
  queue := by simp [acceptedMessages, takenMessages, hq]
  inHand := by
    classical
    refine List.perm_iff_count.2 fun n => ?_
    have hn := count_inHand_setWorker h (.busy m) n
    simpa [takenMessages, handledMessages, lostMessages, Worker.message?, inHand] using hn.symm
  blocked := by simp [acceptedMessages, refusedMessages, setWorker]
  bounded hp := by
    rw [hq, List.length_cons] at hp
    exact Nat.le_of_succ_le hp
  cancelled := id
  closed := id
  gone := gone_setWorker h nofun (.busy m)

/-- The handler of a worker ends, in one way or the other. -/
theorem flow_release {p : WorkerPool α} {w : Nat} {m : α} {b : Worker α} {e : Event α}
    (h : p.workers[w]? = some (.busy m)) (hb : b.message? = none) (he : e = .handled m ∨ e = .lost m) :
    Flow p [] [e] (p.setWorker w b) where
  generation := rfl
  capacity := rfl
  queue := by
    rcases he with rfl | rfl
    · exact List.append_nil _
    · exact List.append_nil _
  inHand := by
    classical
    refine List.perm_iff_count.2 fun n => ?_
    have hn := count_inHand_setWorker h b n
    have ha : (Worker.busy m).message? = some m := rfl
    simp only [ha, hb, Option.toList_some, Option.toList_none, List.count_nil, Nat.add_zero] at hn
    rcases he with rfl | rfl
    · show (p.inHand ++ []).count n = ([m] ++ [] ++ (p.setWorker w b).inHand).count n
      simp only [List.append_nil, List.count_append]
      omega
    · show (p.inHand ++ []).count n = ([] ++ [m] ++ (p.setWorker w b).inHand).count n
      simp only [List.append_nil, List.nil_append, List.count_append]
      omega
  blocked := by
    rcases he with rfl | rfl
    · simp [acceptedMessages, refusedMessages, setWorker]
    · simp [acceptedMessages, refusedMessages, setWorker]
  bounded := id
  cancelled := id
  closed := id
  gone := gone_setWorker h nofun b

theorem hasRoom_iff {p : WorkerPool α} : p.hasRoom = true ↔ p.queue.length < p.capacity := decide_eq_true_iff

theorem length_enqueue {p : WorkerPool α} (h : p.hasRoom = true) (m : α) :
    (p.enqueue m).queue.length ≤ (p.enqueue m).capacity := by
  rw [hasRoom_iff] at h
  simp only [enqueue, List.length_append, List.length_singleton]
  omega

/-- A dispatch finds room. -/
theorem flow_enqueue {p : WorkerPool α} (h : p.hasRoom = true) (m : α) : Flow p [m] [.accepted m] (p.enqueue m) where
  generation := rfl
  capacity := rfl
  queue := by simp [acceptedMessages, takenMessages, enqueue]
  inHand := by simp [takenMessages, handledMessages, lostMessages, inHand, enqueue]
  blocked := by simp [acceptedMessages, refusedMessages, enqueue]
  bounded _ := length_enqueue h m
  cancelled := id
  closed := id
  gone _ := id

/-- A dispatch finds the queue full. -/
theorem flow_block {p : WorkerPool α} (h : p.isClosed ≠ true) (m : α) :
    Flow p [m] [] { p with blocked := p.blocked ++ [m] } where
  generation := rfl
  capacity := rfl
  queue := by simp [acceptedMessages, takenMessages]
  inHand := by simp [takenMessages, handledMessages, lostMessages, inHand]
  blocked := by simp [acceptedMessages, refusedMessages]
  bounded := id
  cancelled := id
  closed _ hclosed := absurd hclosed h
  gone _ := id

theorem perm_eraseIdx_blocked {p : WorkerPool α} {i : Nat} {m : α} (h : p.blocked[i]? = some m) :
    p.blocked.Perm (m :: p.blocked.eraseIdx i) := by
  obtain ⟨hi, rfl⟩ := List.getElem?_eq_some_iff.1 h
  exact (List.getElem_cons_eraseIdx_perm hi).symm

theorem closed_of_blocked {p : WorkerPool α} {i : Nat} {m : α} (h : p.blocked[i]? = some m)
    (hp : p.isClosed = true → p.isCancelled = true ∧ p.blocked = []) : p.isClosed ≠ true := by
  intro hclosed
  simp [(hp hclosed).2] at h

/-- A blocked dispatch finds room. -/
theorem flow_retry {p : WorkerPool α} {i : Nat} {m : α} (h : p.blocked[i]? = some m) (hroom : p.hasRoom = true) :
    Flow p [] [.accepted m] { p.enqueue m with blocked := p.blocked.eraseIdx i } where
  generation := rfl
  capacity := rfl
  queue := by simp [acceptedMessages, takenMessages, enqueue]
  inHand := by simp [takenMessages, handledMessages, lostMessages, inHand, enqueue]
  blocked := by simpa [acceptedMessages, refusedMessages] using perm_eraseIdx_blocked h
  bounded _ := length_enqueue hroom m
  cancelled := id
  closed hp hclosed := absurd hclosed (closed_of_blocked (p := p) h hp)
  gone _ := id

/-- A blocked dispatch gives up. -/
theorem flow_giveUp {p : WorkerPool α} {i : Nat} {m : α} (h : p.blocked[i]? = some m) :
    Flow p [] [.refused m] { p with blocked := p.blocked.eraseIdx i } where
  generation := rfl
  capacity := rfl
  queue := by simp [acceptedMessages, takenMessages]
  inHand := by simp [takenMessages, handledMessages, lostMessages, inHand]
  blocked := by simpa [acceptedMessages, refusedMessages] using perm_eraseIdx_blocked h
  bounded := id
  cancelled := id
  closed hp hclosed := absurd hclosed (closed_of_blocked (p := p) h hp)
  gone _ := id

theorem flow_cancel (p : WorkerPool α) : Flow p [] [] { p with isCancelled := true } where
  generation := rfl
  capacity := rfl
  queue := List.append_nil _
  inHand := by simp [takenMessages, handledMessages, lostMessages, inHand]
  blocked := by simp [acceptedMessages, refusedMessages]
  bounded := id
  cancelled _ := rfl
  closed hp hclosed := ⟨rfl, (hp hclosed).2⟩
  gone _ := id

theorem flow_close {p : WorkerPool α} (h : p.blocked = []) :
    Flow p [] [] { p with isCancelled := true, isClosed := true } where
  generation := rfl
  capacity := rfl
  queue := List.append_nil _
  inHand := by simp [takenMessages, handledMessages, lostMessages, inHand]
  blocked := by simp [acceptedMessages, refusedMessages]
  bounded := id
  cancelled _ := rfl
  closed _ _ := ⟨rfl, h⟩
  gone _ := id

/-- What a move does, case by case. -/
inductive Turn (p : WorkerPool α) : Move α → WorkerPool α → List (Event α) → Prop where
  | accept {m : α} (hopen : p.isClosed ≠ true) (hroom : p.hasRoom = true) :
      Turn p (.dispatch m) (p.enqueue m) [.accepted m]
  | block {m : α} (hopen : p.isClosed ≠ true) (hfull : p.hasRoom ≠ true) :
      Turn p (.dispatch m) { p with blocked := p.blocked ++ [m] } []
  | retry {i : Nat} {m : α} (hm : p.blocked[i]? = some m) (hroom : p.hasRoom = true) :
      Turn p (.retry i) { p.enqueue m with blocked := p.blocked.eraseIdx i } [.accepted m]
  | giveUp {i : Nat} {m : α} (hm : p.blocked[i]? = some m) (hcancelled : p.isCancelled = true) :
      Turn p (.giveUp i) { p with blocked := p.blocked.eraseIdx i } [.refused m]
  | check {w : Nat} (hw : p.workers[w]? = some .checking) :
      Turn p (.check w) (p.setWorker w (if p.isCancelled then .gone else .waiting)) []
  | take {w : Nat} {m : α} {rest : List α} (hw : p.workers[w]? = some .waiting) (hq : p.queue = m :: rest) :
      Turn p (.take w) { p.setWorker w (.busy m) with queue := rest } [.taken m]
  | stopWaiting {w : Nat} (hw : p.workers[w]? = some .waiting) :
      Turn p (.stopWaiting w) (p.setWorker w (if p.isClosed && p.queue.isEmpty then .gone else .checking)) []
  | finish {w : Nat} {m : α} (hw : p.workers[w]? = some (.busy m)) :
      Turn p (.finish w) (p.setWorker w .checking) [.handled m]
  | fail {w : Nat} {m : α} (hw : p.workers[w]? = some (.busy m)) :
      Turn p (.fail w) (p.setWorker w .gone) [.lost m]
  | cancel : Turn p .cancel { p with isCancelled := true } []
  | close (hblocked : p.blocked = []) : Turn p .close { p with isCancelled := true, isClosed := true } []

theorem turn_of_step {p q : WorkerPool α} {move : Move α} {events : List (Event α)}
    (h : p.step move = some (q, events)) : Turn p move q events := by
  cases move with
  | dispatch m =>
    simp only [step] at h
    split at h
    · cases h
    · rename_i hopen
      split at h
      · rename_i hroom
        cases h
        exact .accept hopen hroom
      · rename_i hfull
        cases h
        exact .block hopen hfull
  | retry i =>
    simp only [step] at h
    split at h
    · rename_i m hm
      split at h
      · rename_i hroom
        cases h
        exact .retry hm hroom
      · cases h
    · cases h
  | giveUp i =>
    simp only [step] at h
    split at h
    · rename_i m hm
      split at h
      · rename_i hcancelled
        cases h
        exact .giveUp hm hcancelled
      · cases h
    · cases h
  | check w =>
    simp only [step] at h
    split at h
    · rename_i hw
      cases h
      exact .check hw
    · cases h
  | take w =>
    simp only [step] at h
    split at h
    · rename_i m rest hw hq
      cases h
      exact .take hw hq
    · cases h
  | stopWaiting w =>
    simp only [step] at h
    split at h
    · rename_i hw
      cases h
      exact .stopWaiting hw
    · cases h
  | finish w =>
    simp only [step] at h
    split at h
    · rename_i m hw
      cases h
      exact .finish hw
    · cases h
  | fail w =>
    simp only [step] at h
    split at h
    · rename_i m hw
      cases h
      exact .fail hw
    · cases h
  | cancel =>
    cases h
    exact .cancel
  | close =>
    simp only [step] at h
    split at h
    · rename_i hblocked
      cases h
      exact .close (List.isEmpty_iff.1 hblocked)
    · cases h

/-- What a move does to the flow of messages. -/
theorem Turn.flow {p q : WorkerPool α} {move : Move α} {events : List (Event α)}
    (h : Turn p move q events) : Flow p move.message?.toList events q := by
  cases h with
  | accept hopen hroom => exact flow_enqueue hroom _
  | block hopen hfull => exact flow_block hopen _
  | retry hm hroom => exact flow_retry hm hroom
  | giveUp hm hcancelled => exact flow_giveUp hm
  | check hw => exact flow_setWorker hw nofun rfl (by split <;> rfl)
  | take hw hq => exact flow_take hw hq
  | stopWaiting hw => exact flow_setWorker hw nofun rfl (by split <;> rfl)
  | finish hw => exact flow_release hw rfl (.inl rfl)
  | fail hw => exact flow_release hw rfl (.inr rfl)
  | cancel => exact flow_cancel p
  | close hblocked => exact flow_close hblocked

/-! ### Runs -/

/-- The messages that the dispatches among some moves bring. -/
def dispatched (moves : List (Move α)) : List α := moves.filterMap Move.message?

/-- A run of some moves is a move and a run of the others. -/
theorem run_cons_eq_some {p r : WorkerPool α} {move : Move α} {moves : List (Move α)} {events : List (Event α)} :
    p.run (move :: moves) = some (r, events) ↔
      ∃ q e e', p.step move = some (q, e) ∧ q.run moves = some (r, e') ∧ events = e ++ e' := by
  rw [run]
  constructor
  · intro h
    split at h
    · cases h
    · rename_i q e hstep
      obtain ⟨⟨s, e'⟩, hrun, heq⟩ := Option.map_eq_some_iff.1 h
      cases heq
      exact ⟨q, e, e', hstep, hrun, rfl⟩
  · rintro ⟨q, e, e', hstep, hrun, rfl⟩
    simp [hstep, hrun]

/-- A run of two lists of moves is a run of the second one after a run of the first one. -/
theorem run_append_eq_some {p r : WorkerPool α} {moves others : List (Move α)} {events : List (Event α)} :
    p.run (moves ++ others) = some (r, events) ↔
      ∃ q e e', p.run moves = some (q, e) ∧ q.run others = some (r, e') ∧ events = e ++ e' := by
  induction moves generalizing p events with
  | nil => simp [run]
  | cons move moves ih =>
    rw [List.cons_append, run_cons_eq_some]
    constructor
    · rintro ⟨q, e, later, hstep, hrun, rfl⟩
      obtain ⟨s, e', e'', hmoves, hothers, rfl⟩ := ih.1 hrun
      exact ⟨s, e ++ e', e'', run_cons_eq_some.2 ⟨q, e, e', hstep, hmoves, rfl⟩, hothers, (List.append_assoc ..).symm⟩
    · rintro ⟨s, e, e'', hmoves, hothers, rfl⟩
      obtain ⟨q, e, e', hstep, hrun, rfl⟩ := run_cons_eq_some.1 hmoves
      exact ⟨q, e, e' ++ e'', hstep, ih.2 ⟨s, e', e'', hrun, hothers, rfl⟩, List.append_assoc ..⟩

/-- What moves do to the flow of messages, one after the other. -/
theorem run_flow {p q : WorkerPool α} {moves : List (Move α)} {events : List (Event α)}
    (h : p.run moves = some (q, events)) : Flow p (dispatched moves) events q := by
  induction moves generalizing p events with
  | nil =>
    cases h
    exact .refl _
  | cons move moves ih =>
    obtain ⟨q, e, e', hstep, hrun, rfl⟩ := run_cons_eq_some.1 h
    have hdispatched : dispatched (move :: moves) = move.message?.toList ++ dispatched moves := by
      cases hm : move.message? <;> simp [dispatched, hm]
    rw [hdispatched]
    exact (turn_of_step hstep).flow.trans (ih hrun)

end WorkerPool

end ChatModeration
