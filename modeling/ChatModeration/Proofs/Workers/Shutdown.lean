import ChatModeration.Proofs.Workers.Accounts

/-!
# The start and the end of a pool

The start of a pool either gives all its workers or stops at the first one that fails (`launch_cases`), and what is left
of a pool then never has a message (`IsAbandoned.step`).  When the shutdown of a pool returns, all workers are gone
(`of_shutdown`); if no dispatch waits, there are moves for which it returns (`exists_shutdown`).
-/

namespace ChatModeration.WorkerPool

variable {α : Type} {p q : WorkerPool α}

/-- What one move preserves a run preserves. -/
theorem run_induction {P : WorkerPool α → Prop}
    (hstep : ∀ {p q : WorkerPool α} {move : Move α} {events : List (Event α)}, p.step move = some (q, events) → P p → P q)
    {moves : List (Move α)} {events : List (Event α)} (h : p.run moves = some (q, events)) (hp : P p) : P q := by
  induction moves generalizing p events with
  | nil =>
    cases h
    exact hp
  | cons move moves ih =>
    obtain ⟨r, e, e', hfirst, hrun, -⟩ := run_cons_eq_some.1 h
    exact ih hrun (hstep hfirst hp)

/-! ### Starting workers -/

/-- A new pool with some workers. -/
def crew (generation capacity size : Nat) : WorkerPool α :=
  { start generation size capacity with workers := List.replicate size .checking }

theorem startWorker_crew (fails : Nat → Bool) (generation capacity w : Nat) :
    startWorker fails (crew generation capacity w : WorkerPool α) w =
      if fails w then .error { crew generation capacity w with isClosed := true }
      else .ok (crew generation capacity (w + 1)) := by
  simp only [startWorker, crew, start, List.replicate_succ']

theorem foldlM_startWorker (fails : Nat → Bool) (generation capacity size : Nat) :
    ((∀ w < size, fails w = false) ∧
      (List.range size).foldlM (startWorker fails) (crew generation capacity 0 : WorkerPool α) =
        .ok (crew generation capacity size)) ∨
    ∃ w < size, fails w = true ∧ (∀ v < w, fails v = false) ∧
      (List.range size).foldlM (startWorker fails) (crew generation capacity 0 : WorkerPool α) =
        .error { crew generation capacity w with isClosed := true } := by
  induction size with
  | zero => exact .inl ⟨nofun, rfl⟩
  | succ size ih =>
    rw [List.range_succ, List.foldlM_append]
    rcases ih with ⟨hall, hok⟩ | ⟨w, hw, hfails, hbefore, herror⟩
    · rw [hok]
      cases hlast : fails size with
      | false =>
        refine .inl ⟨fun w hw => ?_, ?_⟩
        · rcases Nat.lt_succ_iff_lt_or_eq.1 hw with hw | rfl
          · exact hall w hw
          · exact hlast
        · simp [startWorker_crew, hlast, bind, Except.bind, pure, Except.pure]
      | true =>
        refine .inr ⟨size, Nat.lt_succ_self size, hlast, hall, ?_⟩
        simp [startWorker_crew, hlast, bind, Except.bind]
    · refine .inr ⟨w, Nat.lt_succ_of_lt hw, hfails, hbefore, ?_⟩
      rw [herror]
      rfl

/-- All workers of a pool are started, or only those before the first one whose start fails. -/
theorem launch_cases (fails : Nat → Bool) (generation size capacity : Nat) :
    ((∀ w < max size 1, fails w = false) ∧
      (launch fails generation size capacity : Except _ (WorkerPool α)) = .ok (start generation size capacity)) ∨
    ∃ w < max size 1, fails w = true ∧ (∀ v < w, fails v = false) ∧
      (launch fails generation size capacity : Except _ (WorkerPool α)) =
        .error { crew generation capacity w with isClosed := true } :=
  foldlM_startWorker fails generation capacity (max size 1)

theorem eq_start_of_launch {fails : Nat → Bool} {generation size capacity : Nat}
    (h : launch fails generation size capacity = .ok p) : p = start generation size capacity := by
  rcases launch_cases (α := α) fails generation size capacity with ⟨-, hok⟩ | ⟨w, -, -, -, herror⟩
  · exact (Except.ok.inj (hok.symm.trans h)).symm
  · cases herror.symm.trans h

theorem eq_crew_of_launch {fails : Nat → Bool} {generation size capacity : Nat}
    (h : launch fails generation size capacity = .error p) :
    ∃ w, p = { crew generation capacity w with isClosed := true } := by
  rcases launch_cases (α := α) fails generation size capacity with ⟨-, hok⟩ | ⟨w, -, -, -, herror⟩
  · cases hok.symm.trans h
  · exact ⟨w, (Except.error.inj (herror.symm.trans h)).symm⟩

theorem launch_of_not_fails {fails : Nat → Bool} (h : ∀ w, fails w = false) (generation size capacity : Nat) :
    (launch fails generation size capacity : Except _ (WorkerPool α)) = .ok (start generation size capacity) := by
  rcases launch_cases (α := α) fails generation size capacity with ⟨-, hok⟩ | ⟨w, -, hfails, -, -⟩
  · exact hok
  · rw [h w] at hfails
    cases hfails

/-- Any number of workers may have been started when the start of the next one fails. -/
theorem launch_fails (generation w capacity : Nat) :
    (launch (· == w) generation (w + 1) capacity : Except _ (WorkerPool α)) =
      .error { crew generation capacity w with isClosed := true } := by
  rcases launch_cases (α := α) (· == w) generation (w + 1) capacity with ⟨hall, -⟩ | ⟨v, -, hv, -, herror⟩
  · simpa using hall w (by omega)
  · rw [← beq_iff_eq.1 hv]
    exact beq_iff_eq.1 hv ▸ herror

/-! ### Pools that are left behind -/

/-- Whether a pool can neither have nor get a message. -/
structure IsAbandoned (p : WorkerPool α) : Prop where
  isClosed : p.isClosed = true
  queue : p.queue = []
  blocked : p.blocked = []
  inHand : p.inHand = []

theorem isAbandoned_crew (generation capacity size : Nat) :
    ({ crew generation capacity size with isClosed := true } : WorkerPool α).IsAbandoned where
  isClosed := rfl
  queue := rfl
  blocked := rfl
  inHand := List.filterMap_replicate_of_none rfl

theorem IsAbandoned.not_busy (h : p.IsAbandoned) {w : Nat} {m : α} : p.workers[w]? ≠ some (.busy m) := by
  intro hw
  have hm : m ∈ p.inHand := List.mem_filterMap.2 ⟨_, List.mem_of_getElem? hw, rfl⟩
  rw [h.inHand] at hm
  cases hm

/-- A pool without messages stays so. -/
theorem IsAbandoned.step (h : p.IsAbandoned) {move : Move α} {events : List (Event α)}
    (hstep : p.step move = some (q, events)) : q.IsAbandoned := by
  have hturn := turn_of_step hstep
  have hinHand := hturn.flow.inHand
  cases hturn with
  | accept hopen | block hopen => exact absurd h.isClosed hopen
  | retry hm | giveUp hm => simp [h.blocked] at hm
  | take hw hq => simp [h.queue] at hq
  | finish hw | fail hw => exact absurd hw h.not_busy
  | check | stopWaiting =>
    rw [h.inHand] at hinHand
    exact ⟨h.isClosed, h.queue, h.blocked, List.nil_perm.1 hinHand⟩
  | cancel => exact ⟨h.isClosed, h.queue, h.blocked, h.inHand⟩
  | close => exact ⟨rfl, h.queue, h.blocked, h.inHand⟩

/-! ### Pools that are over -/

/-- Whether a pool is closed and all its workers are gone. -/
def IsOver (p : WorkerPool α) : Prop := p.isClosed = true ∧ p.isDown = true

theorem IsOver.eq_gone (h : p.IsOver) {w : Nat} {a : Worker α} (hw : p.workers[w]? = some a) : a = .gone :=
  isDown_iff.1 h.2 a (List.mem_of_getElem? hw)

/-- A pool that is over stays so. -/
theorem IsOver.step (h : p.IsOver) {move : Move α} {events : List (Event α)}
    (hstep : p.step move = some (q, events)) : q.IsOver := by
  cases turn_of_step hstep with
  | accept | block | retry | giveUp | cancel => exact h
  | close => exact ⟨rfl, h.2⟩
  | check hw => cases h.eq_gone hw
  | take hw => cases h.eq_gone hw
  | stopWaiting hw => cases h.eq_gone hw
  | finish hw => cases h.eq_gone hw
  | fail hw => cases h.eq_gone hw

/-! ### Waiting for workers -/

theorem isGone_iff {w : Nat} : p.isGone w = true ↔ p.workers[w]? = some .gone := by
  rw [isGone]
  split <;> simp_all

/-- All workers are gone if each of them is, by number. -/
theorem isDown_of_isGone (h : ∀ w < p.workers.length, p.isGone w = true) : p.isDown = true := by
  refine isDown_iff.2 fun a ha => ?_
  obtain ⟨w, hw, rfl⟩ := List.getElem_of_mem ha
  have hgone := isGone_iff.1 (h w hw)
  rw [List.getElem?_eq_getElem hw] at hgone
  exact Option.some.inj hgone

theorem isGone_of_isDown (h : p.isDown = true) {w : Nat} (hw : w < p.workers.length) : p.isGone w = true := by
  rw [isGone_iff, List.getElem?_eq_getElem hw, isDown_iff.1 h _ (List.getElem_mem hw)]

theorem isGone_of_run {moves : List (Move α)} {events : List (Event α)} (h : p.run moves = some (q, events)) {w : Nat}
    (hw : p.isGone w = true) : q.isGone w = true :=
  isGone_iff.2 ((run_flow h).gone w (isGone_iff.1 hw))

/-- Somebody who waits for a worker goes on when it is gone, after some of the moves. -/
theorem of_await {w : Nat} {moves rest : List (Move α)} (h : p.await w moves = some (q, rest)) :
    ∃ used events, moves = used ++ rest ∧ p.run used = some (q, events) ∧ q.isGone w = true := by
  induction moves generalizing p with
  | nil =>
    rw [await] at h
    split at h
    · rename_i hgone
      cases h
      exact ⟨[], [], rfl, rfl, hgone⟩
    · cases h
  | cons move moves ih =>
    rw [await] at h
    split at h
    · rename_i hgone
      cases h
      exact ⟨[], [], rfl, rfl, hgone⟩
    · split at h
      · cases h
      · rename_i r e hstep
        obtain ⟨used, e', rfl, hrun, hgone⟩ := ih h
        exact ⟨move :: used, e ++ e', rfl, run_cons_eq_some.2 ⟨r, e, e', hstep, hrun, rfl⟩, hgone⟩

/-- If a worker is gone after some moves, then the wait for it is over by then. -/
theorem await_of_run {w : Nat} {moves : List (Move α)} {events : List (Event α)}
    (h : p.run moves = some (q, events)) (hw : q.isGone w = true) :
    ∃ r rest later, p.await w moves = some (r, rest) ∧ r.run rest = some (q, later) := by
  induction moves generalizing p events with
  | nil =>
    cases h
    exact ⟨q, [], [], by rw [await, if_pos hw], rfl⟩
  | cons move moves ih =>
    rw [await]
    split
    · exact ⟨p, move :: moves, events, rfl, h⟩
    · obtain ⟨s, e, e', hstep, hrun, -⟩ := run_cons_eq_some.1 h
      rw [hstep]
      exact ih hrun

/-- When the wait for some workers is over, all of them are gone. -/
theorem of_join {workers : List Nat} {moves rest : List (Move α)} (h : join workers p moves = some (q, rest)) :
    ∃ used events, moves = used ++ rest ∧ p.run used = some (q, events) ∧ ∀ w ∈ workers, q.isGone w = true := by
  induction workers generalizing p moves with
  | nil =>
    cases h
    exact ⟨[], [], rfl, rfl, nofun⟩
  | cons w workers ih =>
    rw [join] at h
    split at h
    · cases h
    · rename_i r between hawait
      obtain ⟨used, e, rfl, hrun, hgone⟩ := of_await hawait
      obtain ⟨more, e', rfl, hmore, hothers⟩ := ih h
      refine ⟨used ++ more, e ++ e', (List.append_assoc ..).symm, run_append_eq_some.2 ⟨r, e, e', hrun, hmore, rfl⟩, ?_⟩
      -- a worker that is gone stays away while the others are waited for
      exact List.forall_mem_cons.2 ⟨isGone_of_run hmore hgone, hothers⟩

theorem join_of_run {workers : List Nat} {moves : List (Move α)} {events : List (Event α)}
    (h : p.run moves = some (q, events)) (hworkers : ∀ w ∈ workers, q.isGone w = true) :
    ∃ r rest, join workers p moves = some (r, rest) := by
  induction workers generalizing p moves events with
  | nil => exact ⟨p, moves, rfl⟩
  | cons w workers ih =>
    obtain ⟨hw, hworkers⟩ := List.forall_mem_cons.1 hworkers
    obtain ⟨r, rest, later, hawait, hrun⟩ := await_of_run h hw
    rw [join, hawait]
    exact ih hrun hworkers

/-! ### Shutdown -/

@[simp] theorem setWorker_setWorker (p : WorkerPool α) (w : Nat) (a b : Worker α) :
    (p.setWorker w a).setWorker w b = p.setWorker w b := by
  simp [setWorker]

@[simp] theorem workers_setWorker (p : WorkerPool α) {w : Nat} {a : Worker α} (h : p.workers[w]? = some a)
    (b : Worker α) : (p.setWorker w b).workers[w]? = some b := by
  have hlt := (List.getElem?_eq_some_iff.1 h).1
  simp [setWorker, hlt]

theorem step_check {p : WorkerPool α} {w : Nat} (h : p.workers[w]? = some .checking) (hp : p.isCancelled = true) :
    p.step (.check w) = some (p.setWorker w .gone, []) := by
  simp [step, h, hp]

/-- A worker of a closed pool ends by the moves that lead there. -/
theorem run_leaving {p : WorkerPool α} {w : Nat} {a : Worker α} (hw : p.workers[w]? = some a)
    (hcancelled : p.isCancelled = true) (hclosed : p.isClosed = true) :
    ∃ events, p.run (p.leaving w a) = some (p.setWorker w .gone, events) := by
  cases a with
  | checking => exact ⟨[], run_cons_eq_some.2 ⟨_, [], [], step_check hw hcancelled, rfl, rfl⟩⟩
  | waiting =>
    by_cases hempty : p.queue.isEmpty = true
    · have hmoves : p.leaving w .waiting = [.stopWaiting w] := if_pos hempty
      have hstep : p.step (.stopWaiting w) = some (p.setWorker w .gone, []) := by
        simp [step, hw, hclosed, hempty]
      rw [hmoves]
      exact ⟨[], run_cons_eq_some.2 ⟨_, [], [], hstep, rfl, rfl⟩⟩
    · have hmoves : p.leaving w .waiting = [.stopWaiting w, .check w] := if_neg hempty
      have hstep : p.step (.stopWaiting w) = some (p.setWorker w .checking, []) := by
        simp [step, hw, hempty]
      have hcheck := step_check (workers_setWorker p hw .checking) hcancelled
      rw [setWorker_setWorker] at hcheck
      rw [hmoves]
      exact ⟨[], run_cons_eq_some.2 ⟨_, [], [], hstep, run_cons_eq_some.2 ⟨_, [], [], hcheck, rfl, rfl⟩, rfl⟩⟩
  | busy m =>
    have hstep : p.step (.finish w) = some (p.setWorker w .checking, [.handled m]) := by
      simp only [step, hw]
    have hcheck := step_check (workers_setWorker p hw .checking) hcancelled
    rw [setWorker_setWorker] at hcheck
    exact ⟨_, run_cons_eq_some.2 ⟨_, _, [], hstep, run_cons_eq_some.2 ⟨_, [], [], hcheck, rfl, rfl⟩, rfl⟩⟩
  | gone =>
    obtain ⟨hlt, hget⟩ := List.getElem?_eq_some_iff.1 hw
    have hself : p.setWorker w .gone = p := by
      rw [setWorker, ← hget, List.set_getElem_self]
    exact ⟨[], by rw [hself]; rfl⟩

/-- Workers end one after the other. -/
theorem run_leaving_all {p : WorkerPool α} {first rest : List (Worker α)} (hw : p.workers = first ++ rest)
    (hfirst : ∀ a ∈ first, a = .gone) (hcancelled : p.isCancelled = true) (hclosed : p.isClosed = true) :
    ∃ q events, p.run ((rest.zipIdx first.length).flatMap fun (worker, w) => p.leaving w worker) = some (q, events) ∧
      q.isClosed = true ∧ q.isDown = true := by
  induction rest generalizing p first with
  | nil =>
    rw [List.append_nil] at hw
    exact ⟨p, [], rfl, hclosed, isDown_iff.2 (hw ▸ hfirst)⟩
  | cons a rest ih =>
    have ha : p.workers[first.length]? = some a := by simp [hw]
    obtain ⟨e, hrun⟩ := run_leaving ha hcancelled hclosed
    have hset : (p.setWorker first.length .gone).workers = (first ++ [.gone]) ++ rest := by
      simp [setWorker, hw]
    have hgone : ∀ b ∈ first ++ [.gone], b = .gone := by
      intro b hb
      rcases List.mem_append.1 hb with hb | hb
      · exact hfirst b hb
      · exact List.mem_singleton.1 hb
    obtain ⟨q, e', hrest, hq⟩ := ih hset hgone hcancelled hclosed
    rw [List.length_append, List.length_singleton] at hrest
    rw [List.zipIdx_cons, List.flatMap_cons]
    exact ⟨q, e ++ e', run_append_eq_some.2 ⟨_, e, e', hrun, hrest, rfl⟩, hq⟩

theorem length_workers_of_step {move : Move α} {events : List (Event α)} (h : p.step move = some (q, events)) :
    q.workers.length = p.workers.length := by
  cases turn_of_step h with
  | check | take | stopWaiting | finish | fail => exact List.length_set
  | _ => rfl

theorem length_workers_of_run {moves : List (Move α)} {events : List (Event α)} (h : p.run moves = some (q, events)) :
    q.workers.length = p.workers.length :=
  run_induction (P := fun r => r.workers.length = p.workers.length)
    (fun hstep hr => (length_workers_of_step hstep).trans hr) h rfl

theorem isClosed_of_step {move : Move α} {events : List (Event α)} (h : p.step move = some (q, events))
    (hp : p.isClosed = true) : q.isClosed = true := by
  cases turn_of_step h with
  | close => rfl
  | _ => exact hp

/-- A shutdown closes the pool, and when it returns all workers are gone. -/
theorem of_shutdown {moves : List (Move α)} {discarded : Nat} (h : p.shutdown moves = some (q, discarded)) :
    ∃ used rest events, moves = used ++ rest ∧ p.run (.close :: used) = some (q, events) ∧ q.IsOver ∧
      q.blocked = [] ∧ discarded = q.discarded := by
  rw [shutdown] at h
  split at h
  · cases h
  · rename_i r e hclose
    obtain ⟨⟨q', rest⟩, hjoin, heq⟩ := Option.map_eq_some_iff.1 h
    obtain ⟨rfl, rfl⟩ := Prod.mk.inj heq
    obtain ⟨used, e', rfl, hrun, hgone⟩ := of_join hjoin
    have hdown : q'.isDown = true :=
      isDown_of_isGone fun w hw => hgone w (List.mem_range.2 (length_workers_of_run hrun ▸ hw))
    refine ⟨used, rest, e ++ e', rfl, run_cons_eq_some.2 ⟨r, e, e', hclose, hrun, rfl⟩, ?_⟩
    cases turn_of_step hclose with
    | close hblocked =>
      have hclosed : q'.isClosed = true := run_induction isClosed_of_step hrun rfl
      exact ⟨⟨hclosed, hdown⟩, ((run_flow hrun).closed (fun _ => ⟨rfl, hblocked⟩) hclosed).2, rfl⟩

/-- The shutdown of a pool where no dispatch waits can return: it does when the workers end one after the other. -/
theorem exists_shutdown (h : p.blocked = []) : ∃ q discarded, p.shutdown p.leavingMoves = some (q, discarded) := by
  have hclose : p.step .close = some ({ p with isCancelled := true, isClosed := true }, []) := by
    simp [step, h]
  have hworkers : ({ p with isCancelled := true, isClosed := true } : WorkerPool α).workers = [] ++ p.workers := rfl
  obtain ⟨q, e, hrun, -, hdown⟩ := run_leaving_all hworkers (List.forall_mem_nil _) rfl rfl
  have hgone : ∀ w ∈ List.range p.workers.length, q.isGone w = true := by
    intro w hw
    rw [← length_workers_of_run hrun] at hw
    exact isGone_of_isDown hdown (List.mem_range.1 hw)
  obtain ⟨r, rest, hjoin⟩ := join_of_run hrun hgone
  refine ⟨r, r.discarded, ?_⟩
  rw [shutdown, hclose]
  exact congrArg (Option.map _) hjoin

end ChatModeration.WorkerPool
