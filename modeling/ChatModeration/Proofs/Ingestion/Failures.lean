import ChatModeration.Proofs.Ingestion.Dispatching

/-!
# Connections that fail

Whatever is done for a connection step by step is what is done in an `attempt` (`Connection.Recorded`), it can always
come to its end (`Connection.exists_done`), and it fails only if the connection is not made or cannot be read
(`Connection.failed_iff_unreadable`).
-/

namespace ChatModeration

/-- A worker that ends makes moves of its own only. -/
theorem WorkerPool.isWork_of_mem_leaving {α : Type} {p : WorkerPool α} {w : Nat} {a : Worker α} {move : Move α}
    (h : move ∈ p.leaving w a) : move.isWork = true := by
  cases a with
  | checking =>
    obtain rfl := List.mem_singleton.1 h
    rfl
  | waiting =>
    rw [leaving] at h
    split at h
    · obtain rfl := List.mem_singleton.1 h
      rfl
    · rcases List.mem_pair.1 h with rfl | rfl
      · rfl
      · rfl
  | busy m =>
    rcases List.mem_pair.1 h with rfl | rfl
    · rfl
    · rfl
  | gone => cases h

namespace Ingestion

namespace Connection

variable {generation : Nat} {url : String} {s t : Connection}

/-! ### The attempt that a connection is -/

/-- What is done before a connection is made. -/
def opening (url : String) : List Effect := [.announce .connecting, .connect url]

/-- Frames are read, and besides what the arrivals have led to this has been done. -/
structure InProgress (generation : Nat) (url : String) (a : Attempt) (effects more : List Effect) : Prop where
  established : a.connecting = .established
  isOpen : ∀ b ∈ a.arrivals, b.ending? = none
  effects_eq : effects =
    opening url ++ .startWorkers generation :: (a.arrivals.flatMap fun b => .read :: b.effects) ++ more

/-- No more frames are read, and after that this has been done. -/
structure Ended (generation : Nat) (url : String) (a : Attempt) (effects more : List Effect)
    (ending : ConnectionEnd) : Prop where
  established : a.connecting = .established
  effects_eq : effects = opening url ++ .startWorkers generation :: (stream a.arrivals).1 ++ more
  ending_eq : (stream a.arrivals).2 = ending
  failed_iff : ending = .failed ↔ .readError ∈ a.arrivals

/-- What has been done so far is what is done in the attempt as it has gone so far. -/
inductive Recorded (generation : Nat) (url : String) : Reader → Attempt → List Effect → Prop where
  | connecting : Recorded generation url .connecting ⟨.established, [], false⟩ (opening url)
  | reading {a : Attempt} {effects : List Effect} (h : InProgress generation url a effects []) :
      Recorded generation url .reading a effects
  | dispatching {a : Attempt} {effects : List Effect} {text : String} {m : ChatMessage}
      (hm : (Arrival.frame text {}).message? = some m)
      (h : InProgress generation url a effects [.read, .countMessage m.heldByAutomod]) :
      Recorded generation url (.dispatching text m) a effects
  | blocked {a : Attempt} {effects : List Effect} {text : String} {m : ChatMessage}
      (hm : (Arrival.frame text {}).message? = some m)
      (h : InProgress generation url a effects [.read, .countMessage m.heldByAutomod]) :
      Recorded generation url (.blocked text m) a effects
  | refused {a : Attempt} {effects : List Effect} {text : String} {m : ChatMessage}
      (hm : (Arrival.frame text {}).message? = some m)
      (h : InProgress generation url a effects [.read, .countMessage m.heldByAutomod]) :
      Recorded generation url (.refused text m) a effects
  | closing {a : Attempt} {effects : List Effect} {ending : ConnectionEnd}
      (h : Ended generation url a effects [] ending) : Recorded generation url (.closing ending) a effects
  | leaving {a : Attempt} {effects : List Effect} {ending : ConnectionEnd}
      (h : Ended generation url a effects a.closing ending) : Recorded generation url (.leaving ending) a effects
  | joining {a : Attempt} {effects : List Effect} {ending : ConnectionEnd} {w : Nat}
      (h : Ended generation url a effects a.closing ending) : Recorded generation url (.joining ending w) a effects
  | done {a : Attempt} {effects : List Effect} {ending : ConnectionEnd}
      (h : Ingestion.attempt generation url a = (effects, ending))
      (hfailed : ending = .failed ↔ a.connecting = .failed ∨ .readError ∈ a.arrivals) :
      Recorded generation url (.done ending) a effects

section Attempt

variable {a : Attempt} {b : Arrival} {effects more new : List Effect} {ending : ConnectionEnd} {text : String}
  {m : ChatMessage}

theorem stream_append {first : List Arrival} (h : ∀ b ∈ first, b.ending? = none) (rest : List Arrival) :
    stream (first ++ rest) =
      ((first.flatMap fun b => .read :: b.effects) ++ (stream rest).1, (stream rest).2) := by
  induction first with
  | nil => rfl
  | cons b first ih =>
    obtain ⟨hb, hfirst⟩ := List.forall_mem_cons.1 h
    rw [List.cons_append, stream_cons, hb, ih hfirst, stream.andThen]
    simp

theorem ending_eq_failed_iff : b.ending? = some .failed ↔ b = .readError := by
  cases b with
  | frame text c =>
    simp only [Arrival.ending?]
    cases (Arrival.frame text c).event? with
    | none => simp
    | some event => cases event <;> simp [ite_eq_iff]
  | _ => simp [Arrival.ending?]

theorem InProgress.receive (h : InProgress generation url a effects more) (hb : b.ending? = none)
    (hnew : more ++ new = .read :: b.effects) :
    InProgress generation url { a with arrivals := a.arrivals ++ [b] } (effects ++ new) [] where
  established := h.established
  isOpen := List.forall_mem_append.2 ⟨h.isOpen, List.forall_mem_singleton.2 hb⟩
  effects_eq := by
    rw [h.effects_eq, List.append_assoc, hnew]
    simp

theorem InProgress.finish (h : InProgress generation url a effects more) (hb : b.ending? = some ending)
    (hnew : more ++ new = .read :: b.effects) :
    Ended generation url { a with arrivals := a.arrivals ++ [b] } (effects ++ new) [] ending where
  established := h.established
  effects_eq := by
    rw [h.effects_eq, List.append_assoc, hnew, stream_append h.isOpen, stream_cons, hb]
    simp [stream.andThen]
  ending_eq := by
    rw [stream_append h.isOpen, stream_cons, hb]
    rfl
  failed_iff := by
    have hopen : Arrival.readError ∉ a.arrivals := by
      intro hm
      cases h.isOpen _ hm
    rw [List.mem_append, List.mem_singleton, or_iff_right hopen, eq_comm (b := b), ← ending_eq_failed_iff, hb,
      Option.some_inj]

/-- A message is dispatched unless the queue is full until the program stops. -/
theorem effects_of_message (hm : (Arrival.frame text {}).message? = some m) :
    (Arrival.frame text {}).effects = [.countMessage m.heldByAutomod, .dispatch m] ∧
      (Arrival.frame text {}).ending? = none ∧
      (Arrival.frame text { queueStuck := true }).effects = [.countMessage m.heldByAutomod] ∧
      (Arrival.frame text { queueStuck := true }).ending? = some .shutdown := by
  simp only [Arrival.message?, Arrival.event?] at hm
  simp only [Arrival.effects, Arrival.ending?, Arrival.event?, frame]
  cases hevent : Feed.FeedEvent.decode text with
  | error e => simp [hevent, Except.toOption] at hm
  | ok event =>
    rw [hevent] at hm
    cases event with
    | chatMessage n | automodHold n =>
      cases hm
      exact ⟨rfl, rfl, rfl, rfl⟩
    | _ => cases hm

theorem InProgress.dispatch (h : InProgress generation url a effects [.read, .countMessage m.heldByAutomod])
    (hm : (Arrival.frame text {}).message? = some m) :
    InProgress generation url { a with arrivals := a.arrivals ++ [.frame text {}] } (effects ++ [.dispatch m]) [] := by
  obtain ⟨heffects, hopen, -⟩ := effects_of_message hm
  exact h.receive hopen (by rw [heffects]; rfl)

theorem Ended.close (h : Ended generation url a effects [] ending) (closeFails : Bool) :
    Ended generation url { a with closeFails } (effects ++ { a with closeFails }.closing)
      { a with closeFails }.closing ending where
  established := h.established
  effects_eq := by rw [h.effects_eq, List.append_nil]
  ending_eq := h.ending_eq
  failed_iff := h.failed_iff

theorem Recorded.of_connecting (h : Recorded generation url .connecting a effects) :
    a = ⟨.established, [], false⟩ ∧ effects = opening url := by
  cases h
  exact ⟨rfl, rfl⟩

theorem Recorded.of_reading (h : Recorded generation url .reading a effects) :
    InProgress generation url a effects [] := by
  cases h
  assumption

/-- When the workers of a connection are gone its attempt is over. -/
theorem Ended.attempt_eq (h : Ended generation url a effects a.closing ending) :
    Ingestion.attempt generation url a = (effects ++ [.joinWorkers generation], ending) := by
  rw [Ingestion.attempt, h.established, h.effects_eq, ← h.ending_eq]
  rfl

end Attempt

/-- How an attempt has gone so far. -/
def IsRecorded (generation : Nat) (url : String) (s : Connection) : Prop :=
  Recorded generation url s.reader s.attempt s.effects

theorem isRecorded_start (generation : Nat) (url : String) : (start url).IsRecorded generation url := .connecting

theorem IsRecorded.step (h : s.IsRecorded generation url) (hguarded : s.IsGuarded) (hstep : Step generation s t) :
    t.IsRecorded generation url := by
  rw [IsRecorded] at h
  cases hstep with
  | stop | cancel | work => exact h
  | interrupted hr hstop =>
    obtain ⟨ha, heffects⟩ := (hr ▸ h).of_connecting
    rw [IsRecorded, ha, heffects]
    exact .done rfl (by simp)
  | notConnected hr =>
    obtain ⟨ha, heffects⟩ := (hr ▸ h).of_connecting
    rw [IsRecorded, ha, heffects]
    exact .done rfl (by simp)
  | connected size capacity hr =>
    obtain ⟨ha, heffects⟩ := (hr ▸ h).of_connecting
    rw [IsRecorded, ha, heffects]
    exact .reading ⟨rfl, List.forall_mem_nil _, rfl⟩
  | stopped hr hstop => exact .closing ((hr ▸ h).of_reading.finish rfl rfl)
  | readError hr => exact .closing ((hr ▸ h).of_reading.finish rfl rfl)
  | closed hr => exact .closing ((hr ▸ h).of_reading.finish rfl rfl)
  | @event text subscriptionFails a hr ha hm =>
    have h : InProgress generation url s.attempt s.effects [] := (hr ▸ h).of_reading
    rw [IsRecorded, Connection.receive]
    cases hending : a.ending? with
    | none => exact .reading (h.receive hending rfl)
    | some ending => exact .closing (h.finish hending rfl)
  | message hr hm =>
    have h : InProgress generation url s.attempt s.effects [] := (hr ▸ h).of_reading
    refine .dispatching hm ⟨h.established, h.isOpen, ?_⟩
    show s.effects ++ _ = _
    rw [h.effects_eq, List.append_nil]
  | accepted hr hp hmove =>
    rw [hr] at h
    cases h with
    | dispatching hm h => exact .reading (h.dispatch hm)
  | full hr hp hmove =>
    rw [hr] at h
    cases h with
    | dispatching hm h => exact .blocked hm h
  | unsent hr hp hgone =>
    rw [hr] at h
    cases h with
    | dispatching hm h => exact .refused hm h
  | retried hr hp hmove =>
    rw [hr] at h
    cases h with
    | blocked hm h => exact .reading (h.dispatch hm)
  | gaveUp hr hp hmove =>
    rw [hr] at h
    cases h with
    | blocked hm h => exact .refused hm h
  | cutOff hr hp hgone =>
    rw [hr] at h
    cases h with
    | blocked hm h => exact .refused hm h
  | abandoned hr hstop =>
    rw [hr] at h
    cases h with
    | refused hm h =>
      obtain ⟨-, -, heffects, hending⟩ := effects_of_message hm
      exact .closing (h.finish hending (by rw [heffects]; rfl))
  | undispatched hr hstop =>
    -- a dispatch has failed, so the program is stopping
    rw [hguarded.isStopping (congrArg Reader.isRefused hr)] at hstop
    cases hstop
  | close closeFails hr =>
    rw [hr] at h
    cases h with
    | closing h => exact .leaving (h.close closeFails)
  | leave hr hp hmove =>
    rw [hr] at h
    cases h with
    | leaving h => exact .joining h
  | joined hr hp hgone =>
    rw [hr] at h
    cases h with
    | joining h => exact .joining h
  | join hr hp hall =>
    rw [hr] at h
    cases h with
    | joining h =>
      have hconnected : s.attempt.connecting ≠ .failed := by
        rw [h.established]
        intro hfailed
        cases hfailed
      exact .done h.attempt_eq (h.failed_iff.trans (or_iff_right hconnected).symm)

theorem Reachable.isGuarded (h : Reachable generation url s) : s.IsGuarded := (isGuarded_start url).steps h

theorem Reachable.isRecorded (h : Reachable generation url s) : s.IsRecorded generation url := by
  induction h with
  | refl => exact isRecorded_start generation url
  | tail hsteps hstep ih => exact ih.step (Reachable.isGuarded hsteps) hstep

/-! ### How a connection goes on -/

/-- How a connection ends does not change. -/
theorem Step.ending {ending : ConnectionEnd} (h : Step generation s t) (hs : s.reader.ending? = some ending) :
    t.reader.ending? = some ending := by
  cases h with
  | stop | cancel | work => exact hs
  | close _ hr | leave hr | joined hr | join hr =>
    rw [hr] at hs
    exact hs
  | interrupted hr | notConnected hr | connected _ _ hr | stopped hr | readError hr | closed hr | event hr
  | message hr | accepted hr | full hr | unsent hr | retried hr | gaveUp hr | cutOff hr | abandoned hr
  | undispatched hr =>
    rw [hr] at hs
    cases hs

/-- After a dispatch that has failed the connection ends as if the program had stopped. -/
theorem Step.of_refused {text : String} {m : ChatMessage} (h : Step generation s t) (hguarded : s.IsGuarded)
    (hs : s.reader = .refused text m) : t.reader = .refused text m ∨ t.reader.ending? = some .shutdown := by
  cases h with
  | stop | cancel | work => exact .inl hs
  | abandoned hr hstop => exact .inr rfl
  | undispatched hr hstop =>
    rw [hguarded.isStopping (congrArg Reader.isRefused hr)] at hstop
    cases hstop
  | interrupted hr | notConnected hr | connected _ _ hr | stopped hr | readError hr | closed hr | event hr
  | message hr | accepted hr | full hr | unsent hr | retried hr | gaveUp hr | cutOff hr | close _ hr | leave hr
  | joined hr | join hr =>
    rw [hr] at hs
    cases hs

theorem Steps.of_refused {text : String} {m : ChatMessage} (h : Steps generation s t) (hguarded : s.IsGuarded)
    (hs : s.reader = .refused text m) : t.reader = .refused text m ∨ t.reader.ending? = some .shutdown := by
  induction h with
  | refl => exact .inl hs
  | tail hsteps hstep ih =>
    rcases ih with hr | hending
    · exact hstep.of_refused (hguarded.steps hsteps) hr
    · exact .inr (hstep.ending hending)

/-- Workers may go on as their pool allows. -/
theorem steps_work {p q : WorkerPool ChatMessage} {moves : List (Move ChatMessage)}
    {events : List (Event ChatMessage)} (hmoves : ∀ move ∈ moves, move.isWork = true) (hp : s.pool = some p)
    (hrun : p.run moves = some (q, events)) : Steps generation s { s with pool := some q } := by
  induction moves generalizing s p events with
  | nil =>
    cases hrun
    rw [← hp]
  | cons move moves ih =>
    obtain ⟨hmove, hmoves⟩ := List.forall_mem_cons.1 hmoves
    obtain ⟨r, e, e', hstep, hrest, -⟩ := WorkerPool.run_cons_eq_some.1 hrun
    have hfirst : Step generation s { s with pool := some r } := .work hmove hp hstep
    exact .head hfirst (ih hmoves rfl hrest)

/-- The reader gets through the workers that are gone. -/
theorem steps_joined {p : WorkerPool ChatMessage} {ending : ConnectionEnd} {w : Nat}
    (hr : s.reader = .joining ending w) (hp : s.pool = some p) (hdown : p.isDown = true) :
    ∃ v, p.workers.length ≤ v ∧ Steps generation s { s with reader := .joining ending v } := by
  induction hn : p.workers.length - w generalizing s w with
  | zero =>
    refine ⟨w, Nat.le_of_sub_eq_zero hn, ?_⟩
    rw [← hr]
  | succ n ih =>
    have hw : w < p.workers.length := by omega
    have hstep : Step generation s { s with reader := .joining ending (w + 1) } :=
      .joined hr hp (WorkerPool.isGone_of_isDown hdown hw)
    obtain ⟨v, hv, hsteps⟩ := @ih { s with reader := .joining ending (w + 1) } (w + 1) rfl hp (by omega)
    exact ⟨v, hv, .head hstep hsteps⟩

/-- Until it is done a connection can come closer to its end. -/
theorem IsGuarded.exists_closer (generation : Nat) (h : s.IsGuarded) (hremaining : s.reader.remaining ≠ 0) :
    ∃ t, Steps generation s t ∧ t.reader.remaining < s.reader.remaining := by
  rw [IsGuarded] at h
  cases hr : s.reader with
  | connecting => exact ⟨_, .single (.notConnected hr), Nat.lt_of_sub_eq_succ rfl⟩
  | reading => exact ⟨_, .single (.closed hr), Nat.lt_of_sub_eq_succ rfl⟩
  | dispatching text m =>
    obtain ⟨p, hp, hheld, -⟩ := (hr ▸ h).exists_held rfl
    by_cases hroom : p.hasRoom = true
    · have hstep : p.step (.dispatch m) = some (p.enqueue m, [.accepted m]) := by
        simp [WorkerPool.step, hheld.isOpen, hroom]
      exact ⟨_, .single (.accepted hr hp hstep), Nat.lt_of_sub_eq_succ rfl⟩
    · have hstep : p.step (.dispatch m) = some ({ p with blocked := p.blocked ++ [m] }, []) := by
        simp [WorkerPool.step, hheld.isOpen, hroom]
      exact ⟨_, .single (.full hr hp hstep), Nat.lt_of_sub_eq_succ rfl⟩
  | blocked text m =>
    obtain ⟨p, hp, hheld, -⟩ := (hr ▸ h).exists_held rfl
    -- the dispatch gives up when the program is told to stop
    have hgiveUp : ({ p with isCancelled := true } : WorkerPool ChatMessage).step (.giveUp 0) =
        some ({ p with isCancelled := true, blocked := [] }, [.refused m]) := by
      simp [WorkerPool.step, hheld.blocked, Reader.waiting]
    have hstop : Step generation s { s with isStopping := true } := .stop
    have hcancel : Step generation { s with isStopping := true }
        { s with isStopping := true, pool := some { p with isCancelled := true } } := .cancel rfl hp rfl
    exact ⟨_, .head hstop (.head hcancel (.single (.gaveUp hr rfl hgiveUp))), Nat.lt_of_sub_eq_succ rfl⟩
  | refused text m =>
    obtain ⟨p, hp, -, hrefused⟩ := (hr ▸ h).exists_held rfl
    exact ⟨_, .single (.abandoned hr (hrefused rfl)), Nat.lt_of_sub_eq_succ rfl⟩
  | closing ending => exact ⟨_, .single (.close false hr), Nat.lt_of_sub_eq_succ rfl⟩
  | leaving ending =>
    obtain ⟨p, hp, hheld, -⟩ := (hr ▸ h).exists_held rfl
    have hstep : p.step .close = some ({ p with isCancelled := true, isClosed := true }, []) := by
      simp [WorkerPool.step, hheld.blocked, Reader.waiting]
    exact ⟨_, .single (.leave hr hp hstep), Nat.lt_of_sub_eq_succ rfl⟩
  | joining ending w =>
    obtain ⟨p, hp, hclosed, hcancelled⟩ : ∃ p, s.pool = some p ∧ p.isClosed = true ∧ p.isCancelled = true := by
      rw [hr] at h
      generalize s.pool = pool at h
      cases h with
      | held hheld _ _ => cases hheld
      | joining hclosed hcancelled => exact ⟨_, rfl, hclosed, hcancelled⟩
    obtain ⟨q, events, hrun, -, hdown⟩ :=
      WorkerPool.run_leaving_all (List.nil_append p.workers).symm (List.forall_mem_nil _) hcancelled hclosed
    have hwork : Steps generation s { s with pool := some q } := by
      refine steps_work (fun move hmove => ?_) hp hrun
      obtain ⟨worker, -, hmove⟩ := List.mem_flatMap.1 hmove
      exact WorkerPool.isWork_of_mem_leaving hmove
    obtain ⟨v, hall, hjoined⟩ : ∃ v, q.workers.length ≤ v ∧
        Steps generation { s with pool := some q } { s with pool := some q, reader := .joining ending v } :=
      steps_joined hr rfl hdown
    exact ⟨_, (hwork.trans hjoined).tail (.join rfl rfl hall), Nat.lt_of_sub_eq_succ rfl⟩
  | done ending => simp [hr, Reader.remaining] at hremaining

/-- A connection can always come to its end. -/
theorem IsGuarded.exists_done (generation : Nat) (h : s.IsGuarded) :
    ∃ t ending, Steps generation s t ∧ t.reader = .done ending := by
  -- the program may have to stop and workers to finish on the way, so the induction is on what is left for the reader
  induction hn : s.reader.remaining using Nat.strongRecOn generalizing s with
  | _ n ih =>
    by_cases hzero : s.reader.remaining = 0
    · cases hr : s.reader with
      | done ending => exact ⟨s, ending, .refl, hr⟩
      | _ => simp [hr, Reader.remaining] at hzero
    · obtain ⟨t, hsteps, hcloser⟩ := h.exists_closer generation hzero
      obtain ⟨u, ending, hrest, hdone⟩ := ih _ (hn ▸ hcloser) (h.steps hsteps) rfl
      exact ⟨u, ending, hsteps.trans hrest, hdone⟩

/-! ### How a connection ends -/

/--
A connection can always come to its end, and what has then been done is an attempt, which fails just when the connection
is not made or cannot be read.  A dispatch fails only when the program is stopping, and the connection then ends as it
does when the program stops.
-/
theorem failed_iff_unreadable (h : Reachable generation url s) :
    (∀ ending, s.reader = .done ending →
      (ending = .failed ↔ s.attempt.connecting = .failed ∨ .readError ∈ s.attempt.arrivals) ∧
        Ingestion.attempt generation url s.attempt = (s.effects, ending)) ∧
    (∀ text m, s.reader = .refused text m → s.isStopping = true ∧
      ∀ t ending, Steps generation s t → t.reader = .done ending → ending = .shutdown) ∧
    ∃ t ending, Steps generation s t ∧ t.reader = .done ending := by
  have hguarded : s.IsGuarded := h.isGuarded
  refine ⟨fun ending hdone => ?_, fun text m hrefused => ⟨?_, fun t ending hsteps hdone => ?_⟩,
    hguarded.exists_done generation⟩
  · have hrecorded : s.IsRecorded generation url := h.isRecorded
    rw [IsRecorded, hdone] at hrecorded
    generalize s.attempt = a at hrecorded ⊢
    cases hrecorded with
    | done hattempt hfailed => exact ⟨hfailed, hattempt⟩
  · exact hguarded.isStopping (congrArg Reader.isRefused hrefused)
  · have hnext := hsteps.of_refused hguarded hrefused
    rw [hdone] at hnext
    rcases hnext with hr | hending
    · cases hr
    · exact Option.some_inj.1 hending

/-- A frame with a message. -/
def heldFrame : String :=
  "\x7b\"metadata\":\x7b\"message_type\":\"notification\"\x7d," ++
    "\"payload\":\x7b\"subscription\":\x7b\"type\":\"automod.message.hold\"\x7d," ++
      "\"event\":\x7b\"message_id\":\"1\",\"user_id\":\"1\",\"user_login\":\"a\"," ++
        "\"message\":\x7b\"text\":\"a\"\x7d\x7d\x7d\x7d"

/-- Where the queue has room for one message, the second one waits until the program stops. -/
theorem exists_refused : ∃ s m, Reachable 1 "feed" s ∧ s.reader = .refused heldFrame m := by
  have hsome : (Arrival.frame heldFrame {}).message?.isSome = true := by decide +kernel
  obtain ⟨m, hm⟩ := Option.isSome_iff_exists.1 hsome
  have h : Reachable 1 "feed" _ := .single (.connected 1 1 rfl)
  have h := ((h.tail (.message rfl hm)).tail (.accepted rfl rfl rfl)).tail (.message rfl hm)
  have h := ((h.tail (.full rfl rfl rfl)).tail .stop).tail (.cancel rfl rfl rfl)
  exact ⟨_, m, h.tail (.gaveUp rfl rfl rfl), rfl⟩

/-- The dispatch of a message for which there is no room fails, and the connection ends with the program. -/
theorem failed_iff_unreadable_full :
    ∃ s m t, Reachable 1 "feed" s ∧ s.reader = .refused heldFrame m ∧ Steps 1 s t ∧ t.reader = .done .shutdown := by
  obtain ⟨s, m, h, hr⟩ := exists_refused
  obtain ⟨-, hrefused, t, ending, hsteps, hdone⟩ := failed_iff_unreadable h
  obtain rfl := (hrefused heldFrame m hr).2 t ending hsteps hdone
  exact ⟨s, m, t, h, hr, hsteps, hdone⟩

end Connection

end Ingestion

end ChatModeration
