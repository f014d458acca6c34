import ChatModeration.Proofs.Ingestion.Generations
import ChatModeration.Proofs.Workers.Shutdown
import Mathlib.Data.List.Nodup

/-!
# Connections and their workers

Each connection that is made has workers of its own, which go on at their own pace while ingestion does what it does
(`Staffed`).  Once ingestion has waited for the workers of a connection they are gone, but if a worker could not be
started, those before it are left behind (`Staffed.settled`).
-/

namespace ChatModeration.Ingestion

/-! ### Workers while ingestion is at work -/

/-- Whether an effect starts workers or waits for them. -/
def Effect.isStaffing : Effect → Bool
  | startWorkers _ | startFails .. | joinWorkers _ => true
  | _ => false

/-- The connection for which an effect starts workers. -/
def Effect.staffed? : Effect → Option Nat
  | startWorkers generation | startFails generation _ => some generation
  | _ => none

/-- The pools that there may be after some effects, in the order in which they have been started. -/
inductive Staffed : List Effect → List (WorkerPool ChatMessage) → Prop where
  | none : Staffed [] []
  | move {effects : List Effect} {before after : List (WorkerPool ChatMessage)} {p q : WorkerPool ChatMessage}
      {move : Move ChatMessage} {events : List (Event ChatMessage)} (h : Staffed effects (before ++ p :: after))
      (hstep : p.step move = some (q, events)) : Staffed effects (before ++ q :: after)
  | start {effects : List Effect} {pools : List (WorkerPool ChatMessage)} {p : WorkerPool ChatMessage}
      {fails : Nat → Bool} {generation size capacity : Nat} (h : Staffed effects pools)
      (hlaunch : WorkerPool.launch fails generation size capacity = .ok p) :
      Staffed (effects ++ [.startWorkers generation]) (pools ++ [p])
  /-- If the start of a worker fails, those before it are there nevertheless. -/
  | startFails {effects : List Effect} {pools : List (WorkerPool ChatMessage)} {p : WorkerPool ChatMessage}
      {fails : Nat → Bool} {generation size capacity : Nat} (h : Staffed effects pools)
      (hlaunch : WorkerPool.launch fails generation size capacity = .error p) :
      Staffed (effects ++ [.startFails generation p.workers.length]) (pools ++ [p])
  /-- The workers of a connection have finished when the shutdown of their pool returns. -/
  | join {effects : List Effect} {before after : List (WorkerPool ChatMessage)} {p q : WorkerPool ChatMessage}
      {moves : List (Move ChatMessage)} {discarded : Nat} (h : Staffed effects (before ++ p :: after))
      (hshutdown : p.shutdown moves = some (q, discarded)) :
      Staffed (effects ++ [.joinWorkers p.generation]) (before ++ q :: after)
  | other {effects : List Effect} {pools : List (WorkerPool ChatMessage)} {e : Effect} (h : Staffed effects pools)
      (he : e.isStaffing = false) : Staffed (effects ++ [e]) pools

section Pools

variable {effects : List Effect} {pools : List (WorkerPool ChatMessage)} {p q : WorkerPool ChatMessage}

theorem Staffed.map_generation (h : Staffed effects pools) :
    pools.map (·.generation) = effects.filterMap Effect.staffed? := by
  induction h with
  | none => rfl
  | @move effects before after p q move events h hstep ih =>
    rw [← ih, List.map_append, List.map_append, List.map_cons, List.map_cons,
      (WorkerPool.turn_of_step hstep).flow.generation]
  | @start effects pools p fails generation size capacity h hlaunch ih =>
    rw [List.map_append, List.filterMap_append, ih, WorkerPool.eq_start_of_launch hlaunch]
    rfl
  | @startFails effects pools p fails generation size capacity h hlaunch ih =>
    obtain ⟨w, rfl⟩ := WorkerPool.eq_crew_of_launch hlaunch
    rw [List.map_append, List.filterMap_append, ih]
    rfl
  | @join effects before after p q moves discarded h hshutdown ih =>
    obtain ⟨used, rest, events, -, hrun, -⟩ := WorkerPool.of_shutdown hshutdown
    have hgeneration : q.generation = p.generation := (WorkerPool.run_flow hrun).generation
    rw [List.filterMap_append, ← ih, List.map_append, List.map_append, List.map_cons, List.map_cons, hgeneration]
    exact (List.append_nil _).symm
  | @other effects pools e h he ih =>
    have hstaffed : e.staffed? = Option.none := by
      cases e with
      | startWorkers | startFails => cases he
      | _ => rfl
    rw [List.filterMap_append, ih, List.filterMap_cons, hstaffed]
    exact (List.append_nil _).symm

/-! ### What the effects say about a pool -/

/-- The workers of a pool have been started, and if they have finished since then it is over. -/
def Recorded (effects : List Effect) (p : WorkerPool ChatMessage) : Prop :=
  ∃ before after, effects = before ++ .startWorkers p.generation :: after ∧
    (.joinWorkers p.generation ∈ after → p.IsOver)

/-- The start of a worker has failed, and a pool consists of those before it, which never have a message. -/
def LeftBehind (effects : List Effect) (p : WorkerPool ChatMessage) : Prop :=
  .startFails p.generation p.workers.length ∈ effects ∧ p.IsAbandoned

theorem Recorded.append (h : Recorded effects p) {e : Effect} (he : e = .joinWorkers p.generation → p.IsOver) :
    Recorded (effects ++ [e]) p := by
  obtain ⟨before, after, rfl, hover⟩ := h
  refine ⟨before, after ++ [e], by simp, fun hm => ?_⟩
  rcases List.mem_append.1 hm with hm | hm
  · exact hover hm
  · exact he (List.mem_singleton.1 hm).symm

theorem Recorded.step (h : Recorded effects p) {move : Move ChatMessage} {events : List (Event ChatMessage)}
    (hstep : p.step move = some (q, events)) : Recorded effects q := by
  obtain ⟨before, after, heffects, hover⟩ := h
  have hgeneration : q.generation = p.generation := (WorkerPool.turn_of_step hstep).flow.generation
  rw [← hgeneration] at heffects hover
  exact ⟨before, after, heffects, fun hm => (hover hm).step hstep⟩

theorem LeftBehind.append (h : LeftBehind effects p) (others : List Effect) : LeftBehind (effects ++ others) p :=
  ⟨List.mem_append_left others h.1, h.2⟩

theorem LeftBehind.step (h : LeftBehind effects p) {move : Move ChatMessage} {events : List (Event ChatMessage)}
    (hstep : p.step move = some (q, events)) : LeftBehind effects q := by
  refine ⟨?_, h.2.step hstep⟩
  rw [(WorkerPool.turn_of_step hstep).flow.generation, WorkerPool.length_workers_of_step hstep]
  exact h.1

/-- Whether the effects say what has become of a pool. -/
def Known (effects : List Effect) (p : WorkerPool ChatMessage) : Prop := Recorded effects p ∨ LeftBehind effects p

theorem Known.append (h : Known effects p) {e : Effect} (he : e = .joinWorkers p.generation → p.IsOver) :
    Known (effects ++ [e]) p :=
  h.imp (·.append he) (·.append [e])

theorem Known.step (h : Known effects p) {move : Move ChatMessage} {events : List (Event ChatMessage)}
    (hstep : p.step move = some (q, events)) : Known effects q :=
  h.imp (·.step hstep) (·.step hstep)

theorem nodup_of_append {others : List Effect} (h : ((effects ++ others).filterMap Effect.staffed?).Nodup) :
    (effects.filterMap Effect.staffed?).Nodup :=
  h.sublist ((List.sublist_append_left effects others).filterMap Effect.staffed?)

/-- Where each connection starts its workers once, no two pools have one number. -/
theorem Staffed.generation_ne {before after : List (WorkerPool ChatMessage)} (h : Staffed effects (before ++ p :: after))
    (hnodup : (effects.filterMap Effect.staffed?).Nodup) : ∀ r ∈ before ++ after, r.generation ≠ p.generation := by
  rw [← h.map_generation, List.map_append, List.map_cons, List.nodup_middle, ← List.map_append] at hnodup
  intro r hr heq
  exact (List.nodup_cons.1 hnodup).1 (heq ▸ List.mem_map_of_mem hr)

/-- What a wait for the workers of one connection says about all pools: no other pool has its number, so ingestion has
waited for this pool alone. -/
theorem Staffed.known_join {before after : List (WorkerPool ChatMessage)} {moves : List (Move ChatMessage)}
    {discarded : Nat} (h : Staffed effects (before ++ p :: after))
    (hnodup : (effects.filterMap Effect.staffed?).Nodup) (hshutdown : p.shutdown moves = some (q, discarded))
    (hknown : ∀ r ∈ before ++ p :: after, Known effects r) :
    ∀ r ∈ before ++ q :: after, Known (effects ++ [.joinWorkers p.generation]) r := by
  obtain ⟨used, rest, events, -, hrun, hover, -⟩ := WorkerPool.of_shutdown hshutdown
  obtain ⟨hbefore, hp, hafter⟩ := by simpa only [List.forall_mem_append, List.forall_mem_cons] using hknown
  have hq : Known effects q := WorkerPool.run_induction (fun hstep hr => hr.step hstep) hrun hp
  have hothers : ∀ r ∈ before ++ after, Known effects r → Known (effects ++ [.joinWorkers p.generation]) r :=
    fun r hr hr' => hr'.append fun he => absurd (Effect.joinWorkers.inj he).symm (h.generation_ne hnodup r hr)
  simp only [List.forall_mem_append, List.forall_mem_cons] at hothers ⊢
  exact ⟨fun r hr => hothers.1 r hr (hbefore r hr), hq.append fun _ => hover,
    fun r hr => hothers.2 r hr (hafter r hr)⟩

/-- Where each connection starts its workers once, the effects say what has become of all pools. -/
theorem Staffed.known (h : Staffed effects pools) (hnodup : (effects.filterMap Effect.staffed?).Nodup) :
    ∀ p ∈ pools, Known effects p := by
  induction h with
  | none => nofun
  | @move effects before after p q move events h hstep ih =>
    obtain ⟨hbefore, hp, hafter⟩ := by simpa only [List.forall_mem_append, List.forall_mem_cons] using ih hnodup
    simp only [List.forall_mem_append, List.forall_mem_cons]
    exact ⟨hbefore, hp.step hstep, hafter⟩
  | @start effects pools p fails generation size capacity h hlaunch ih =>
    refine List.forall_mem_append.2 ⟨fun r hr => (ih (nodup_of_append hnodup) r hr).append nofun, ?_⟩
    rw [List.forall_mem_singleton, WorkerPool.eq_start_of_launch hlaunch]
    exact .inl ⟨effects, [], rfl, nofun⟩
  | @startFails effects pools p fails generation size capacity h hlaunch ih =>
    refine List.forall_mem_append.2 ⟨fun r hr => (ih (nodup_of_append hnodup) r hr).append nofun, ?_⟩
    obtain ⟨w, rfl⟩ := WorkerPool.eq_crew_of_launch hlaunch
    rw [List.forall_mem_singleton]
    exact .inr ⟨List.mem_append_right effects (List.mem_singleton_self _), WorkerPool.isAbandoned_crew ..⟩
  | join h hshutdown ih =>
    have heffects := nodup_of_append hnodup
    exact h.known_join heffects hshutdown (ih heffects)
  | @other effects pools e h he ih =>
    refine fun r hr => (ih (nodup_of_append hnodup) r hr).append ?_
    rintro rfl
    cases he

/-- Whether the start of the workers of a connection is followed by their end. -/
def Relieved (effects : List Effect) : Prop :=
  ∀ before generation after, effects = before ++ .startWorkers generation :: after → .joinWorkers generation ∈ after

/-- Where ingestion has waited for all workers it has started, all pools are over but those left behind. -/
theorem Staffed.settled (h : Staffed effects pools) (hnodup : (effects.filterMap Effect.staffed?).Nodup)
    (hr : Relieved effects) : ∀ p ∈ pools, p.IsOver ∨ LeftBehind effects p := by
  intro p hp
  rcases h.known hnodup p hp with ⟨before, after, heffects, hover⟩ | hleft
  · exact .inl (hover (hr before _ after heffects))
  · exact .inr hleft

end Pools

/-! ### Effects that can go on -/

theorem Staffed.others {effects others : List Effect} {pools : List (WorkerPool ChatMessage)}
    (h : Staffed effects pools) (hothers : ∀ e ∈ others, e.isStaffing = false) : Staffed (effects ++ others) pools := by
  induction others generalizing effects with
  | nil => simpa using h
  | cons e others ih =>
    obtain ⟨he, hothers⟩ := List.forall_mem_cons.1 hothers
    rw [List.append_cons]
    exact ih (h.other he) hothers

theorem isStaffing_of_filter_isMilestone {effects : List Effect} (h : effects.filter Effect.isMilestone = []) :
    ∀ e ∈ effects, e.isStaffing = false := by
  intro e he
  have hmilestone : e.isMilestone ≠ true := List.filter_eq_nil_iff.1 h e he
  cases e with
  | startWorkers | startFails | joinWorkers => exact absurd rfl hmilestone
  | _ => rfl

theorem isStaffing_closing (a : Attempt) : ∀ e ∈ a.closing, e.isStaffing = false := by
  rw [Attempt.closing]
  split <;> simp [Effect.isStaffing]

theorem isStaffing_announced (ending : ConnectionEnd) : ∀ e ∈ ending.announced, e.isStaffing = false := by
  cases ending <;> simp [ConnectionEnd.announced, Effect.isStaffing]

/-- Whatever pools there are, there are some after another attempt: its workers can be started, and can finish. -/
theorem Staffed.exists_generation {effects : List Effect} {pools : List (WorkerPool ChatMessage)}
    (h : Staffed effects pools) (g : Generation) : ∃ others, Staffed (effects ++ g.effects) others := by
  have hstart : Staffed (effects ++ [.announce .connecting, .connect g.url]) pools :=
    h.others (by simp [Effect.isStaffing])
  have hannounced := isStaffing_announced g.attempt.outcome.2
  rw [Generation.effects, ← List.append_assoc]
  suffices hattempt : ∃ others, Staffed (effects ++ (attempt g.number g.url g.attempt).1) others by
    obtain ⟨others, hothers⟩ := hattempt
    exact ⟨others, hothers.others hannounced⟩
  rw [Ingestion.attempt]
  cases g.attempt.connecting with
  | failed | interrupted => exact ⟨pools, hstart⟩
  | unstaffed started =>
    have hleft := hstart.startFails (WorkerPool.launch_fails g.number started 1)
    have hlength : (WorkerPool.crew g.number 1 started : WorkerPool ChatMessage).workers.length = started :=
      List.length_replicate
    have hclosed := hleft.others (isStaffing_closing g.attempt)
    rw [hlength] at hclosed
    exact ⟨_, by simpa only [List.append_assoc, List.singleton_append] using hclosed⟩
  | established =>
    have hlaunch := WorkerPool.launch_of_not_fails (α := ChatMessage) (fun w => rfl) g.number 1 1
    have hstream := isStaffing_of_filter_isMilestone (filter_isMilestone_stream g.attempt.arrivals)
    have hclosed := ((hstart.start hlaunch).others hstream).others (isStaffing_closing g.attempt)
    obtain ⟨q, discarded, hshutdown⟩ :=
      WorkerPool.exists_shutdown (p := WorkerPool.start (α := ChatMessage) g.number 1 1) rfl
    have hjoined : Staffed (_ ++ [.joinWorkers g.number]) (pools ++ [q]) := hclosed.join hshutdown
    exact ⟨_, by simpa only [List.append_assoc, List.cons_append, List.nil_append] using hjoined⟩

/-- There are pools for all that is done in some attempts. -/
theorem exists_staffed (gs : List Generation) : ∃ pools, Staffed (gs.flatMap Generation.effects) pools := by
  induction gs using List.reverseRecOn with
  | nil => exact ⟨[], .none⟩
  | append_singleton gs g ih =>
    obtain ⟨pools, hpools⟩ := ih
    rw [List.flatMap_append, List.flatMap_singleton]
    exact hpools.exists_generation g

end ChatModeration.Ingestion
