import ChatModeration.Shutdown
import Mathlib.Data.List.Basic
import Mathlib.Data.List.Induction

/-!
# What comes of a shutdown

A shutdown deals with its components in turn.  When it asks one of them to stop, it has dealt with all those before it
and with no other, however they ended (`accounts_begun`); in the end every component has been asked once and is found
among those that have stopped or among those that have failed, and the phases have only gone forward
(`concluded_steps`).  The phase that the shutdown keeps is always the one announced last (`phase_eq_getLast`), and it
has noted that it does not wait for a component just if it has announced that (`isForced_steps_iff_mem`).

A component of tasks waits for its tasks in order, up to the first one that does not end normally.  The tasks behind it
are lost: they have been taken out of the component, and nobody waits for them any more (`waits_of_shutdown`).
-/

namespace ChatModeration

namespace Shutdown

/-- The components that stop, by their names. -/
def stopping (components : List Component) : List String :=
  (components.filter (·.ending = .stopped)).map (·.name)

/-- The components that do not stop, by their names and with the reasons. -/
def failing (components : List Component) : List (String × String) :=
  components.filterMap fun c => c.ending.reason?.map (c.name, ·)

/-- How many components miss their deadlines. -/
def late (components : List Component) : Nat := components.countP (·.ending = .timedOut)

/-- A component stops or has a reason why it does not. -/
theorem stopping_append_failing_perm (components : List Component) :
    (stopping components ++ (failing components).map (·.1)).Perm (components.map (·.name)) := by
  have hothers : (failing components).map (·.1) =
      (components.filter fun c => !decide (c.ending = .stopped)).map (·.name) := by
    rw [failing, List.map_filterMap, ← List.filterMap_eq_map', List.filterMap_filter]
    refine List.filterMap_congr fun c _ => ?_
    cases hc : c.ending <;> simp [ComponentEnd.reason?]
  rw [hothers, stopping, ← List.map_append]
  exact (List.filter_append_perm _ components).map _

/-! ### What the steps tell -/

theorem asked_append (s t : List ShutdownStep) : asked (s ++ t) = asked s ++ asked t := List.filterMap_append

theorem phases_append (s t : List ShutdownStep) : phases (s ++ t) = phases s ++ phases t := List.filterMap_append

theorem progress_append (s t : List ShutdownStep) :
    progress (s ++ t) = t.foldl ShutdownProgress.advance (progress s) := List.foldl_append

/-- The phase that is kept is the one that has been announced last. -/
theorem phase_eq_getLast (steps : List ShutdownStep) : phase steps = (phases steps).getLast?.getD .running := by
  induction steps using List.reverseRecOn with
  | nil => rfl
  | append_singleton steps step ih =>
    rw [phase, progress_append, phases_append]
    cases step with
    | enter phase => exact (congrArg (Option.getD · ShutdownPhase.running) List.getLast?_concat).symm
    | ask | stopped | failed | force =>
      change phase steps = (phases steps ++ []).getLast?.getD .running
      rw [List.append_nil, ih]

theorem asked_componentSteps (c : Component) : asked (componentSteps c) = [c.name] := by
  obtain ⟨name, ending⟩ := c
  cases ending <;> rfl

/-- The steps for one component add it to those that have stopped or to those that have failed, and only if it is late
is the phase another one and the shutdown forced. -/
theorem advance_componentSteps (p : ShutdownProgress) (c : Component) :
    (componentSteps c).foldl ShutdownProgress.advance p =
      { phase := if c.ending = .timedOut then .terminating else p.phase
        stopped := p.stopped ++ stopping [c]
        failed := p.failed ++ failing [c]
        isForced := p.isForced || c.ending = .timedOut } := by
  obtain ⟨name, ending⟩ := c
  cases ending <;>
    simp [componentSteps, ShutdownProgress.advance, stopping, failing, ComponentEnd.reason?]

theorem phases_componentSteps (c : Component) :
    phases (componentSteps c) = List.replicate (late [c]) .terminating := by
  obtain ⟨name, ending⟩ := c
  cases ending <;> rfl

/-! ### Components in turn -/

/-- The steps of a shutdown that has dealt with some components and goes on. -/
def begun (components : List Component) : List ShutdownStep := .enter .draining :: components.flatMap componentSteps

theorem begun_append (before after : List Component) :
    begun (before ++ after) = begun before ++ after.flatMap componentSteps := by
  rw [begun, List.flatMap_append]
  rfl

theorem steps_eq (components : List Component) : steps components = begun components ++ [.enter .stopped] := rfl

/-- What is known of a shutdown that has dealt with some components. -/
structure Accounts (components : List Component) (steps : List ShutdownStep) : Prop where
  asked : asked steps = components.map (·.name)
  stopped : stopped steps = stopping components
  failed : failed steps = failing components
  forced : isForced steps = true ↔ ∃ c ∈ components, c.ending = .timedOut
  phases : phases steps = .draining :: List.replicate (late components) .terminating

/-- One more component is asked and found to have stopped or failed. -/
theorem Accounts.deal {components : List Component} {steps : List ShutdownStep} (h : Accounts components steps)
    (c : Component) : Accounts (components ++ [c]) (steps ++ componentSteps c) where
  asked := by rw [asked_append, h.asked, asked_componentSteps, List.map_append, List.map_singleton]
  stopped := by
    have hstopped : (progress steps).stopped = stopping components := h.stopped
    rw [Shutdown.stopped, progress_append, advance_componentSteps, hstopped, stopping, stopping, stopping,
      List.filter_append, List.map_append]
  failed := by
    have hfailed : (progress steps).failed = failing components := h.failed
    rw [Shutdown.failed, progress_append, advance_componentSteps, hfailed, failing, failing, failing,
      List.filterMap_append]
  forced := by
    have hforced : (progress steps).isForced = true ↔ ∃ c ∈ components, c.ending = .timedOut := h.forced
    rw [isForced, progress_append, advance_componentSteps, Bool.or_eq_true, hforced, decide_eq_true_eq]
    simp only [List.mem_append, List.mem_singleton, or_and_right, exists_or, exists_eq_left]
  phases := by
    rw [phases_append, h.phases, phases_componentSteps, late, late, late, List.countP_append,
      ← List.replicate_append_replicate, List.cons_append]

/-- Whatever becomes of the components, a shutdown that has dealt with them knows about each of them. -/
theorem accounts_begun (components : List Component) : Accounts components (begun components) := by
  induction components using List.reverseRecOn with
  | nil => exact ⟨rfl, rfl, rfl, by simp [isForced, progress, begun, ShutdownProgress.advance], rfl⟩
  | append_singleton components c ih =>
    rw [begun_append, List.flatMap_singleton]
    exact ih.deal c

/-! ### Phases -/

/-- The last of some phases in ascending order is no earlier than the last of those at the start of them. -/
theorem rank_getLast_le {before all : List ShutdownPhase} (h : before <+: all)
    (hall : all.Pairwise (·.rank ≤ ·.rank)) :
    (before.getLast?.getD .running).rank ≤ (all.getLast?.getD .running).rank := by
  obtain ⟨after, rfl⟩ := h
  rcases List.eq_nil_or_concat after with rfl | ⟨after, last, rfl⟩
  · simp
  · rw [List.concat_eq_append, ← List.append_assoc, List.getLast?_concat]
    cases hlast : before.getLast? with
    | none => exact Nat.zero_le _
    | some p =>
      have hp : p ∈ before := List.mem_of_getLast? hlast
      exact (List.pairwise_append.1 hall).2.2 p hp last (by simp)

theorem phases_steps (components : List Component) :
    phases (steps components) = .draining :: List.replicate (late components) .terminating ++ [.stopped] := by
  rw [steps_eq, phases_append, (accounts_begun components).phases]
  rfl

theorem pairwise_phases_steps (components : List Component) :
    (phases (steps components)).Pairwise (·.rank ≤ ·.rank) := by
  have hlast : ∀ p : ShutdownPhase, p.rank ≤ ShutdownPhase.stopped.rank := by
    intro p
    cases p <;> decide
  have hfirst : ∀ p ∈ List.replicate (late components) ShutdownPhase.terminating ++ [.stopped],
      ShutdownPhase.draining.rank ≤ p.rank := by
    intro p hp
    rw [List.mem_append, List.mem_replicate, List.mem_singleton] at hp
    rcases hp with ⟨-, rfl⟩ | rfl <;> decide
  rw [phases_steps, List.cons_append, List.pairwise_cons, List.pairwise_append]
  refine ⟨hfirst, ?_, List.pairwise_singleton _ _, ?_⟩
  · exact List.pairwise_replicate.2 (.inr (Nat.le_refl _))
  · intro p _ q hq
    rw [List.mem_singleton.1 hq]
    exact hlast p

/-- The phase at one moment is not earlier than the phases at the moments before. -/
theorem rank_phase_take_le (components : List Component) {i j : Nat} (h : i ≤ j) :
    (phase ((steps components).take i)).rank ≤ (phase ((steps components).take j)).rank := by
  have hpart : phases ((steps components).take i) <+: phases ((steps components).take j) :=
    (List.take_prefix_take_left h).filterMap _
  have hwhole : phases ((steps components).take j) <+: phases (steps components) :=
    (List.take_prefix j _).filterMap _
  rw [phase_eq_getLast, phase_eq_getLast]
  exact rank_getLast_le hpart ((pairwise_phases_steps components).sublist hwhole.sublist)

/-! ### The whole shutdown -/

/-- The last phase changes nothing that is known of the components. -/
theorem progress_steps (components : List Component) :
    progress (steps components) = { progress (begun components) with phase := .stopped } := by
  rw [steps_eq, progress_append]
  rfl

theorem isForced_steps (components : List Component) :
    isForced (steps components) = true ↔ ∃ c ∈ components, c.ending = .timedOut := by
  rw [isForced, progress_steps]
  exact (accounts_begun components).forced

/-- A shutdown has noted that it does not wait for a component just if it has announced that. -/
theorem isForced_steps_iff_mem (components : List Component) :
    isForced (steps components) = true ↔ .terminating ∈ phases (steps components) := by
  have hlate : late components ≠ 0 ↔ ∃ c ∈ components, c.ending = .timedOut := by
    rw [late, ← Nat.pos_iff_ne_zero, List.countP_pos_iff]
    simp only [decide_eq_true_eq]
  rw [isForced_steps, ← hlate, phases_steps]
  simp [List.mem_replicate]

/-- What comes of a shutdown of some components. -/
structure Concluded (components : List Component) (steps : List ShutdownStep) : Prop where
  /-- Each component is asked once, in order. -/
  asked : asked steps = components.map (·.name)
  /-- When a component is asked, those before it have been dealt with, and no other. -/
  inTurn : ∀ before c after, components = before ++ c :: after →
    ∃ earlier later, steps = earlier ++ .ask c.name :: later ∧ Accounts before earlier
  stopped : stopped steps = stopping components
  failed : failed steps = failing components
  /-- Each component has stopped or failed. -/
  partition : (Shutdown.stopped steps ++ (Shutdown.failed steps).map (·.1)).Perm (components.map (·.name))
  forced : isForced steps = true ↔ ∃ c ∈ components, c.ending = .timedOut
  phases : phases steps = .draining :: List.replicate (late components) .terminating ++ [.stopped]
  /-- The phase never goes back. -/
  forward : ∀ i j, i ≤ j → (phase (steps.take i)).rank ≤ (phase (steps.take j)).rank

/-- A shutdown asks every component once and in order, however those before it have ended, and accounts for all of
them. -/
theorem concluded_steps (components : List Component) : Concluded components (steps components) := by
  have haccounts := accounts_begun components
  have hstopped : stopped (steps components) = stopping components := by
    rw [stopped, progress_steps]
    exact haccounts.stopped
  have hfailed : failed (steps components) = failing components := by
    rw [failed, progress_steps]
    exact haccounts.failed
  refine ⟨?_, ?_, hstopped, hfailed, ?_, isForced_steps components, phases_steps components, ?_⟩
  · rw [steps_eq, asked_append, haccounts.asked]
    exact List.append_nil _
  · rintro before c after rfl
    refine ⟨begun before, (componentSteps c).tail ++ after.flatMap componentSteps ++ [.enter .stopped], ?_,
      accounts_begun before⟩
    rw [steps_eq, begun_append, List.append_assoc]
    rfl
  · rw [hstopped, hfailed]
    exact stopping_append_failing_perm components
  · intro i j h
    exact rank_phase_take_le components h

end Shutdown

/-! ### Tasks -/

/-- Either all tasks end normally, or there is a first one that does not. -/
theorem TaskEnd.all_normal_or (tasks : List TaskEnd) :
    (∀ t ∈ tasks, t = normal) ∨
      ∃ before reason after, tasks = before ++ aborted reason :: after ∧ ∀ t ∈ before, t = normal := by
  induction tasks with
  | nil => exact .inl nofun
  | cons t tasks ih =>
    cases t with
    | aborted reason => exact .inr ⟨[], reason, tasks, rfl, nofun⟩
    | normal =>
      rcases ih with hall | ⟨before, reason, after, rfl, hbefore⟩
      · exact .inl (List.forall_mem_cons.2 ⟨rfl, hall⟩)
      · exact .inr ⟨normal :: before, reason, after, rfl, List.forall_mem_cons.2 ⟨rfl, hbefore⟩⟩

theorem awaitTasks_of_all_normal {tasks : List TaskEnd} (h : ∀ t ∈ tasks, t = .normal) :
    awaitTasks tasks = (tasks.length, .stopped) := by
  induction tasks with
  | nil => rfl
  | cons t tasks ih =>
    obtain ⟨rfl, htasks⟩ := List.forall_mem_cons.1 h
    rw [awaitTasks, ih htasks]
    rfl

/-- The wait ends with the first task that does not end normally. -/
theorem awaitTasks_append_aborted {before : List TaskEnd} (h : ∀ t ∈ before, t = .normal) (reason : String)
    (after : List TaskEnd) :
    awaitTasks (before ++ .aborted reason :: after) = (before.length + 1, .failed reason) := by
  induction before with
  | nil => rfl
  | cons t before ih =>
    obtain ⟨rfl, hbefore⟩ := List.forall_mem_cons.1 h
    rw [List.cons_append, awaitTasks, ih hbefore]
    rfl

namespace TaskComponent

/-- The tasks that are waited for, each to its end. -/
def awaited (c : TaskComponent) : List TaskEnd := c.tasks.take c.shutdown.2.1

/-- The tasks that are taken out of the component and not waited for. -/
def lost (c : TaskComponent) : List TaskEnd := c.tasks.drop c.shutdown.2.1

theorem shutdown_of_all_normal {c : TaskComponent} (h : ∀ t ∈ c.tasks, t = .normal) :
    c.shutdown.2.2 = .stopped ∧ c.lost = [] := by
  have hwait : c.shutdown.2 = (c.tasks.length, .stopped) := awaitTasks_of_all_normal h
  rw [lost, hwait]
  exact ⟨rfl, List.drop_length⟩

/-- The wait ends with the first task that does not end normally, and the tasks behind it are lost. -/
theorem shutdown_of_aborted {c : TaskComponent} {before after : List TaskEnd} {reason : String}
    (htasks : c.tasks = before ++ .aborted reason :: after) (h : ∀ t ∈ before, t = .normal) :
    c.shutdown.2.2 = .failed reason ∧ c.awaited = before ++ [.aborted reason] ∧ c.lost = after := by
  have hwait : c.shutdown.2 = (before.length + 1, .failed reason) := by
    rw [shutdown, htasks]
    exact awaitTasks_append_aborted h reason after
  rw [awaited, lost, hwait, htasks]
  exact ⟨rfl, List.take_length_add_append 1, List.drop_length_add_append 1⟩

/-- Whether all tasks end normally can be read off how the component ends. -/
theorem shutdown_eq_stopped_iff (c : TaskComponent) : c.shutdown.2.2 = .stopped ↔ ∀ t ∈ c.tasks, t = .normal := by
  rcases TaskEnd.all_normal_or c.tasks with hall | ⟨before, reason, after, htasks, hbefore⟩
  · exact iff_of_true (shutdown_of_all_normal hall).1 hall
  · refine iff_of_false ?_ fun hall => ?_
    · rw [(shutdown_of_aborted htasks hbefore).1]
      nofun
    · have haborted := hall (.aborted reason) (by simp [htasks])
      contradiction

theorem shutdown_eq_failed_iff (c : TaskComponent) (reason : String) :
    c.shutdown.2.2 = .failed reason ↔
      ∃ before after, c.tasks = before ++ .aborted reason :: after ∧ ∀ t ∈ before, t = .normal := by
  constructor
  · intro hfailed
    rcases TaskEnd.all_normal_or c.tasks with hall | ⟨before, first, after, htasks, hbefore⟩
    · rw [(shutdown_of_all_normal hall).1] at hfailed
      contradiction
    · rw [(shutdown_of_aborted htasks hbefore).1] at hfailed
      obtain rfl := ComponentEnd.failed.inj hfailed
      exact ⟨before, after, htasks, hbefore⟩
  · rintro ⟨before, after, htasks, hbefore⟩
    exact (shutdown_of_aborted htasks hbefore).1

/-- All tasks are waited for just if all but perhaps the last one end normally. -/
theorem lost_eq_nil_iff (c : TaskComponent) : c.lost = [] ↔ ∀ t ∈ c.tasks.dropLast, t = .normal := by
  rcases TaskEnd.all_normal_or c.tasks with hall | ⟨before, reason, after, htasks, hbefore⟩
  · refine iff_of_true (shutdown_of_all_normal hall).2 ?_
    intro t ht
    exact hall t (List.dropLast_subset _ ht)
  · rw [(shutdown_of_aborted htasks hbefore).2.2, htasks]
    cases after with
    | nil => simpa using hbefore
    | cons t after =>
      refine iff_of_false (List.cons_ne_nil _ _) fun hall => ?_
      have haborted := hall (.aborted reason) (by simp [List.dropLast_append_of_ne_nil])
      contradiction

/-- How the tasks of a component are waited for. -/
structure Waits (c : TaskComponent) : Prop where
  /-- The component stops if all tasks end normally. -/
  stopped_iff : c.shutdown.2.2 = .stopped ↔ ∀ t ∈ c.tasks, t = .normal
  /-- Otherwise it fails with the reason of the first one that does not. -/
  failed_iff : ∀ reason, c.shutdown.2.2 = .failed reason ↔
    ∃ before after, c.tasks = before ++ .aborted reason :: after ∧ ∀ t ∈ before, t = .normal
  /-- No task is lost just if all but perhaps the last one end normally. -/
  lost_iff : c.lost = [] ↔ ∀ t ∈ c.tasks.dropLast, t = .normal
  /-- The lost tasks are those behind the first one that does not end normally. -/
  lost_eq : ∀ before reason after, c.tasks = before ++ .aborted reason :: after → (∀ t ∈ before, t = .normal) →
    c.awaited = before ++ [.aborted reason] ∧ c.lost = after
  /-- Nobody waits for them later. -/
  forgotten : c.shutdown.1.shutdown = (c.shutdown.1, 0, .stopped)

/-- A component stops if all its tasks end normally, and fails otherwise; it waits for its tasks up to the first one
that does not end normally, and those behind that one are lost for good. -/
theorem waits_of_shutdown (c : TaskComponent) : Waits c where
  stopped_iff := c.shutdown_eq_stopped_iff
  failed_iff := c.shutdown_eq_failed_iff
  lost_iff := c.lost_eq_nil_iff
  lost_eq _ _ _ htasks hbefore := (shutdown_of_aborted htasks hbefore).2
  forgotten := rfl

/-- The first of two tasks panics, and nobody waits for the second one. -/
theorem lost_of_panic : ¬ ∀ c : TaskComponent, c.lost = [] := by
  intro h
  have hlost : (TaskComponent.mk "workers" [.aborted "task 7 panicked", .normal]).lost = [.normal] := rfl
  rw [h] at hlost
  contradiction

end TaskComponent

end ChatModeration
