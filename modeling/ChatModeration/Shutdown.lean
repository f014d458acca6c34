/-!
# Shutdown

A shutdown asks the components to stop, one after the other, and waits for each of them for a limited time.  What
happens is a list of steps (`Shutdown.steps`), and each of them changes what the shutdown keeps of itself: the phase,
the components that have stopped or failed, and whether it goes on without one of them (`ShutdownProgress.advance`).  A
component that consists of tasks waits for them in order and fails with the first one that does not end normally
(`awaitTasks`).
-/

namespace ChatModeration

/-- How far a shutdown is. -/
inductive ShutdownPhase where
  | running
  /-- The components are stopping. -/
  | draining
  /-- A component has missed its deadline. -/
  | terminating
  | stopped
deriving DecidableEq, Repr

/-- The name of a phase. -/
def ShutdownPhase.name : ShutdownPhase → String
  | running => "Running"
  | draining => "Draining"
  | terminating => "Terminating"
  | stopped => "Stopped"

/-- The place of a phase in their order. -/
def ShutdownPhase.rank : ShutdownPhase → Nat
  | running => 0
  | draining => 1
  | terminating => 2
  | stopped => 3

/-- How a component ends when it is asked to stop. -/
inductive ComponentEnd where
  | stopped
  | failed (reason : String)
  /-- It does not stop in time. -/
  | timedOut
deriving DecidableEq, Repr

/-- The reason why a component does not count as stopped. -/
def ComponentEnd.reason? : ComponentEnd → Option String
  | stopped => none
  | failed reason => some reason
  | timedOut => some "timed out"

/-- A part of the program that is asked to stop. -/
structure Component where
  name : String
  ending : ComponentEnd
deriving DecidableEq, Repr

/-- A step of a shutdown. -/
inductive ShutdownStep where
  /-- A phase begins and is announced. -/
  | enter (phase : ShutdownPhase)
  /-- A component is asked to stop. -/
  | ask (name : String)
  /-- A component has stopped. -/
  | stopped (name : String)
  /-- A component has not stopped. -/
  | failed (name reason : String)
  /-- It is noted that a component is not waited for any longer. -/
  | force
deriving DecidableEq, Repr

/-- What a shutdown keeps of itself. -/
structure ShutdownProgress where
  phase : ShutdownPhase := .running
  stopped : List String := []
  /-- The components that have not stopped, with the reasons. -/
  failed : List (String × String) := []
  /-- Whether the program ends without waiting for a component. -/
  isForced : Bool := false
deriving DecidableEq, Repr

/-- What is kept after one more step. -/
def ShutdownProgress.advance (p : ShutdownProgress) : ShutdownStep → ShutdownProgress
  | .enter phase => { p with phase }
  | .ask _ => p
  | .stopped name => { p with stopped := p.stopped ++ [name] }
  | .failed name reason => { p with failed := p.failed ++ [(name, reason)] }
  | .force => { p with isForced := true }

namespace Shutdown

/-- The steps for one component. -/
def componentSteps (c : Component) : List ShutdownStep :=
  .ask c.name ::
    match c.ending with
    | .stopped => [.stopped c.name]
    | .failed reason => [.failed c.name reason]
    | .timedOut => [.enter .terminating, .force, .failed c.name "timed out"]

/-- The steps of a shutdown. -/
def steps (components : List Component) : List ShutdownStep :=
  .enter .draining :: components.flatMap componentSteps ++ [.enter .stopped]

/-- What is kept of a shutdown after some steps. -/
def progress (steps : List ShutdownStep) : ShutdownProgress := steps.foldl ShutdownProgress.advance {}

/-- The phases that are announced. -/
def phases (steps : List ShutdownStep) : List ShutdownPhase :=
  steps.filterMap fun
    | .enter phase => some phase
    | _ => none

/-- The components that are asked to stop. -/
def asked (steps : List ShutdownStep) : List String :=
  steps.filterMap fun
    | .ask name => some name
    | _ => none

/-- The components that have stopped. -/
def stopped (steps : List ShutdownStep) : List String := (progress steps).stopped

/-- The components that have not stopped, with the reasons. -/
def failed (steps : List ShutdownStep) : List (String × String) := (progress steps).failed

/-- The phase after some steps. -/
def phase (steps : List ShutdownStep) : ShutdownPhase := (progress steps).phase

/-- Whether the program ends without waiting for a component. -/
def isForced (steps : List ShutdownStep) : Bool := (progress steps).isForced

end Shutdown

/-! ### Components of tasks -/

/-- How a task ends. -/
inductive TaskEnd where
  | normal
  | aborted (reason : String)
deriving DecidableEq, Repr

/-- Waits for tasks in order.  Returns how many of them have been waited for and how their component ends. -/
def awaitTasks : List TaskEnd → Nat × ComponentEnd
  | [] => (0, .stopped)
  | .normal :: tasks =>
    let (n, ending) := awaitTasks tasks
    (n + 1, ending)
  | .aborted reason :: _ => (1, .failed reason)

/-- A component of tasks, with those that nobody has begun to wait for. -/
structure TaskComponent where
  name : String
  tasks : List TaskEnd
deriving DecidableEq, Repr

/-- Waits for the tasks of a component.  All of them are taken out of the component before the first one is waited for.
Returns how many have been waited for and how the component ends. -/
def TaskComponent.shutdown (c : TaskComponent) : TaskComponent × Nat × ComponentEnd :=
  ({ c with tasks := [] }, awaitTasks c.tasks)

/-- A component of tasks, by how it ends. -/
def Component.ofTasks (name : String) (tasks : List TaskEnd) : Component :=
  ⟨name, (TaskComponent.mk name tasks).shutdown.2.2⟩

end ChatModeration
