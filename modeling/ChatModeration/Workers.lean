/-!
# Workers

The workers of one connection take messages from a bounded queue and handle them (`WorkerPool`).  What may happen is a
`Move`; `WorkerPool.step` says when it may happen and what it does, so that a list of moves is one order in which
dispatches, workers, cancellation and shutdown interleave.  Workers are started one after the other
(`WorkerPool.launch`), and a shutdown waits for them one after the other and then discards the messages left in the
queue (`WorkerPool.shutdown`).
-/

namespace ChatModeration

/-- What a worker is doing. -/
inductive Worker (α : Type) where
  /-- It is about to look whether it has to stop. -/
  | checking
  /-- It waits for a message. -/
  | waiting
  | busy (message : α)
  | gone
deriving DecidableEq, Repr

/-- Workers and the queue between them and the dispatches. -/
structure WorkerPool (α : Type) where
  generation : Nat
  capacity : Nat
  /-- The messages that no worker has taken, the oldest first. -/
  queue : List α
  workers : List (Worker α)
  /-- The messages of dispatches that found the queue full and wait for room. -/
  blocked : List α
  isCancelled : Bool
  /-- Whether the shutdown has begun, after which there are no dispatches. -/
  isClosed : Bool
deriving DecidableEq, Repr

/-- Something that may happen next.  Workers and blocked dispatches are numbered. -/
inductive Move (α : Type) where
  /-- A dispatch puts its message into the queue or finds the queue full. -/
  | dispatch (message : α)
  /-- A blocked dispatch finds room. -/
  | retry (dispatch : Nat)
  /-- A blocked dispatch sees the cancellation. -/
  | giveUp (dispatch : Nat)
  /-- A worker looks whether it has to stop. -/
  | check (worker : Nat)
  /-- A worker takes the oldest message. -/
  | take (worker : Nat)
  /-- A worker has waited long enough or finds the queue closed. -/
  | stopWaiting (worker : Nat)
  /-- The handler of a worker returns. -/
  | finish (worker : Nat)
  /-- The handler of a worker fails, which ends the worker. -/
  | fail (worker : Nat)
  | cancel
  /-- The shutdown begins. -/
  | close
deriving DecidableEq, Repr

/-- What becomes of a message. -/
inductive Event (α : Type) where
  /-- Its dispatch has succeeded. -/
  | accepted (message : α)
  /-- Its dispatch has failed. -/
  | refused (message : α)
  | taken (message : α)
  | handled (message : α)
  | lost (message : α)
deriving DecidableEq, Repr

namespace WorkerPool

variable {α : Type}

/-- A pool with at least one worker and room for at least one message. -/
def start (generation size capacity : Nat) : WorkerPool α where
  generation := generation
  capacity := max capacity 1
  queue := []
  workers := List.replicate (max size 1) .checking
  blocked := []
  isCancelled := false
  isClosed := false

/-- Starts one more worker.  If that fails, nobody is left who gives messages to the workers before it. -/
def startWorker (fails : Nat → Bool) (p : WorkerPool α) (w : Nat) : Except (WorkerPool α) (WorkerPool α) :=
  if fails w then .error { p with isClosed := true } else .ok { p with workers := p.workers ++ [.checking] }

/-- Starts the workers of a pool one after the other: the pool, or what is left of it when a start fails. -/
def launch (fails : Nat → Bool) (generation size capacity : Nat) : Except (WorkerPool α) (WorkerPool α) :=
  (List.range (max size 1)).foldlM (startWorker fails) { start generation size capacity with workers := [] }

/-- Whether the queue has room. -/
def hasRoom (p : WorkerPool α) : Bool := p.queue.length < p.capacity

/-- The pool in which a worker does something else. -/
def setWorker (p : WorkerPool α) (w : Nat) (state : Worker α) : WorkerPool α :=
  { p with workers := p.workers.set w state }

/-- Puts a message into the queue. -/
def enqueue (p : WorkerPool α) (m : α) : WorkerPool α := { p with queue := p.queue ++ [m] }

/-- What a move does, if it may happen. -/
def step (p : WorkerPool α) : Move α → Option (WorkerPool α × List (Event α))
  | .dispatch m =>
    if p.isClosed then none
    else if p.hasRoom then some (p.enqueue m, [.accepted m])
    else some ({ p with blocked := p.blocked ++ [m] }, [])
  | .retry i =>
    match p.blocked[i]? with
    | some m =>
      if p.hasRoom then some ({ p.enqueue m with blocked := p.blocked.eraseIdx i }, [.accepted m]) else none
    | none => none
  | .giveUp i =>
    match p.blocked[i]? with
    | some m => if p.isCancelled then some ({ p with blocked := p.blocked.eraseIdx i }, [.refused m]) else none
    | none => none
  | .check w =>
    match p.workers[w]? with
    | some .checking => some (p.setWorker w (if p.isCancelled then .gone else .waiting), [])
    | _ => none
  | .take w =>
    match p.workers[w]?, p.queue with
    | some .waiting, m :: rest => some ({ p.setWorker w (.busy m) with queue := rest }, [.taken m])
    | _, _ => none
  | .stopWaiting w =>
    match p.workers[w]? with
    | some .waiting => some (p.setWorker w (if p.isClosed && p.queue.isEmpty then .gone else .checking), [])
    | _ => none
  | .finish w =>
    match p.workers[w]? with
    | some (.busy m) => some (p.setWorker w .checking, [.handled m])
    | _ => none
  | .fail w =>
    match p.workers[w]? with
    | some (.busy m) => some (p.setWorker w .gone, [.lost m])
    | _ => none
  | .cancel => some ({ p with isCancelled := true }, [])
  | .close => if p.blocked.isEmpty then some ({ p with isCancelled := true, isClosed := true }, []) else none

/-- What moves do one after the other, if they may happen in this order. -/
def run (p : WorkerPool α) : List (Move α) → Option (WorkerPool α × List (Event α))
  | [] => some (p, [])
  | move :: moves =>
    match p.step move with
    | none => none
    | some (q, events) => (q.run moves).map fun (r, later) => (r, events ++ later)

/-- The number of a worker that is not gone. -/
def liveWorker? (p : WorkerPool α) : Option Nat :=
  p.workers.findIdx? fun
    | .gone => false
    | _ => true

/-- Whether all workers are gone, so that the shutdown is complete. -/
def isDown (p : WorkerPool α) : Bool := p.liveWorker?.isNone

/-- How many messages a complete shutdown discards. -/
def discarded (p : WorkerPool α) : Nat := p.queue.length

/-- The moves by which a worker takes a message and handles it. -/
def handling (w : Nat) : List (Move α) := [.check w, .take w, .finish w]

/-- The moves by which a worker empties the queue. -/
def draining (p : WorkerPool α) (w : Nat) : List (Move α) := p.queue.flatMap fun _ => handling w

/-- The moves by which a worker ends after the pool has been closed.  One that is busy finishes first. -/
def leaving (p : WorkerPool α) (w : Nat) : Worker α → List (Move α)
  | .checking => [.check w]
  | .waiting => if p.queue.isEmpty then [.stopWaiting w] else [.stopWaiting w, .check w]
  | .busy _ => [.finish w, .check w]
  | .gone => []

/-- The moves by which the workers end after the pool has been closed. -/
def leavingMoves (p : WorkerPool α) : List (Move α) := p.workers.zipIdx.flatMap fun (worker, w) => p.leaving w worker

/-- Whether a worker is gone. -/
def isGone (p : WorkerPool α) (w : Nat) : Bool :=
  match p.workers[w]? with
  | some .gone => true
  | _ => false

/-- Waits for the end of a worker while moves happen: the pool at that moment, and the moves that are left. -/
def await (w : Nat) : WorkerPool α → List (Move α) → Option (WorkerPool α × List (Move α))
  | p, [] => if p.isGone w then some (p, []) else none
  | p, move :: moves =>
    if p.isGone w then some (p, move :: moves)
    else
      match p.step move with
      | none => none
      | some (q, _) => await w q moves

/-- Waits for the end of some workers, one after the other. -/
def join : List Nat → WorkerPool α → List (Move α) → Option (WorkerPool α × List (Move α))
  | [], p, moves => some (p, moves)
  | w :: workers, p, moves =>
    match p.await w moves with
    | none => none
    | some (q, rest) => join workers q rest

/-- The pool when its shutdown returns, and how many messages are discarded, where some moves happen meanwhile. -/
def shutdown (p : WorkerPool α) (moves : List (Move α)) : Option (WorkerPool α × Nat) :=
  match p.step .close with
  | none => none
  | some (q, _) => (join (List.range q.workers.length) q moves).map fun (r, _) => (r, r.discarded)

/-- The message of a dispatch that gives up. -/
def refusalMessage (p : WorkerPool α) : String :=
  "Generation " ++ toString p.generation ++ " cancelled while the work queue was full"

end WorkerPool

/-- The messages of some events that have been handled. -/
def Event.handledMessages {α : Type} (events : List (Event α)) : List α :=
  events.filterMap fun
    | .handled m => some m
    | _ => none

end ChatModeration
