import ChatModeration.Proofs.Ingestion.Generations
import ChatModeration.Proofs.Workers.Shutdown
import Mathlib.Logic.Relation

/-!
# One connection, step by step

The reader of a connection takes one frame after the other and dispatches its messages, while workers go on at their
own pace and the program may be told to stop at any moment (`Connection.Step`).  A dispatch that finds the queue full
waits, and fails only when its pool is cancelled.  The pool of a connection is cancelled with the program, or by the
connection itself once its frames are no longer read (`Connection.Guarded`), so a dispatch fails only when the program
is stopping (`Connection.IsGuarded.isStopping`).
-/

namespace ChatModeration

namespace WorkerPool

variable {α : Type}

/-- The number of ends at which messages are taken from the queue: one for each worker that is not gone, and one that
the pool keeps. -/
def receivers (p : WorkerPool α) : Nat :=
  (p.workers.filter fun
    | .gone => false
    | _ => true).length + 1

end WorkerPool

/-- Whether a move is one of a worker. -/
def Move.isWork {α : Type} : Move α → Bool
  | check _ | take _ | stopWaiting _ | finish _ | fail _ => true
  | dispatch _ | retry _ | giveUp _ | cancel | close => false

/-- Workers neither cancel nor close their pool, and leave alone dispatches that wait. -/
theorem WorkerPool.Turn.of_isWork {α : Type} {p q : WorkerPool α} {move : Move α} {events : List (Event α)}
    (h : Turn p move q events) (hwork : move.isWork = true) :
    q.isCancelled = p.isCancelled ∧ q.isClosed = p.isClosed ∧ q.blocked = p.blocked := by
  cases h with
  | check hw => exact ⟨rfl, rfl, rfl⟩
  | take hw hq => exact ⟨rfl, rfl, rfl⟩
  | stopWaiting hw => exact ⟨rfl, rfl, rfl⟩
  | finish hw => exact ⟨rfl, rfl, rfl⟩
  | fail hw => exact ⟨rfl, rfl, rfl⟩
  | _ => cases hwork

namespace Ingestion

/-! ### Steps -/

/-- What the reader of a connection is doing. -/
inductive Reader where
  | connecting
  /-- It waits for a frame. -/
  | reading
  /-- It is about to dispatch the message of a frame. -/
  | dispatching (text : String) (message : ChatMessage)
  /-- The queue is full, and the dispatch waits. -/
  | blocked (text : String) (message : ChatMessage)
  /-- The dispatch has failed. -/
  | refused (text : String) (message : ChatMessage)
  /-- No more frames are read. -/
  | closing (ending : ConnectionEnd)
  /-- The connection is closed, and the workers are not yet told to stop. -/
  | leaving (ending : ConnectionEnd)
  /-- It waits for the workers one after the other, and those before this one are gone. -/
  | joining (ending : ConnectionEnd) (worker : Nat)
  | done (ending : ConnectionEnd)

namespace Reader

/-- How the connection ends, once that is settled. -/
def ending? : Reader → Option ConnectionEnd
  | closing ending | leaving ending | joining ending _ | done ending => some ending
  | connecting | reading | dispatching .. | blocked .. | refused .. => none

/-- The messages whose dispatches wait. -/
def waiting : Reader → List ChatMessage
  | blocked _ message => [message]
  | _ => []

/-- Whether there is a pool that has not been told to stop by the connection. -/
def holdsPool : Reader → Bool
  | reading | dispatching .. | blocked .. | refused .. | closing _ | leaving _ => true
  | connecting | joining .. | done _ => false

/-- Whether a dispatch has failed and nothing has been made of it yet. -/
def isRefused : Reader → Bool
  | refused .. => true
  | _ => false

/-- How far the reader is from the end, if no more frames arrive. -/
def remaining : Reader → Nat
  | done _ => 0
  | joining .. => 1
  | leaving _ => 2
  | closing _ => 3
  | reading => 4
  | refused .. => 5
  | blocked .. => 6
  | dispatching .. => 7
  | connecting => 8

end Reader

/-- A connection at some moment. -/
structure Connection where
  reader : Reader
  /-- Whether the program has been told to stop. -/
  isStopping : Bool
  pool : Option (WorkerPool ChatMessage)
  /-- How the attempt has gone so far. -/
  attempt : Attempt
  /-- What has been done so far. -/
  effects : List Effect

namespace Connection

/-- A connection that is about to be made. -/
def start (url : String) : Connection where
  reader := .connecting
  isStopping := false
  pool := none
  attempt := ⟨.established, [], false⟩
  effects := [.announce .connecting, .connect url]

/-- The connection after an arrival and what it leads to. -/
def receive (s : Connection) (a : Arrival) (effects : List Effect) (reader : Reader) : Connection :=
  { s with
    reader, effects := s.effects ++ effects, attempt := { s.attempt with arrivals := s.attempt.arrivals ++ [a] } }

/-- The connection with another state of its pool and its reader. -/
def turn (s : Connection) (p : WorkerPool ChatMessage) (reader : Reader) : Connection :=
  { s with pool := some p, reader }

/--
What may happen next to a connection with a number, whose workers can be started.  The pool may be cancelled when the
program has been told to stop, and is cancelled when it is closed, and in no other way.
-/
inductive Step (generation : Nat) (s : Connection) : Connection → Prop where
  /-- The program is told to stop. -/
  | stop : Step generation s { s with isStopping := true }
  /-- The pool is cancelled with the program. -/
  | cancel {p q : WorkerPool ChatMessage} {events : List (Event ChatMessage)} (hstop : s.isStopping = true)
      (hp : s.pool = some p) (hstep : p.step .cancel = some (q, events)) : Step generation s { s with pool := some q }
  | work {p q : WorkerPool ChatMessage} {move : Move ChatMessage} {events : List (Event ChatMessage)}
      (hwork : move.isWork = true) (hp : s.pool = some p) (hstep : p.step move = some (q, events)) :
      Step generation s { s with pool := some q }
  | interrupted (hr : s.reader = .connecting) (hstop : s.isStopping = true) :
      Step generation s
        { s with reader := .done .shutdown, attempt := { s.attempt with connecting := .interrupted } }
  | notConnected (hr : s.reader = .connecting) :
      Step generation s { s with reader := .done .failed, attempt := { s.attempt with connecting := .failed } }
  | connected (size capacity : Nat) (hr : s.reader = .connecting) :
      Step generation s
        { s with
          reader := .reading, pool := some (.start generation size capacity)
          effects := s.effects ++ [.startWorkers generation] }
  | stopped (hr : s.reader = .reading) (hstop : s.isStopping = true) :
      Step generation s (s.receive .shutdown [.read] (.closing .shutdown))
  | readError (hr : s.reader = .reading) : Step generation s (s.receive .readError [.read] (.closing .failed))
  | closed (hr : s.reader = .reading) : Step generation s (s.receive .closed [.read] (.closing .closed))
  /-- A frame without a message arrives. -/
  | event {text : String} {subscriptionFails : Bool} {a : Arrival} (hr : s.reader = .reading)
      (ha : a = .frame text { subscriptionFails }) (hm : a.message? = none) :
      Step generation s (s.receive a (.read :: a.effects) (a.ending?.elim .reading .closing))
  /-- A frame with a message arrives. -/
  | message {text : String} {m : ChatMessage} (hr : s.reader = .reading)
      (hm : (Arrival.frame text {}).message? = some m) :
      Step generation s
        { s with
          reader := .dispatching text m, effects := s.effects ++ [.read, .countMessage m.heldByAutomod] }
  | accepted {p q : WorkerPool ChatMessage} {text : String} {m : ChatMessage} (hr : s.reader = .dispatching text m)
      (hp : s.pool = some p) (hstep : p.step (.dispatch m) = some (q, [.accepted m])) :
      Step generation s ((s.receive (.frame text {}) [.dispatch m] .reading).turn q .reading)
  | full {p q : WorkerPool ChatMessage} {text : String} {m : ChatMessage} (hr : s.reader = .dispatching text m)
      (hp : s.pool = some p) (hstep : p.step (.dispatch m) = some (q, [])) :
      Step generation s (s.turn q (.blocked text m))
  /-- A dispatch fails if the pool has been closed, or if there is nobody to take the message. -/
  | unsent {p : WorkerPool ChatMessage} {text : String} {m : ChatMessage} (hr : s.reader = .dispatching text m)
      (hp : s.pool = some p) (hgone : p.isClosed = true ∨ p.receivers = 0) :
      Step generation s { s with reader := .refused text m }
  | retried {p q : WorkerPool ChatMessage} {text : String} {m : ChatMessage} (hr : s.reader = .blocked text m)
      (hp : s.pool = some p) (hstep : p.step (.retry 0) = some (q, [.accepted m])) :
      Step generation s ((s.receive (.frame text {}) [.dispatch m] .reading).turn q .reading)
  | gaveUp {p q : WorkerPool ChatMessage} {text : String} {m : ChatMessage} (hr : s.reader = .blocked text m)
      (hp : s.pool = some p) (hstep : p.step (.giveUp 0) = some (q, [.refused m])) :
      Step generation s (s.turn q (.refused text m))
  /-- A dispatch that waits fails if there is nobody to take the message. -/
  | cutOff {p : WorkerPool ChatMessage} {text : String} {m : ChatMessage} (hr : s.reader = .blocked text m)
      (hp : s.pool = some p) (hgone : p.receivers = 0) :
      Step generation s (s.turn { p with blocked := [] } (.refused text m))
  /-- After a dispatch that has failed the program is found to be stopping. -/
  | abandoned {text : String} {m : ChatMessage} (hr : s.reader = .refused text m) (hstop : s.isStopping = true) :
      Step generation s (s.receive (.frame text { queueStuck := true }) [] (.closing .shutdown))
  /-- After a dispatch that has failed the program is found not to be stopping. -/
  | undispatched {text : String} {m : ChatMessage} (hr : s.reader = .refused text m) (hstop : s.isStopping = false) :
      Step generation s (s.receive (.frame text { queueStuck := true }) [] (.closing .failed))
  | close {ending : ConnectionEnd} (closeFails : Bool) (hr : s.reader = .closing ending) :
      Step generation s
        { s with
          reader := .leaving ending, attempt := { s.attempt with closeFails }
          effects := s.effects ++ { s.attempt with closeFails }.closing }
  | leave {p q : WorkerPool ChatMessage} {events : List (Event ChatMessage)} {ending : ConnectionEnd}
      (hr : s.reader = .leaving ending) (hp : s.pool = some p) (hstep : p.step .close = some (q, events)) :
      Step generation s (s.turn q (.joining ending 0))
  /-- The next worker is gone. -/
  | joined {p : WorkerPool ChatMessage} {ending : ConnectionEnd} {w : Nat} (hr : s.reader = .joining ending w)
      (hp : s.pool = some p) (hgone : p.isGone w = true) :
      Step generation s { s with reader := .joining ending (w + 1) }
  /-- There is no other worker to wait for. -/
  | join {p : WorkerPool ChatMessage} {ending : ConnectionEnd} {w : Nat} (hr : s.reader = .joining ending w)
      (hp : s.pool = some p) (hall : p.workers.length ≤ w) :
      Step generation s
        { s with reader := .done ending, effects := s.effects ++ [.joinWorkers generation] }

/-- Several steps. -/
abbrev Steps (generation : Nat) : Connection → Connection → Prop := Relation.ReflTransGen (Step generation)

/-- The connection has come about step by step. -/
def Reachable (generation : Nat) (url : String) (s : Connection) : Prop := Steps generation (start url) s

/-! ### The pool of a connection -/

/-- What is true of a pool while frames are read: it is cancelled only with the program, and these dispatches wait. -/
structure Held (p : WorkerPool ChatMessage) (isStopping : Bool) (waiting : List ChatMessage) : Prop where
  isOpen : p.isClosed = false
  cancelled : p.isCancelled = true → isStopping = true
  blocked : p.blocked = waiting

/-- What the reader is doing says what the pool is like.  A dispatch has failed only when the program is stopping. -/
inductive Guarded : Reader → Option (WorkerPool ChatMessage) → Bool → Prop where
  | connecting {isStopping : Bool} : Guarded .connecting none isStopping
  | held {reader : Reader} {p : WorkerPool ChatMessage} {isStopping : Bool} (hr : reader.holdsPool = true)
      (h : Held p isStopping reader.waiting) (hrefused : reader.isRefused = true → isStopping = true) :
      Guarded reader (some p) isStopping
  | joining {p : WorkerPool ChatMessage} {isStopping : Bool} {ending : ConnectionEnd} {w : Nat}
      (hclosed : p.isClosed = true) (hcancelled : p.isCancelled = true) :
      Guarded (.joining ending w) (some p) isStopping
  | done {pool : Option (WorkerPool ChatMessage)} {isStopping : Bool} {ending : ConnectionEnd} :
      Guarded (.done ending) pool isStopping

section Pool

variable {p q : WorkerPool ChatMessage} {isStopping : Bool} {waiting : List ChatMessage} {reader : Reader}
  {events : List (Event ChatMessage)}

theorem held_start (generation size capacity : Nat) : Held (.start generation size capacity) isStopping [] :=
  ⟨rfl, nofun, rfl⟩

theorem Held.stop (h : Held p isStopping waiting) : Held p true waiting := ⟨h.isOpen, fun _ => rfl, h.blocked⟩

theorem Held.cancel (h : Held p true waiting) (hstep : p.step .cancel = some (q, events)) : Held q true waiting := by
  cases WorkerPool.turn_of_step hstep
  exact ⟨h.isOpen, fun _ => rfl, h.blocked⟩

theorem Held.work {move : Move ChatMessage} (h : Held p isStopping waiting) (hwork : move.isWork = true)
    (hstep : p.step move = some (q, events)) : Held q isStopping waiting := by
  obtain ⟨hcancelled, hclosed, hblocked⟩ := (WorkerPool.turn_of_step hstep).of_isWork hwork
  exact ⟨hclosed.trans h.isOpen, fun hq => h.cancelled (hcancelled ▸ hq), hblocked.trans h.blocked⟩

theorem Held.accept {m : ChatMessage} (h : Held p isStopping waiting)
    (hstep : p.step (.dispatch m) = some (q, [.accepted m])) : Held q isStopping waiting := by
  cases WorkerPool.turn_of_step hstep
  exact ⟨h.isOpen, h.cancelled, h.blocked⟩

theorem Held.full {m : ChatMessage} (h : Held p isStopping []) (hstep : p.step (.dispatch m) = some (q, [])) :
    Held q isStopping [m] := by
  cases WorkerPool.turn_of_step hstep
  exact ⟨h.isOpen, h.cancelled, congrArg (· ++ [m]) h.blocked⟩

theorem Held.retry {m : ChatMessage} (h : Held p isStopping [m])
    (hstep : p.step (.retry 0) = some (q, [.accepted m])) : Held q isStopping [] := by
  cases WorkerPool.turn_of_step hstep
  exact ⟨h.isOpen, h.cancelled, congrArg (List.eraseIdx · 0) h.blocked⟩

/-- A dispatch that waits gives up only when the program is stopping. -/
theorem Held.giveUp {m : ChatMessage} (h : Held p isStopping [m])
    (hstep : p.step (.giveUp 0) = some (q, [.refused m])) : isStopping = true ∧ Held q isStopping [] := by
  cases WorkerPool.turn_of_step hstep with
  | giveUp hm hcancelled =>
    exact ⟨h.cancelled hcancelled, h.isOpen, h.cancelled, congrArg (List.eraseIdx · 0) h.blocked⟩

/-- While frames are read the dispatches have somebody to send to. -/
theorem Held.not_gone (h : Held p isStopping waiting) : ¬ (p.isClosed = true ∨ p.receivers = 0) := by
  rintro (hclosed | hreceivers)
  · rw [h.isOpen] at hclosed
    cases hclosed
  · exact Nat.succ_ne_zero _ hreceivers

theorem Guarded.stop {pool : Option (WorkerPool ChatMessage)} (h : Guarded reader pool isStopping) :
    Guarded reader pool true := by
  cases h with
  | connecting => exact .connecting
  | held hr h hrefused => exact .held hr h.stop fun _ => rfl
  | joining hclosed hcancelled => exact .joining hclosed hcancelled
  | done => exact .done

theorem Guarded.cancel (h : Guarded reader (some p) true) (hstep : p.step .cancel = some (q, events)) :
    Guarded reader (some q) true := by
  cases h with
  | held hr h hrefused => exact .held hr (h.cancel hstep) hrefused
  | joining hclosed hcancelled =>
    cases WorkerPool.turn_of_step hstep
    exact .joining hclosed rfl
  | done => exact .done

theorem Guarded.work {move : Move ChatMessage} (h : Guarded reader (some p) isStopping) (hwork : move.isWork = true)
    (hstep : p.step move = some (q, events)) : Guarded reader (some q) isStopping := by
  cases h with
  | held hr h hrefused => exact .held hr (h.work hwork hstep) hrefused
  | joining hclosed hcancelled =>
    obtain ⟨hcancel, hclose, -⟩ := (WorkerPool.turn_of_step hstep).of_isWork hwork
    exact .joining (hclose.trans hclosed) (hcancel.trans hcancelled)
  | done => exact .done

theorem Guarded.exists_held {pool : Option (WorkerPool ChatMessage)} (h : Guarded reader pool isStopping)
    (hr : reader.holdsPool = true) :
    ∃ p, pool = some p ∧ Held p isStopping reader.waiting ∧ (reader.isRefused = true → isStopping = true) := by
  cases h with
  | held _ h hrefused => exact ⟨_, rfl, h, hrefused⟩
  | _ => cases hr

/-- The reader does something else, and no dispatch waits before or after that. -/
theorem Guarded.turn {pool : Option (WorkerPool ChatMessage)} (h : Guarded reader pool isStopping) {next : Reader}
    (hr : reader.holdsPool = true) (hnext : next.holdsPool = true) (hwaiting : next.waiting = reader.waiting)
    (hrefused : next.isRefused = false) : Guarded next pool isStopping := by
  obtain ⟨p, rfl, hheld, -⟩ := h.exists_held hr
  exact .held hnext (hwaiting ▸ hheld) (by simp [hrefused])

end Pool

/-- What the pool of a connection is like. -/
def IsGuarded (s : Connection) : Prop := Guarded s.reader s.pool s.isStopping

variable {generation : Nat} {url : String} {s t : Connection}

theorem IsGuarded.step (h : s.IsGuarded) (hstep : Step generation s t) : t.IsGuarded := by
  rw [IsGuarded] at h
  cases hstep with
  | stop => exact h.stop
  | cancel hstop hp hmove =>
    rw [hp, hstop] at h
    rw [IsGuarded, hstop]
    exact h.cancel hmove
  | work hwork hp hmove =>
    rw [hp] at h
    exact h.work hwork hmove
  | interrupted hr hstop => exact .done
  | notConnected hr => exact .done
  | connected size capacity hr => exact .held rfl (held_start generation size capacity) nofun
  | stopped hr hstop => exact (hr ▸ h).turn rfl rfl rfl rfl
  | readError hr => exact (hr ▸ h).turn rfl rfl rfl rfl
  | closed hr => exact (hr ▸ h).turn rfl rfl rfl rfl
  | @event text subscriptionFails a hr ha hm =>
    rw [hr] at h
    rw [IsGuarded, receive]
    cases a.ending? with
    | none => exact h
    | some ending => exact h.turn rfl rfl rfl rfl
  | message hr hm => exact (hr ▸ h).turn rfl rfl rfl rfl
  | accepted hr hp hmove =>
    rw [hr, hp] at h
    cases h with
    | held _ h _ => exact .held rfl (h.accept hmove) nofun
  | full hr hp hmove =>
    rw [hr, hp] at h
    cases h with
    | held _ h _ => exact .held rfl (h.full hmove) nofun
  | unsent hr hp hgone =>
    rw [hr, hp] at h
    cases h with
    | held _ h _ => exact absurd hgone h.not_gone
  | retried hr hp hmove =>
    rw [hr, hp] at h
    cases h with
    | held _ h _ => exact .held rfl (h.retry hmove) nofun
  | gaveUp hr hp hmove =>
    rw [hr, hp] at h
    cases h with
    | held _ h _ =>
      obtain ⟨hstop, h⟩ := h.giveUp hmove
      exact .held rfl h fun _ => hstop
  | cutOff hr hp hgone =>
    rw [hr, hp] at h
    cases h with
    | held _ h _ => exact absurd (.inr hgone) h.not_gone
  | abandoned hr hstop => exact (hr ▸ h).turn rfl rfl rfl rfl
  | undispatched hr hstop => exact (hr ▸ h).turn rfl rfl rfl rfl
  | close closeFails hr => exact (hr ▸ h).turn rfl rfl rfl rfl
  | leave hr hp hmove =>
    cases WorkerPool.turn_of_step hmove
    exact .joining rfl rfl
  | joined hr hp hgone =>
    rw [hr, hp] at h
    rw [IsGuarded, hp]
    cases h with
    | held hheld => cases hheld
    | joining hclosed hcancelled => exact .joining hclosed hcancelled
  | join hr hp hall => exact .done

/-- A dispatch has failed only when the program is stopping. -/
theorem IsGuarded.isStopping (h : s.IsGuarded) (hr : s.reader.isRefused = true) : s.isStopping = true := by
  have hpool : s.reader.holdsPool = true := by
    cases hreader : s.reader with
    | refused text m => rfl
    | _ =>
      rw [hreader] at hr
      cases hr
  obtain ⟨-, -, -, hrefused⟩ := Guarded.exists_held h hpool
  exact hrefused hr

theorem isGuarded_start (url : String) : (start url).IsGuarded := .connecting

theorem IsGuarded.steps (h : s.IsGuarded) (hsteps : Steps generation s t) : t.IsGuarded := by
  induction hsteps with
  | refl => exact h
  | tail _ hstep ih => exact ih.step hstep

end Connection

end Ingestion

end ChatModeration
