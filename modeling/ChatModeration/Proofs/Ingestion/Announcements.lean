import ChatModeration.Proofs.Ingestion.Generations
import Mathlib.Data.List.Induction

/-!
# Announced states

In an attempt the announced states follow one another in a fixed order: connecting, then subscribing and streaming for
each welcome, then how the attempt has ended (`Generation.states`).  A request to connect again and a failure are
announced, and this is the state until the next attempt.  A connection that the other side closes is not announced as
closed, so the state in which it was stays until the next attempt (`announced_run`).
-/

namespace ChatModeration

namespace ConnectionState

/-- Whether a state says that there is no connection. -/
def isOver : ConnectionState → Bool
  | reconnectRequested | error | closed => true
  | connecting | subscribing | streaming => false

/-- Which state may be announced after another one in the same attempt. -/
inductive Leads : ConnectionState → ConnectionState → Prop where
  | welcome : Leads connecting subscribing
  /-- The feed may welcome more than once. -/
  | welcomeAgain : Leads streaming subscribing
  | subscribed : Leads subscribing streaming
  | ended {s t : ConnectionState} (hs : s = connecting ∨ s = streaming) (ht : t.isOver = true) : Leads s t

end ConnectionState

namespace Ingestion

open Feed (FeedEvent)
open ConnectionState (Leads)

/-- The state that is announced. -/
def Effect.announced? : Effect → Option ConnectionState
  | announce state => some state
  | _ => none

/-- Whether an arrival is a welcome. -/
def Arrival.isWelcome (a : Arrival) : Bool :=
  match a.event? with
  | some (.sessionWelcome _) => true
  | _ => false

/-- The number of welcomes in an attempt. -/
def Attempt.welcomes (a : Attempt) : Nat := a.outcome.1.countP Arrival.isWelcome

/-- The states that are announced when a connection ends. -/
def ConnectionEnd.states : ConnectionEnd → List ConnectionState
  | reconnect _ => [.reconnectRequested]
  | failed => [.error]
  | closed | shutdown => []

/-- The states that some welcomes lead to. -/
def welcomeStates (welcomes : Nat) : List ConnectionState :=
  (List.replicate welcomes [.subscribing, .streaming]).flatten

namespace Generation

/-- The states that are announced in an attempt, and before the next one. -/
def states (g : Generation) : List ConnectionState :=
  .connecting :: (welcomeStates g.attempt.welcomes ++ g.attempt.outcome.2.states)

/-- The state in which an attempt leaves the connection.  Nothing is announced when the other side closes it. -/
def leaves (g : Generation) : ConnectionState :=
  match g.attempt.outcome.2 with
  | .reconnect _ => .reconnectRequested
  | .failed => .error
  | .closed | .shutdown => if g.attempt.welcomes = 0 then .connecting else .streaming

end Generation

/-! ### What is announced -/

/-- The state of the connection is the one that has been announced last. -/
theorem connection_foldl (effects : List Effect) (s : Station) :
    (effects.foldl (fun (s : Station) e => (s.apply e).1) s).connection =
      (effects.filterMap Effect.announced?).getLast?.getD s.connection := by
  induction effects using List.reverseRecOn with
  | nil => rfl
  | append_singleton effects e ih =>
    rw [List.foldl_append, List.filterMap_append]
    cases e with
    | announce state => exact (congrArg (Option.getD · s.connection) List.getLast?_concat).symm
    | _ => simpa [Effect.announced?, Station.apply, Station.count] using ih

/-- What an arrival announces. -/
theorem Arrival.filterMap_announced_effects (a : Arrival) :
    a.effects.filterMap Effect.announced? =
      match a.event? with
      | some (.sessionWelcome _) => [.subscribing, .streaming]
      | some (.reconnect _) => [.reconnectRequested]
      | _ => [] := by
  cases a with
  | frame text c =>
    simp only [effects, event?, Ingestion.frame]
    cases FeedEvent.decode text with
    | error e => rfl
    | ok event =>
      cases event with
      | sessionWelcome id =>
        simp only [route]
        cases c.subscriptionFails <;> rfl
      | chatMessage m | automodHold m =>
        simp only [route]
        cases c.queueStuck <;> rfl
      | _ => rfl
  | _ => rfl

theorem Arrival.filterMap_announced_of_open {a : Arrival} (h : a.ending? = none) :
    a.effects.filterMap Effect.announced? = welcomeStates (if a.isWelcome then 1 else 0) := by
  have hreconnect : ∀ url, a.event? ≠ some (.reconnect url) := by
    intro url hevent
    rw [ending_eq_reconnect_iff.2 hevent] at h
    cases h
  rw [filterMap_announced_effects, isWelcome]
  cases hevent : a.event? with
  | none => rfl
  | some event =>
    cases event with
    | reconnect url => exact absurd hevent (hreconnect url)
    | _ => rfl

theorem Arrival.filterMap_announced_of_ending {a : Arrival} {ending : ConnectionEnd} (h : a.ending? = some ending) :
    a.isWelcome = false ∧
      a.effects.filterMap Effect.announced? ++ ending.announced.filterMap Effect.announced? = ending.states := by
  rw [filterMap_announced_effects, isWelcome]
  cases a with
  | frame text c =>
    simp only [ending?] at h
    cases hevent : (frame text c).event? with
    | none => simp [hevent] at h
    | some event =>
      rw [hevent] at h
      cases event with
      | reconnect url =>
        cases h
        exact ⟨rfl, rfl⟩
      | chatMessage m | automodHold m =>
        obtain ⟨-, rfl⟩ : c.queueStuck = true ∧ ConnectionEnd.shutdown = ending := by simpa using h
        exact ⟨rfl, rfl⟩
      | _ => cases h
  | readError | closed | shutdown =>
    cases h
    exact ⟨rfl, rfl⟩

theorem welcomeStates_add (m n : Nat) : welcomeStates (m + n) = welcomeStates m ++ welcomeStates n := by
  rw [welcomeStates, List.replicate_add, List.flatten_append]
  rfl

/-- What is announced while a connection is there, and after it. -/
theorem filterMap_announced_stream (arrivals : List Arrival) :
    (stream arrivals).1.filterMap Effect.announced? ++
        (session arrivals).2.announced.filterMap Effect.announced? =
      welcomeStates ((session arrivals).1.countP Arrival.isWelcome) ++ (session arrivals).2.states := by
  induction arrivals with
  | nil => rfl
  | cons a rest ih =>
    rw [stream_cons, session]
    cases ha : a.ending? with
    | some ending =>
      obtain ⟨hwelcome, hstates⟩ := Arrival.filterMap_announced_of_ending ha
      simp only [stream.andThen, List.countP_singleton, hwelcome]
      exact hstates
    | none =>
      have hopen := Arrival.filterMap_announced_of_open ha
      have hread : (Effect.read :: a.effects ++ (stream rest).1).filterMap Effect.announced? =
          a.effects.filterMap Effect.announced? ++ (stream rest).1.filterMap Effect.announced? :=
        List.filterMap_append
      simp only [stream.andThen, List.countP_cons]
      rw [hread, Nat.add_comm, welcomeStates_add, List.append_assoc, ih, hopen, List.append_assoc]

theorem filterMap_announced_closing (a : Attempt) : a.closing.filterMap Effect.announced? = [] := by
  rw [Attempt.closing]
  split <;> rfl

namespace Generation

theorem filterMap_announced_effects (g : Generation) : g.effects.filterMap Effect.announced? = g.states := by
  have hclosing := filterMap_announced_closing g.attempt
  have hstream := filterMap_announced_stream g.attempt.arrivals
  rw [effects, List.filterMap_append, states, Attempt.welcomes]
  cases hc : g.attempt.connecting with
  | established =>
    simp only [Ingestion.attempt, Attempt.outcome, hc, List.filterMap_append, List.filterMap_cons,
      List.filterMap_nil, Effect.announced?, hclosing, List.append_nil, List.cons_append, List.nil_append, hstream]
  | unstaffed =>
    simp only [Ingestion.attempt, Attempt.outcome, hc, List.filterMap_append, List.filterMap_cons, Effect.announced?,
      hclosing]
    rfl
  | failed | interrupted =>
    simp only [Ingestion.attempt, Attempt.outcome, hc]
    rfl

end Generation

/-! ### The order of the states -/

/-- A welcome is followed by what comes after it. -/
theorem welcomeStates_succ (n : Nat) : welcomeStates (n + 1) = .subscribing :: .streaming :: welcomeStates n := rfl

/-- Before a welcome a connection is new or streaming, and so it is after it. -/
theorem isChain_states {x : ConnectionState} (hx : x = .connecting ∨ x = .streaming) (n : Nat)
    (ending : ConnectionEnd) : (x :: (welcomeStates n ++ ending.states)).IsChain Leads := by
  induction n generalizing x with
  | zero =>
    cases ending with
    | reconnect url => exact .cons_cons (.ended hx rfl) (.singleton _)
    | failed => exact .cons_cons (.ended hx rfl) (.singleton _)
    | closed | shutdown => exact .singleton x
  | succ n ih =>
    have hwelcome : Leads x .subscribing := by
      rcases hx with rfl | rfl
      · exact .welcome
      · exact .welcomeAgain
    rw [welcomeStates_succ]
    exact .cons_cons hwelcome (.cons_cons .subscribed (ih (.inr rfl)))

theorem getLast?_welcomeStates (x : ConnectionState) (n : Nat) :
    (x :: welcomeStates n).getLast? = some (if n = 0 then x else .streaming) := by
  induction n generalizing x with
  | zero => rfl
  | succ n ih =>
    rw [welcomeStates_succ, List.getLast?_cons_cons, List.getLast?_cons_cons, ih .streaming, ite_self,
      if_neg n.succ_ne_zero]

namespace Generation

theorem isChain_states (g : Generation) : g.states.IsChain Leads := Ingestion.isChain_states (.inl rfl) _ _

theorem getLast?_states (g : Generation) : g.states.getLast? = some g.leaves := by
  have hlast := getLast?_welcomeStates .connecting g.attempt.welcomes
  rw [states, leaves, ← List.cons_append]
  cases g.attempt.outcome.2 with
  | reconnect url => exact List.getLast?_concat
  | failed => exact List.getLast?_concat
  | closed | shutdown =>
    simp only [ConnectionEnd.states, List.append_nil]
    exact hlast

/-- A request to connect again and a failure are announced. -/
theorem isOver_leaves {g : Generation} (hstops : ¬ g.attempt.Stops) (hclosed : g.attempt.outcome.2 ≠ .closed) :
    g.leaves.isOver = true := by
  rw [Attempt.Stops] at hstops
  rw [leaves]
  cases hending : g.attempt.outcome.2 with
  | reconnect url => rfl
  | failed => rfl
  | closed => exact absurd hending hclosed
  | shutdown => exact absurd hending hstops

end Generation

/-! ### Runs -/

/-- The state of the connection after some attempts is the one in which the last of them leaves it. -/
theorem connection_of_generations {gs : List Generation} {i : Nat} {g : Generation} (h : gs[i]? = some g)
    (s : Station) :
    (((gs.take (i + 1)).flatMap Generation.effects).foldl (fun (s : Station) e => (s.apply e).1) s).connection =
      g.leaves := by
  obtain ⟨hi, rfl⟩ := List.getElem?_eq_some_iff.1 h
  rw [connection_foldl, List.filterMap_flatMap]
  simp only [Generation.filterMap_announced_effects]
  rw [List.take_succ_eq_append_getElem hi, List.flatMap_append, List.flatMap_singleton, List.getLast?_append,
    Generation.getLast?_states]
  rfl

/-- What is true of the states that are announced in a run, and of the state between attempts. -/
structure Announced (effects : List Effect) (gs : List Generation) : Prop where
  effects_eq : effects = gs.flatMap Generation.effects ++ [.announce .closed]
  /-- Nothing is announced besides the states of the attempts, and in the end the connection is closed. -/
  states_eq : effects.filterMap Effect.announced? = gs.flatMap Generation.states ++ [.closed]
  connecting : ∀ g ∈ gs, g.effects.head? = some (.announce .connecting)
  /-- In an attempt states follow one another in their order. -/
  ordered : ∀ g ∈ gs, g.effects.filterMap Effect.announced? = g.states ∧ g.states.IsChain Leads
  /-- Between an attempt and the next one the connection is in the state in which the attempt has left it. -/
  waiting : ∀ i g s, gs[i]? = some g →
    (((gs.take (i + 1)).flatMap Generation.effects).foldl (fun (s : Station) e => (s.apply e).1) s).connection =
      g.leaves
  /-- This state says that there is no connection, unless the other side has closed the connection. -/
  ended : ∀ g ∈ gs, ¬ g.attempt.Stops → g.attempt.outcome.2 ≠ .closed → g.leaves.isOver = true
  /-- A connection that the other side has closed is left in the state in which it was. -/
  unannounced : ∀ g ∈ gs, g.attempt.outcome.2 = .closed →
    g.leaves = if g.attempt.welcomes = 0 then .connecting else .streaming

/--
In every attempt the states of the connection follow one another in their order.  Until the next attempt the connection
is in the state in which the attempt has left it, which is an end of the connection unless the other side has closed it.
-/
theorem announced_run (defaultUrl : String) (attempts : List Attempt) :
    Announced (run defaultUrl none 0 attempts).1 (generations defaultUrl none 0 attempts) where
  effects_eq := by rw [run_eq]
  states_eq := by
    rw [run_eq, List.filterMap_append, List.filterMap_flatMap]
    simp only [Generation.filterMap_announced_effects]
    rfl
  connecting g _ := by
    rw [Generation.effects, attempt]
    cases g.attempt.connecting <;> rfl
  ordered g _ := ⟨g.filterMap_announced_effects, g.isChain_states⟩
  waiting _ _ s h := connection_of_generations h s
  ended _ _ hstops hclosed := Generation.isOver_leaves hstops hclosed
  unannounced g _ hclosed := by rw [Generation.leaves, hclosed]

/-- A connection that is welcomed and then closed by the other side, and one that is not made. -/
def closedByFeed : List Attempt :=
  [⟨.established,
      [.frame
        ("\x7b\"metadata\":\x7b\"message_type\":\"session_welcome\"\x7d," ++
          "\"payload\":\x7b\"session\":\x7b\"id\":\"1\"\x7d\x7d\x7d") {},
        .closed],
      false⟩,
    ⟨.failed, [], false⟩]

/-- While the program waits after the first of these attempts the connection is streaming, as if it were there. -/
theorem announced_run_closedByFeed :
    (run "feed" none 0 closedByFeed).1.filterMap Effect.announced? =
        [.connecting, .subscribing, .streaming, .connecting, .error, .closed] ∧
      ConnectionState.streaming.isOver = false ∧
      ∃ g, (generations "feed" none 0 closedByFeed)[0]? = some g ∧ ¬ g.attempt.Stops ∧
        ∀ s : Station, (g.effects.foldl (fun (s : Station) e => (s.apply e).1) s).connection = .streaming := by
  refine ⟨by decide +kernel, rfl, _, rfl, by decide +kernel, fun s => ?_⟩
  rw [connection_foldl]
  have hlast : (Generation.effects ⟨1, "feed", closedByFeed.head nofun⟩).filterMap Effect.announced? =
      [.connecting, .subscribing, .streaming] := by
    decide +kernel
  exact congrArg (fun states => states.getLast?.getD s.connection) hlast

end Ingestion

end ChatModeration
