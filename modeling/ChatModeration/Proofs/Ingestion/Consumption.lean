import ChatModeration.Ingestion
import Mathlib.Data.List.Basic

/-!
# What ingestion consumes

The arrivals that ingestion consumes are those of each connection up to the one that ends it (`session`), one
connection after the other until the program stops (`consumed`).  What is done besides the upkeep of the connections
is what these arrivals lead to, in their order (`filter_isDeed_run`).  Every message among them is dispatched, but for
one that may have found the queue full when the program stopped (`dispatched_run`).
-/

namespace ChatModeration.Ingestion

open Feed (FeedEvent)

/-! ### Arrivals that are consumed -/

namespace Arrival

/-- The event that is reported, if it can be decoded. -/
def event? : Arrival → Option FeedEvent
  | frame text _ => (FeedEvent.decode text).toOption
  | _ => none

/-- How the connection ends with an arrival, if it does. -/
def ending? : Arrival → Option ConnectionEnd
  | frame text c =>
    match (frame text c).event? with
    | some (.reconnect url) => some (.reconnect url)
    | some (.chatMessage _) | some (.automodHold _) => if c.queueStuck then some .shutdown else none
    | _ => none
  | readError => some .failed
  | closed => some .closed
  | shutdown => some .shutdown

/-- What an arrival leads to. -/
def effects : Arrival → List Effect
  | frame text c => (Ingestion.frame c text).1
  | _ => []

theorem frame_eq (c : Conditions) (text : String) :
    Ingestion.frame c text = ((frame text c).effects, (frame text c).ending?) := by
  refine Prod.ext rfl ?_
  simp only [Ingestion.frame, ending?, event?]
  cases FeedEvent.decode text with
  | error e => rfl
  | ok event =>
    cases event with
    | chatMessage m | automodHold m =>
      simp only [route]
      split <;> rfl
    | _ => rfl

end Arrival

/-- The arrivals up to the one that ends the connection, and how it ends.  After the last one the other side closes
it. -/
def session : List Arrival → List Arrival × ConnectionEnd
  | [] => ([], .closed)
  | a :: rest =>
    match a.ending? with
    | some ending => ([a], ending)
    | none => (a :: (session rest).1, (session rest).2)

/-- The arrivals of an attempt that are consumed, and how it ends. -/
def Attempt.outcome (a : Attempt) : List Arrival × ConnectionEnd :=
  match a.connecting with
  | .established => session a.arrivals
  | .failed | .unstaffed _ => ([], .failed)
  | .interrupted => ([], .shutdown)

/-- The arrivals of all attempts until the program stops. -/
def consumed : List Attempt → List Arrival
  | [] => []
  | a :: rest => a.outcome.1 ++ if a.outcome.2 = .shutdown then [] else consumed rest

/-- The events of all frames that are consumed. -/
def heard (attempts : List Attempt) : List FeedEvent := (consumed attempts).filterMap Arrival.event?

theorem stream_cons (a : Arrival) (rest : List Arrival) :
    stream (a :: rest) = stream.andThen (a.effects, a.ending?) (stream rest) := by
  cases a with
  | frame text c => rw [stream, Arrival.frame_eq]
  | _ => rfl

/-! ### What is done -/

/-- Whether an effect belongs to an event, and not to the upkeep of the connection. -/
def Effect.isDeed : Effect → Bool
  | subscribe _ | setLive _ | setInfo .. | startWindow | endWindow | countMessage _ | countModeratorAction
  | dispatch _ => true
  | announce _ | connect _ | startWorkers _ | startFails .. | read | close | joinWorkers _ | report _ => false

/-- What an arrival leads to, but for the upkeep. -/
def Arrival.deeds (a : Arrival) : List Effect := a.effects.filter Effect.isDeed

theorem filter_isDeed_closing (a : Attempt) : a.closing.filter Effect.isDeed = [] := by
  rw [Attempt.closing]
  split <;> rfl

theorem filter_isDeed_stream (arrivals : List Arrival) :
    (stream arrivals).1.filter Effect.isDeed = (session arrivals).1.flatMap Arrival.deeds ∧
      (stream arrivals).2 = (session arrivals).2 := by
  induction arrivals with
  | nil => exact ⟨rfl, rfl⟩
  | cons a rest ih =>
    obtain ⟨heffects, hending⟩ := ih
    rw [stream_cons, session]
    cases a.ending? with
    | some ending => exact ⟨by simp [stream.andThen, Effect.isDeed, Arrival.deeds], rfl⟩
    | none =>
      refine ⟨?_, hending⟩
      simp only [stream.andThen, List.cons_append, List.filter_cons, Effect.isDeed, List.filter_append, heffects,
        List.flatMap_cons, Arrival.deeds]
      rfl

theorem filter_isDeed_attempt (generation : Nat) (url : String) (a : Attempt) :
    (attempt generation url a).1.filter Effect.isDeed = a.outcome.1.flatMap Arrival.deeds ∧
      (attempt generation url a).2 = a.outcome.2 := by
  have hclosing := filter_isDeed_closing a
  obtain ⟨heffects, hending⟩ := filter_isDeed_stream a.arrivals
  cases hc : a.connecting with
  | established => simp [attempt, Attempt.outcome, hc, Effect.isDeed, hclosing, heffects, hending]
  | unstaffed => simp [attempt, Attempt.outcome, hc, Effect.isDeed, hclosing]
  | failed | interrupted => simp [attempt, Attempt.outcome, hc, Effect.isDeed]

/-- What is done after an attempt, by how it has ended. -/
def resume (defaultUrl : String) (generation : Nat) (rest : List Attempt) : ConnectionEnd → List Effect × Nat
  | .shutdown => ([.announce .closed], generation)
  | .reconnect url => run defaultUrl url generation rest
  | .closed => run defaultUrl none generation rest
  | .failed =>
    (.announce .error :: (run defaultUrl none generation rest).1, (run defaultUrl none generation rest).2)

theorem run_cons (defaultUrl : String) (nextUrl : Option String) (generation : Nat) (a : Attempt)
    (rest : List Attempt) :
    run defaultUrl nextUrl generation (a :: rest) =
      ((attempt (generation + 1) (nextUrl.getD defaultUrl) a).1 ++
          (resume defaultUrl (generation + 1) rest (attempt (generation + 1) (nextUrl.getD defaultUrl) a).2).1,
        (resume defaultUrl (generation + 1) rest (attempt (generation + 1) (nextUrl.getD defaultUrl) a).2).2) := by
  rw [run]
  obtain ⟨effects, ending⟩ := attempt (generation + 1) (nextUrl.getD defaultUrl) a
  cases ending <;> rfl

/-- What is done besides upkeep is what the consumed arrivals lead to, in their order. -/
theorem filter_isDeed_run (defaultUrl : String) (nextUrl : Option String) (generation : Nat)
    (attempts : List Attempt) :
    (run defaultUrl nextUrl generation attempts).1.filter Effect.isDeed =
      (consumed attempts).flatMap Arrival.deeds := by
  induction attempts generalizing nextUrl generation with
  | nil => rfl
  | cons a rest ih =>
    obtain ⟨heffects, hending⟩ := filter_isDeed_attempt (generation + 1) (nextUrl.getD defaultUrl) a
    have hresume : (resume defaultUrl (generation + 1) rest a.outcome.2).1.filter Effect.isDeed =
        (if a.outcome.2 = .shutdown then [] else consumed rest).flatMap Arrival.deeds := by
      cases a.outcome.2 with
      | shutdown => rfl
      | reconnect url => exact ih url (generation + 1)
      | closed => exact ih none (generation + 1)
      | failed => exact ih none (generation + 1)
    rw [run_cons, List.filter_append, heffects, hending, hresume, consumed, List.flatMap_append]

/-- What is picked out of the effects is picked out of what the consumed arrivals lead to. -/
theorem filterMap_run {β : Type} {p : Effect → Option β} (hp : ∀ e, e.isDeed = false → p e = none)
    (defaultUrl : String) (nextUrl : Option String) (generation : Nat) (attempts : List Attempt) :
    (run defaultUrl nextUrl generation attempts).1.filterMap p =
      (consumed attempts).flatMap fun a => a.effects.filterMap p := by
  have hdeeds : ∀ effects : List Effect, (effects.filter Effect.isDeed).filterMap p = effects.filterMap p := by
    intro effects
    rw [List.filterMap_filter]
    refine List.filterMap_congr fun e _ => ?_
    by_cases he : e.isDeed = true
    · rw [if_pos he]
    · rw [if_neg he, hp e (Bool.eq_false_iff.2 he)]
  rw [← hdeeds, filter_isDeed_run, List.filterMap_flatMap]
  exact List.flatMap_congr fun a _ => hdeeds a.effects

/-- The effects make the same of a state as what the consumed arrivals lead to. -/
theorem foldl_run {σ : Type} {f : σ → Effect → σ} (hf : ∀ s e, e.isDeed = false → f s e = s)
    (defaultUrl : String) (nextUrl : Option String) (generation : Nat) (attempts : List Attempt) (s : σ) :
    (run defaultUrl nextUrl generation attempts).1.foldl f s =
      (consumed attempts).foldl (fun s a => a.effects.foldl f s) s := by
  have hdeeds : ∀ (effects : List Effect) (s : σ), (effects.filter Effect.isDeed).foldl f s = effects.foldl f s := by
    intro effects s
    rw [List.foldl_filter]
    refine List.foldl_ext _ _ s fun s e _ => ?_
    by_cases he : e.isDeed = true
    · rw [if_pos he]
    · rw [if_neg he, hf s e (Bool.eq_false_iff.2 he)]
  rw [← hdeeds, filter_isDeed_run, List.foldl_flatMap]
  exact List.foldl_ext _ _ s fun s a _ => hdeeds a.effects s

/-! ### Messages -/

/-- The message of a chat message or a hold. -/
def message? : FeedEvent → Option ChatMessage
  | .chatMessage m | .automodHold m => some m
  | _ => none

/-- The message that is dispatched. -/
def Effect.dispatched? : Effect → Option ChatMessage
  | dispatch m => some m
  | _ => none

/-- The message that has found the queue full when the program stopped. -/
def Arrival.abandoned? : Arrival → Option ChatMessage
  | frame text c => if c.queueStuck then (FeedEvent.decode text).toOption.bind message? else none
  | _ => none

/-- The message whose dispatch has been abandoned, if there is one. -/
def abandoned? (attempts : List Attempt) : Option ChatMessage := (consumed attempts).getLast?.bind Arrival.abandoned?

/-- The message that an arrival brings. -/
def Arrival.message? (a : Arrival) : Option ChatMessage := a.event?.bind Ingestion.message?

/-- A message is dispatched or abandoned. -/
theorem Arrival.dispatched_append (a : Arrival) :
    a.effects.filterMap Effect.dispatched? ++ a.abandoned?.toList = a.message?.toList := by
  cases a with
  | frame text c =>
    simp only [effects, abandoned?, message?, event?, Ingestion.frame]
    cases FeedEvent.decode text with
    | error e => cases c.queueStuck <;> rfl
    | ok event =>
      cases event with
      | chatMessage m | automodHold m =>
        simp only [route, Except.toOption]
        cases c.queueStuck <;> rfl
      | sessionWelcome id =>
        simp only [route, Except.toOption]
        cases c.queueStuck <;> cases c.subscriptionFails <;> rfl
      | _ => cases c.queueStuck <;> rfl
  | _ => rfl

/-- An arrival whose message is abandoned ends the connection with the program. -/
theorem Arrival.ending_of_abandoned {a : Arrival} (h : a.abandoned? ≠ none) : a.ending? = some .shutdown := by
  cases a with
  | frame text c =>
    simp only [abandoned?, ending?, event?] at h ⊢
    cases hstuck : c.queueStuck with
    | false => simp [hstuck] at h
    | true =>
      cases hevent : FeedEvent.decode text with
      | error e => simp [hstuck, hevent, Except.toOption] at h
      | ok event =>
        cases event with
        | chatMessage m | automodHold m => rfl
        | _ => simp [hstuck, hevent, Except.toOption, Ingestion.message?] at h
  | _ => exact absurd rfl h

/-- Only the last arrival of a connection ends it. -/
theorem ending_of_mem_dropLast_session {arrivals : List Arrival} {a : Arrival}
    (h : a ∈ (session arrivals).1.dropLast) : a.ending? = none := by
  induction arrivals with
  | nil => simp [session] at h
  | cons b rest ih =>
    rw [session] at h
    cases hb : b.ending? with
    | some ending => simp [hb] at h
    | none =>
      simp only [hb] at h
      cases hrest : (session rest).1 with
      | nil => simp [hrest] at h
      | cons c more =>
        rw [hrest, List.dropLast_cons_cons] at h
        rcases List.mem_cons.1 h with rfl | h
        · exact hb
        · exact ih (hrest ▸ h)

/-- An arrival ends its connection in the way the connection ends. -/
theorem ending_of_mem_session {arrivals : List Arrival} {a : Arrival} {ending : ConnectionEnd}
    (h : a ∈ (session arrivals).1) (ha : a.ending? = some ending) : (session arrivals).2 = ending := by
  induction arrivals with
  | nil => simp [session] at h
  | cons b rest ih =>
    rw [session] at h ⊢
    cases hb : b.ending? with
    | some other =>
      simp only [hb, List.mem_singleton] at h
      subst h
      exact Option.some.inj (hb.symm.trans ha)
    | none =>
      simp only [hb] at h
      rcases List.mem_cons.1 h with rfl | h
      · rw [hb] at ha
        cases ha
      · exact ih h

theorem ending_of_mem_dropLast_outcome {a : Attempt} {b : Arrival} (h : b ∈ a.outcome.1.dropLast) :
    b.ending? = none := by
  rw [Attempt.outcome] at h
  cases hc : a.connecting with
  | established =>
    rw [hc] at h
    exact ending_of_mem_dropLast_session h
  | _ => simp [hc] at h

theorem ending_of_mem_outcome {a : Attempt} {b : Arrival} {ending : ConnectionEnd} (h : b ∈ a.outcome.1)
    (hb : b.ending? = some ending) : a.outcome.2 = ending := by
  rw [Attempt.outcome] at h ⊢
  cases hc : a.connecting with
  | established =>
    rw [hc] at h
    exact ending_of_mem_session h hb
  | _ => simp [hc] at h

/-- Nothing is consumed after an arrival with which the program stops. -/
theorem ending_of_mem_dropLast_consumed {attempts : List Attempt} {b : Arrival}
    (h : b ∈ (consumed attempts).dropLast) : b.ending? ≠ some .shutdown := by
  induction attempts with
  | nil => simp [consumed] at h
  | cons a rest ih =>
    rw [consumed] at h
    by_cases hstop : a.outcome.2 = .shutdown
    · rw [if_pos hstop, List.append_nil] at h
      rw [ending_of_mem_dropLast_outcome h]
      nofun
    · rw [if_neg hstop] at h
      by_cases hnil : consumed rest = []
      · rw [hnil, List.append_nil] at h
        rw [ending_of_mem_dropLast_outcome h]
        nofun
      · rw [List.dropLast_append_of_ne_nil hnil] at h
        rcases List.mem_append.1 h with h | h
        · intro hb
          exact hstop (ending_of_mem_outcome h hb)
        · exact ih h

/-- Of several arrivals, of which only the last one may be abandoned, every message is dispatched or abandoned. -/
theorem dispatched_append_abandoned {arrivals : List Arrival} (h : ∀ a ∈ arrivals.dropLast, a.abandoned? = none) :
    (arrivals.flatMap fun a => a.effects.filterMap Effect.dispatched?) ++
        (arrivals.getLast?.bind Arrival.abandoned?).toList =
      arrivals.filterMap Arrival.message? := by
  induction arrivals with
  | nil => rfl
  | cons a rest ih =>
    have hfirst := a.dispatched_append
    cases rest with
    | nil =>
      simp only [List.flatMap_cons, List.flatMap_nil, List.append_nil, List.getLast?_singleton, Option.bind_some,
        hfirst]
      cases hm : a.message? with
      | none => rw [List.filterMap_cons_none hm]; rfl
      | some m => rw [List.filterMap_cons_some hm]; rfl
    | cons b more =>
      rw [List.dropLast_cons_cons, List.forall_mem_cons] at h
      rw [h.1, Option.toList_none, List.append_nil] at hfirst
      rw [List.flatMap_cons, List.getLast?_cons_cons, List.append_assoc, ih h.2, hfirst]
      cases hm : a.message? with
      | none => rw [List.filterMap_cons_none hm]; rfl
      | some m => rw [List.filterMap_cons_some hm]; rfl

/-- The messages that are dispatched, and the one that is abandoned if there is one, are those of the events. -/
theorem dispatched_run (defaultUrl : String) (nextUrl : Option String) (generation : Nat)
    (attempts : List Attempt) :
    (run defaultUrl nextUrl generation attempts).1.filterMap Effect.dispatched? ++ (abandoned? attempts).toList =
      (heard attempts).filterMap message? := by
  have hdeed : ∀ e : Effect, e.isDeed = false → e.dispatched? = none := by
    intro e he
    cases e with
    | dispatch m => contradiction
    | _ => rfl
  have hlast : ∀ a ∈ (consumed attempts).dropLast, a.abandoned? = none := by
    intro a ha
    by_contra hsome
    exact ending_of_mem_dropLast_consumed ha (Arrival.ending_of_abandoned hsome)
  rw [filterMap_run hdeed, abandoned?, dispatched_append_abandoned hlast, heard, List.filterMap_filterMap]
  rfl

end ChatModeration.Ingestion
