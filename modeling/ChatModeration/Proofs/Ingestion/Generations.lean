import ChatModeration.Proofs.Ingestion.Consumption

/-!
# Connections one after the other

Ingestion starts one attempt after the other until the program stops (`generations`), and all it does is what is done
in these attempts (`run_eq`).  Attempts are numbered in their order, each of them but the first goes to the address that
the feed has given at the end of the one before, if it has given one, and a connection that is made is closed once
before the next attempt (`filter_isMilestone_run`).
-/

namespace ChatModeration.Ingestion

open Feed (FeedEvent)

/-! ### Attempts that are started -/

/-- The address for the next attempt, if the feed has given one. -/
def ConnectionEnd.address? : ConnectionEnd → Option String
  | reconnect url => url
  | closed | failed | shutdown => none

/-- What is announced before the next attempt. -/
def ConnectionEnd.announced : ConnectionEnd → List Effect
  | failed => [.announce .error]
  | reconnect _ | closed | shutdown => []

/-- Whether the program stops in an attempt. -/
def Attempt.Stops (a : Attempt) : Prop := a.outcome.2 = .shutdown

instance (a : Attempt) : Decidable a.Stops := inferInstanceAs (Decidable (_ = _))

/-- The attempts that are started until the program stops. -/
def started : List Attempt → List Attempt
  | [] => []
  | a :: rest => a :: if a.Stops then [] else started rest

/-- An attempt that is started, with its number and the address that it goes to. -/
structure Generation where
  number : Nat
  url : String
  attempt : Attempt
deriving DecidableEq, Repr

/-- The attempts that are started until the program stops, after some others and with an address for the first one. -/
def generations (defaultUrl : String) (nextUrl : Option String) (generation : Nat) : List Attempt → List Generation
  | [] => []
  | a :: rest =>
    ⟨generation + 1, nextUrl.getD defaultUrl, a⟩ ::
      if a.Stops then [] else generations defaultUrl a.outcome.2.address? (generation + 1) rest

namespace Generation

/-- What is done in an attempt and announced after it. -/
def effects (g : Generation) : List Effect :=
  (Ingestion.attempt g.number g.url g.attempt).1 ++ g.attempt.outcome.2.announced

/-- What is done in an attempt with the connection and the workers. -/
def milestones (g : Generation) : List Effect :=
  .connect g.url ::
    match g.attempt.connecting with
    | .established => [.startWorkers g.number, .close, .joinWorkers g.number]
    | .unstaffed started => [.startFails g.number started, .close]
    | .failed | .interrupted => []

end Generation

section Generations

variable {defaultUrl : String} {nextUrl : Option String} {generation : Nat}

theorem map_attempt_generations (attempts : List Attempt) :
    (generations defaultUrl nextUrl generation attempts).map (·.attempt) = started attempts := by
  induction attempts generalizing nextUrl generation with
  | nil => rfl
  | cons a rest ih =>
    rw [generations, started, List.map_cons]
    split
    · rfl
    · rw [ih]

theorem map_number_generations (attempts : List Attempt) :
    (generations defaultUrl nextUrl generation attempts).map (·.number) =
      List.range' (generation + 1) (started attempts).length := by
  induction attempts generalizing nextUrl generation with
  | nil => rfl
  | cons a rest ih =>
    rw [generations, started, List.map_cons]
    split
    · rfl
    · rw [ih, List.length_cons, List.range'_succ]

theorem url_of_head? {attempts : List Attempt} {g : Generation}
    (h : (generations defaultUrl nextUrl generation attempts).head? = some g) : g.url = nextUrl.getD defaultUrl := by
  cases attempts with
  | nil => cases h
  | cons a rest =>
    rw [generations] at h
    cases h
    rfl

/-- An attempt goes to the address that the one before has ended with. -/
theorem url_of_getElem?_succ {attempts : List Attempt} {i : Nat} {g g' : Generation}
    (h : (generations defaultUrl nextUrl generation attempts)[i]? = some g)
    (h' : (generations defaultUrl nextUrl generation attempts)[i + 1]? = some g') :
    g'.url = g.attempt.outcome.2.address?.getD defaultUrl := by
  induction attempts generalizing nextUrl generation i with
  | nil => cases h
  | cons a rest ih =>
    rw [generations] at h h'
    rw [List.getElem?_cons_succ] at h'
    by_cases hstops : a.Stops
    · rw [if_pos hstops] at h'
      cases h'
    · rw [if_neg hstops] at h h'
      cases i with
      | zero =>
        cases h
        exact url_of_head? (List.head?_eq_getElem?.trans h')
      | succ i => exact ih h h'

/-- An address is used once. -/
example :
    let request := "\x7b\"metadata\":\x7b\"message_type\":\"session_reconnect\"\x7d," ++
      "\"payload\":\x7b\"session\":\x7b\"id\":\"1\",\"reconnect_url\":\"other\"\x7d\x7d\x7d"
    (generations "feed" none 0
      [⟨.failed, [], false⟩, ⟨.established, [.frame request {}], false⟩, ⟨.established, [.closed], false⟩,
        ⟨.interrupted, [], false⟩]).map (·.url) = ["feed", "feed", "other", "feed"] := by
  decide +kernel

theorem resume_eq {ending : ConnectionEnd} (h : ending ≠ .shutdown) (rest : List Attempt) :
    resume defaultUrl generation rest ending =
      (ending.announced ++ (run defaultUrl ending.address? generation rest).1,
        (run defaultUrl ending.address? generation rest).2) := by
  cases ending with
  | shutdown => exact absurd rfl h
  | reconnect url | closed | failed => rfl

/-- What ingestion does is what is done in the attempts, and their number is the last one. -/
theorem run_eq (attempts : List Attempt) :
    run defaultUrl nextUrl generation attempts =
      ((generations defaultUrl nextUrl generation attempts).flatMap Generation.effects ++ [.announce .closed],
        generation + (started attempts).length) := by
  induction attempts generalizing nextUrl generation with
  | nil => rfl
  | cons a rest ih =>
    have hending := (filter_isDeed_attempt (generation + 1) (nextUrl.getD defaultUrl) a).2
    rw [run_cons, hending, generations, started, List.flatMap_cons, Generation.effects]
    -- how the attempt ends says whether there is another one, and where it goes
    by_cases hstops : a.Stops
    · have hshutdown : a.outcome.2 = .shutdown := hstops
      rw [if_pos hstops, if_pos hstops, hshutdown]
      simp [resume, ConnectionEnd.announced]
    · rw [if_neg hstops, if_neg hstops, resume_eq hstops, ih, List.length_cons]
      simp only [List.append_assoc, Nat.add_assoc, Nat.add_comm 1]

/-- Nothing is started after an attempt in which the program stops. -/
theorem generations_of_stops {attempts : List Attempt} (h : ∃ a ∈ attempts, a.Stops) (more : List Attempt) :
    generations defaultUrl nextUrl generation (attempts ++ more) =
      generations defaultUrl nextUrl generation attempts := by
  induction attempts generalizing nextUrl generation with
  | nil => simp at h
  | cons a rest ih =>
    rw [List.cons_append, generations, generations]
    by_cases hstops : a.Stops
    · rw [if_pos hstops, if_pos hstops]
    · obtain ⟨b, hb, hbstops⟩ := h
      have hrest : b ∈ rest := (List.mem_cons.1 hb).resolve_left fun heq => hstops (heq ▸ hbstops)
      rw [if_neg hstops, if_neg hstops, ih ⟨b, hrest, hbstops⟩]

/-- As long as the program does not stop, the next attempt is started. -/
theorem generations_of_not_stops {attempts : List Attempt} (h : ∀ a ∈ attempts, ¬ a.Stops) (more : List Attempt) :
    ∃ later, generations defaultUrl nextUrl generation (attempts ++ more) =
        generations defaultUrl nextUrl generation attempts ++ later ∧ later.map (·.attempt) = started more := by
  induction attempts generalizing nextUrl generation with
  | nil => exact ⟨_, rfl, map_attempt_generations more⟩
  | cons a rest ih =>
    obtain ⟨hstops, hrest⟩ := List.forall_mem_cons.1 h
    have hmore : ∃ later, generations defaultUrl a.outcome.2.address? (generation + 1) (rest ++ more) =
        generations defaultUrl a.outcome.2.address? (generation + 1) rest ++ later ∧
          later.map (·.attempt) = started more := ih hrest
    obtain ⟨later, heq, hlater⟩ := hmore
    rw [List.cons_append, generations, generations, if_neg hstops, if_neg hstops, heq]
    exact ⟨later, rfl, hlater⟩

end Generations

/-! ### How attempts end -/

theorem Arrival.ending_eq_reconnect_iff {a : Arrival} {url : Option String} :
    a.ending? = some (.reconnect url) ↔ a.event? = some (.reconnect url) := by
  cases a with
  | frame text c =>
    simp only [ending?]
    cases (frame text c).event? with
    | none => simp
    | some event => cases event <;> simp [ite_eq_iff]
  | _ => simp [ending?, event?]

/-- An arrival stops the program if it says so, or if its message finds the queue full. -/
theorem Arrival.ending_eq_shutdown_iff {a : Arrival} :
    a.ending? = some .shutdown ↔ a = .shutdown ∨ a.abandoned?.isSome := by
  constructor
  · intro h
    cases a with
    | frame text c =>
      refine .inr ?_
      simp only [ending?, event?] at h
      simp only [abandoned?]
      cases hevent : FeedEvent.decode text with
      | error e => simp [hevent, Except.toOption] at h
      | ok event =>
        rw [hevent] at h
        cases event with
        | chatMessage m | automodHold m =>
          cases hstuck : c.queueStuck with
          | true => rfl
          | false => simp [hstuck, Except.toOption] at h
        | _ => simp [Except.toOption] at h
    | shutdown => exact .inl rfl
    | _ => simp [ending?] at h
  · rintro (rfl | h)
    · rfl
    · exact ending_of_abandoned (Option.isSome_iff_ne_none.1 h)

/-- A connection that is not just closed ends with an arrival. -/
theorem exists_ending_of_session {arrivals : List Arrival} {ending : ConnectionEnd}
    (h : (session arrivals).2 = ending) (hne : ending ≠ .closed) :
    ∃ a ∈ (session arrivals).1, a.ending? = some ending := by
  induction arrivals with
  | nil => exact absurd h.symm hne
  | cons a rest ih =>
    rw [session] at h ⊢
    cases ha : a.ending? with
    | some other =>
      simp only [ha] at h ⊢
      exact ⟨a, List.mem_singleton_self a, h ▸ ha⟩
    | none =>
      simp only [ha] at h ⊢
      obtain ⟨b, hb, hending⟩ := ih h
      exact ⟨b, List.mem_cons_of_mem a hb, hending⟩

/-- The feed asks to connect again if a frame says so. -/
theorem Attempt.outcome_eq_reconnect_iff {a : Attempt} {url : Option String} :
    a.outcome.2 = .reconnect url ↔ ∃ b ∈ a.outcome.1, b.event? = some (.reconnect url) := by
  constructor
  · intro h
    rw [outcome] at h ⊢
    cases hc : a.connecting with
    | established =>
      rw [hc] at h
      obtain ⟨b, hb, hending⟩ := exists_ending_of_session h (by simp)
      exact ⟨b, hb, Arrival.ending_eq_reconnect_iff.1 hending⟩
    | failed | unstaffed | interrupted => simp [hc] at h
  · rintro ⟨b, hb, hevent⟩
    exact ending_of_mem_outcome hb (Arrival.ending_eq_reconnect_iff.2 hevent)

/-- The program stops while a connection is made, or with an arrival. -/
theorem Attempt.stops_iff {a : Attempt} :
    a.Stops ↔ a.connecting = .interrupted ∨ ∃ b ∈ a.outcome.1, b = .shutdown ∨ b.abandoned?.isSome := by
  constructor
  · intro h
    rw [Stops, outcome] at h
    rw [outcome]
    cases hc : a.connecting with
    | established =>
      rw [hc] at h
      obtain ⟨b, hb, hending⟩ := exists_ending_of_session h (by simp)
      exact .inr ⟨b, hb, Arrival.ending_eq_shutdown_iff.1 hending⟩
    | interrupted => exact .inl rfl
    | failed | unstaffed => simp [hc] at h
  · rintro (h | ⟨b, hb, hstops⟩)
    · rw [Stops, outcome, h]
    · exact ending_of_mem_outcome hb (Arrival.ending_eq_shutdown_iff.2 hstops)

/-- The address that the feed has given is that of a frame that asks to connect again. -/
theorem Attempt.address_eq_some_iff {a : Attempt} {url : String} :
    a.outcome.2.address? = some url ↔ ∃ b ∈ a.outcome.1, b.event? = some (.reconnect (some url)) := by
  rw [← outcome_eq_reconnect_iff]
  cases a.outcome.2 with
  | reconnect given => simp [ConnectionEnd.address?]
  | closed | failed | shutdown => simp [ConnectionEnd.address?]


section Requests

variable {defaultUrl : String} {attempts : List Attempt} {i : Nat} {g g' : Generation}

/-- The address that a frame asks to connect to is that of the next attempt. -/
theorem url_of_requested (hg : (generations defaultUrl none 0 attempts)[i]? = some g)
    (hg' : (generations defaultUrl none 0 attempts)[i + 1]? = some g') {a : Arrival} {url : String}
    (ha : a ∈ g.attempt.outcome.1) (hevent : a.event? = some (.reconnect (some url))) : g'.url = url := by
  rw [url_of_getElem?_succ hg hg', Attempt.address_eq_some_iff.2 ⟨a, ha, hevent⟩, Option.getD_some]

/-- Where no frame asks to connect to another address the next attempt goes to the default address. -/
theorem url_of_not_requested (hg : (generations defaultUrl none 0 attempts)[i]? = some g)
    (hg' : (generations defaultUrl none 0 attempts)[i + 1]? = some g')
    (hnone : ∀ a ∈ g.attempt.outcome.1, ∀ url, a.event? ≠ some (.reconnect (some url))) : g'.url = defaultUrl := by
  have haddress : g.attempt.outcome.2.address? = none := by
    by_contra hsome
    obtain ⟨url, hurl⟩ := Option.ne_none_iff_exists'.1 hsome
    obtain ⟨a, ha, hevent⟩ := Attempt.address_eq_some_iff.1 hurl
    exact hnone a ha url hevent
  rw [url_of_getElem?_succ hg hg', haddress, Option.getD_none]

end Requests

/-! ### Connections -/

/-- Whether an effect opens or closes a connection, or starts its workers or waits for their end. -/
def Effect.isMilestone : Effect → Bool
  | connect _ | startWorkers _ | startFails .. | close | joinWorkers _ => true
  | announce _ | read | subscribe _ | setLive _ | setInfo .. | startWindow | endWindow | countMessage _
  | countModeratorAction | dispatch _ | report _ => false

theorem Arrival.filter_isMilestone_effects (a : Arrival) : a.effects.filter Effect.isMilestone = [] := by
  cases a with
  | frame text c =>
    rw [effects, Ingestion.frame]
    cases FeedEvent.decode text with
    | error e => rfl
    | ok event =>
      cases event with
      | chatMessage m | automodHold m =>
        simp only [route]
        split <;> rfl
      | sessionWelcome id =>
        simp only [route]
        split <;> rfl
      | _ => rfl
  | _ => rfl

theorem filter_isMilestone_stream (arrivals : List Arrival) :
    (stream arrivals).1.filter Effect.isMilestone = [] := by
  induction arrivals with
  | nil => rfl
  | cons a rest ih =>
    rw [stream_cons]
    cases a.ending? with
    | some ending => exact a.filter_isMilestone_effects
    | none =>
      have hboth : (a.effects ++ (stream rest).1).filter Effect.isMilestone = [] := by
        rw [List.filter_append, a.filter_isMilestone_effects, ih]
        rfl
      exact hboth

theorem filter_isMilestone_closing (a : Attempt) : a.closing.filter Effect.isMilestone = [.close] := by
  rw [Attempt.closing]
  split <;> rfl

/-- A connection that is made is closed once, and its workers have ended when the attempt is over. -/
theorem Generation.filter_isMilestone_effects (g : Generation) :
    g.effects.filter Effect.isMilestone = g.milestones := by
  have hannounced : g.attempt.outcome.2.announced.filter Effect.isMilestone = [] := by
    cases g.attempt.outcome.2 <;> rfl
  rw [effects, List.filter_append, hannounced, List.append_nil, milestones]
  cases hc : g.attempt.connecting with
  | established =>
    simp [Ingestion.attempt, hc, List.filter_cons, Effect.isMilestone, filter_isMilestone_stream, filter_isMilestone_closing]
  | unstaffed => simp [Ingestion.attempt, hc, List.filter_cons, Effect.isMilestone, filter_isMilestone_closing]
  | failed | interrupted => simp [Ingestion.attempt, hc, Effect.isMilestone]

theorem filter_isMilestone_run (defaultUrl : String) (nextUrl : Option String) (generation : Nat)
    (attempts : List Attempt) :
    (run defaultUrl nextUrl generation attempts).1.filter Effect.isMilestone =
      (generations defaultUrl nextUrl generation attempts).flatMap Generation.milestones := by
  rw [run_eq, List.filter_append, List.filter_flatMap]
  simp only [Generation.filter_isMilestone_effects]
  exact List.append_nil _

end ChatModeration.Ingestion
