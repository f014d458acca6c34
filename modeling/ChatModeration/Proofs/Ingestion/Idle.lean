import ChatModeration.Proofs.Ingestion.Consumption

/-!
# Frames that make no difference

Frames that cannot be decoded, keepalives, revocations and frames of unknown kinds lead to nothing but a report
(`Arrival.isIdle`), and so do subscriptions and closings that fail.  Without all of these an attempt is bare
(`Attempt.bare`).  Attempts that are the same when they are bare are dealt with in the same way
(`run_eq_of_bare_eq`).
-/

namespace ChatModeration.Ingestion

open Feed (FeedEvent)

/-- Whether an event leads to nothing. -/
def isIdle : FeedEvent → Bool
  | .keepalive | .revocation .. | .unknown _ => true
  | _ => false

namespace Arrival

/-- Whether an arrival is a frame that cannot be decoded or whose event leads to nothing. -/
def isIdle (a : Arrival) : Bool :=
  match a with
  | frame .. => a.event?.all Ingestion.isIdle
  | _ => false

/-- The arrival if subscriptions did not fail. -/
def calm : Arrival → Arrival
  | frame text c => frame text { c with subscriptionFails := false }
  | a => a

end Arrival

/-- The attempt without idle frames, if nothing failed that is only reported. -/
def Attempt.bare (a : Attempt) : Attempt where
  connecting := a.connecting
  arrivals := (a.arrivals.filter (!·.isIdle)).map Arrival.calm
  closeFails := false

/-- Whether an effect is more than asking for a frame or reporting a mishap. -/
def Effect.isNotable : Effect → Bool
  | read | report _ => false
  | _ => true

/-! ### What arrivals lead to -/

/-- An idle frame leads to nothing notable, and does not end the connection. -/
theorem Arrival.effects_of_isIdle {a : Arrival} (h : a.isIdle = true) :
    a.effects.filter Effect.isNotable = [] ∧ a.ending? = none := by
  cases a with
  | frame text c =>
    simp only [isIdle, event?] at h
    simp only [effects, ending?, event?, Ingestion.frame]
    cases hevent : FeedEvent.decode text with
    | error e => exact ⟨rfl, rfl⟩
    | ok event =>
      rw [hevent] at h
      cases event with
      | keepalive | revocation | unknown => exact ⟨rfl, rfl⟩
      | _ => cases h
  | _ => cases h

theorem Arrival.ending_calm (a : Arrival) : a.calm.ending? = a.ending? := by
  cases a <;> rfl

/-- A subscription that fails makes no notable difference. -/
theorem Arrival.effects_calm (a : Arrival) :
    a.calm.effects.filter Effect.isNotable = a.effects.filter Effect.isNotable := by
  cases a with
  | frame text c =>
    simp only [calm, effects, Ingestion.frame]
    cases FeedEvent.decode text with
    | error e => rfl
    | ok event =>
      cases event with
      | sessionWelcome id =>
        simp only [route]
        cases c.subscriptionFails <;> rfl
      | _ => rfl
  | _ => rfl

/-! ### Connections -/

theorem filter_isNotable_andThen (effects : List Effect) (ending? : Option ConnectionEnd)
    (later : List Effect × ConnectionEnd) :
    (stream.andThen (effects, ending?) later).1.filter Effect.isNotable =
        effects.filter Effect.isNotable ++ (if ending?.isSome then [] else later.1.filter Effect.isNotable) ∧
      (stream.andThen (effects, ending?) later).2 = ending?.getD later.2 := by
  cases ending? with
  | some ending => exact ⟨(List.append_nil _).symm, rfl⟩
  | none => exact ⟨List.filter_append .., rfl⟩

/-- A connection without idle frames. -/
theorem stream_bare (arrivals : List Arrival) :
    (stream ((arrivals.filter (!·.isIdle)).map Arrival.calm)).1.filter Effect.isNotable =
        (stream arrivals).1.filter Effect.isNotable ∧
      (stream ((arrivals.filter (!·.isIdle)).map Arrival.calm)).2 = (stream arrivals).2 := by
  induction arrivals with
  | nil => exact ⟨rfl, rfl⟩
  | cons a rest ih =>
    obtain ⟨heffects, hending⟩ := ih
    obtain ⟨hnotable, hend⟩ := filter_isNotable_andThen a.effects a.ending? (stream rest)
    rw [stream_cons a rest, hnotable, hend]
    by_cases hidle : a.isIdle = true
    · obtain ⟨hnothing, hopen⟩ := Arrival.effects_of_isIdle hidle
      rw [List.filter_cons_of_neg (by simp [hidle]), heffects, hending, hnothing, hopen]
      exact ⟨rfl, rfl⟩
    · rw [List.filter_cons_of_pos (by simp [hidle]), List.map_cons, stream_cons a.calm]
      obtain ⟨hcalm, hcalmEnd⟩ := filter_isNotable_andThen a.calm.effects a.calm.ending?
        (stream ((rest.filter (!·.isIdle)).map Arrival.calm))
      rw [hcalm, hcalmEnd, a.effects_calm, a.ending_calm, heffects, hending]
      exact ⟨rfl, rfl⟩

theorem filter_isNotable_closing (a : Attempt) : a.closing.filter Effect.isNotable = [.close] := by
  rw [Attempt.closing]
  split <;> rfl

theorem attempt_bare (generation : Nat) (url : String) (a : Attempt) :
    (attempt generation url a.bare).1.filter Effect.isNotable =
        (attempt generation url a).1.filter Effect.isNotable ∧
      (attempt generation url a.bare).2 = (attempt generation url a).2 := by
  have hclosing := filter_isNotable_closing a
  have hbare := filter_isNotable_closing a.bare
  obtain ⟨heffects, hending⟩ : (stream a.bare.arrivals).1.filter Effect.isNotable =
      (stream a.arrivals).1.filter Effect.isNotable ∧ (stream a.bare.arrivals).2 = (stream a.arrivals).2 :=
    stream_bare a.arrivals
  have hconnecting : a.bare.connecting = a.connecting := rfl
  cases hc : a.connecting with
  | established =>
    simp only [attempt, hconnecting, hc, List.filter_append, List.filter_cons, hclosing, hbare, heffects, hending,
      and_self]
  | unstaffed =>
    simp only [attempt, hconnecting, hc, List.filter_append, List.filter_cons, hclosing, hbare, and_self]
  | failed | interrupted => simp only [attempt, hconnecting, hc, and_self]

/-! ### Runs -/

/-- Bare attempts are dealt with like the others. -/
theorem run_bare (defaultUrl : String) (nextUrl : Option String) (generation : Nat) (attempts : List Attempt) :
    (run defaultUrl nextUrl generation (attempts.map Attempt.bare)).1.filter Effect.isNotable =
        (run defaultUrl nextUrl generation attempts).1.filter Effect.isNotable ∧
      (run defaultUrl nextUrl generation (attempts.map Attempt.bare)).2 =
        (run defaultUrl nextUrl generation attempts).2 := by
  induction attempts generalizing nextUrl generation with
  | nil => exact ⟨rfl, rfl⟩
  | cons a rest ih =>
    obtain ⟨heffects, hending⟩ := attempt_bare (generation + 1) (nextUrl.getD defaultUrl) a
    have hresume : ∀ ending,
        (resume defaultUrl (generation + 1) (rest.map Attempt.bare) ending).1.filter Effect.isNotable =
            (resume defaultUrl (generation + 1) rest ending).1.filter Effect.isNotable ∧
          (resume defaultUrl (generation + 1) (rest.map Attempt.bare) ending).2 =
            (resume defaultUrl (generation + 1) rest ending).2 := by
      intro ending
      cases ending with
      | shutdown => exact ⟨rfl, rfl⟩
      | reconnect url => exact ih url (generation + 1)
      | closed => exact ih none (generation + 1)
      | failed =>
        obtain ⟨hlater, hlast⟩ := ih none (generation + 1)
        exact ⟨congrArg (Effect.announce .error :: ·) hlater, hlast⟩
    obtain ⟨hlater, hlast⟩ := hresume (attempt (generation + 1) (nextUrl.getD defaultUrl) a).2
    rw [List.map_cons, run_cons, run_cons, List.filter_append, List.filter_append, heffects, hending, hlater, hlast]
    exact ⟨rfl, rfl⟩

/-- Idle frames, subscriptions that fail and closings that fail make no notable difference. -/
theorem run_eq_of_bare_eq {attempts others : List Attempt}
    (h : others.map Attempt.bare = attempts.map Attempt.bare) (defaultUrl : String) (nextUrl : Option String)
    (generation : Nat) :
    (run defaultUrl nextUrl generation others).1.filter Effect.isNotable =
        (run defaultUrl nextUrl generation attempts).1.filter Effect.isNotable ∧
      (run defaultUrl nextUrl generation others).2 = (run defaultUrl nextUrl generation attempts).2 := by
  obtain ⟨heffects, hlast⟩ := run_bare defaultUrl nextUrl generation others
  obtain ⟨heffects', hlast'⟩ := run_bare defaultUrl nextUrl generation attempts
  rw [h] at heffects hlast
  exact ⟨heffects.symm.trans heffects', hlast.symm.trans hlast'⟩

end ChatModeration.Ingestion
