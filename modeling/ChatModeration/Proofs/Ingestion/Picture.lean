import ChatModeration.Proofs.Feed.Messages
import ChatModeration.Proofs.Ingestion.Idle
import ChatModeration.Proofs.Moderation.Concurrent
import Mathlib.Data.List.DropRight
import Mathlib.Data.List.Induction

/-!
# What ingestion makes of the feed

While ingestion applies its effects, workers handle messages and other things happen at the desk (`Course`).  Whenever
they do, what is known about the stream and what has been counted (`Picture`) is a fold of the events that have been
heard, over all connections (`picture_run`): the channel is as the last events about it say, and the counters count
since the stream went online (`foldl_after`).  Together with what is subscribed to and dispatched this is all that
comes of a run (`follows_run`).
-/

namespace ChatModeration.Ingestion

open Feed (FeedEvent)
open Moderation (Occurrence)

/-! ### Effects while the desk is at work -/

/-- The station after an effect, where a message that is dispatched is left to the workers. -/
def receive (s : Station) : Effect → Station
  | .dispatch _ => s
  | e => (s.apply e).1

/-- The effects are applied one after the other, and in between anything may happen at the desk. -/
inductive Course : List Effect → Station → Station → Prop where
  | done (s : Station) : Course [] s s
  | effect {e : Effect} {effects : List Effect} {s t : Station} (h : Course effects (receive s e) t) :
      Course (e :: effects) s t
  | desk {effects : List Effect} {s t : Station} (o : Occurrence)
      (h : Course effects { s with desk := (s.desk.step o).1 } t) : Course effects s t

/-- A message may be handled as soon as it is dispatched. -/
theorem course_apply (effects : List Effect) (s : Station) :
    Course effects s (effects.foldl (fun s e => (s.apply e).1) s) := by
  induction effects generalizing s with
  | nil => exact .done s
  | cons e rest ih =>
    have hrest := ih (s.apply e).1
    cases e with
    | dispatch m => exact .effect (.desk (.message m) hrest)
    | _ => exact .effect hrest

/-! ### Pictures -/

/-- What is known about the stream and what has been counted. -/
structure Picture where
  live : Bool
  title : String
  category : String
  messages : Nat
  automodHolds : Nat
  moderatorActions : Nat
deriving DecidableEq, Repr

namespace Picture

/-- What a station knows and has counted. -/
def of (s : Station) : Picture where
  live := s.channel.live
  title := s.channel.title
  category := s.channel.category
  messages := s.desk.stats.messages
  automodHolds := s.desk.stats.automodHolds
  moderatorActions := s.desk.stats.moderatorActions

/-- The picture after an effect. -/
def update (p : Picture) : Effect → Picture
  | .setLive live => { p with live }
  | .setInfo title category => { p with title, category }
  | .startWindow => { p with messages := 0, automodHolds := 0, moderatorActions := 0 }
  | .countMessage held =>
    { p with messages := p.messages + 1, automodHolds := p.automodHolds + held.toNat }
  | .countModeratorAction => { p with moderatorActions := p.moderatorActions + 1 }
  | _ => p

/-- The picture after an event. -/
def after (p : Picture) : FeedEvent → Picture
  | .chatMessage _ => { p with messages := p.messages + 1 }
  | .automodHold _ => { p with messages := p.messages + 1, automodHolds := p.automodHolds + 1 }
  | .streamOnline => { p with live := true, messages := 0, automodHolds := 0, moderatorActions := 0 }
  | .streamOffline => { p with live := false }
  | .channelUpdate title category => { p with title, category }
  | .moderatorAction .. => { p with moderatorActions := p.moderatorActions + 1 }
  | _ => p

theorem of_receive (s : Station) (e : Effect) : of (receive s e) = (of s).update e := by
  cases e <;> rfl

/-- What happens at the desk does not show. -/
theorem of_desk (s : Station) (o : Occurrence) : of { s with desk := (s.desk.step o).1 } = of s := by
  cases o with
  | message m =>
    -- a verdict changes counters that the picture leaves out
    simp only [of, Moderation.Desk.step, Moderation.Desk.handle]
    cases (Moderation.check s.desk.records s.desk.surroundings s.desk.now s.desk.now m).2.1.kind <;> rfl
  | _ => rfl

theorem of_course {effects : List Effect} {s t : Station} (h : Course effects s t) :
    of t = effects.foldl update (of s) := by
  induction h with
  | done s => rfl
  | effect _ ih => rw [ih, of_receive, List.foldl_cons]
  | desk o _ ih => rw [ih, of_desk]

/-- What an arrival leads to makes of a picture what its event makes of it. -/
theorem foldl_effects (a : Arrival) (p : Picture) :
    a.effects.foldl update p = a.event?.toList.foldl after p := by
  cases a with
  | frame text c =>
    simp only [Arrival.effects, Arrival.event?, frame]
    cases hevent : FeedEvent.decode text with
    | error e => rfl
    | ok event =>
      have hfaithful := FeedEvent.decode_faithful hevent
      cases event with
      | chatMessage m | automodHold m =>
        simp only [FeedEvent.Faithful] at hfaithful
        simp only [route, hfaithful]
        cases c.queueStuck <;> rfl
      | sessionWelcome id =>
        simp only [route]
        cases c.subscriptionFails <;> rfl
      | _ => rfl
  | _ => rfl

theorem update_of_not_isDeed (p : Picture) (e : Effect) (h : e.isDeed = false) : p.update e = p := by
  cases e with
  | setLive | setInfo | startWindow | countMessage | countModeratorAction => cases h
  | _ => rfl

end Picture

/-- The picture after a run is a fold of the events that have been heard. -/
theorem picture_run {defaultUrl : String} {nextUrl : Option String} {generation : Nat} {attempts : List Attempt}
    {s t : Station} (h : Course (run defaultUrl nextUrl generation attempts).1 s t) :
    Picture.of t = (heard attempts).foldl Picture.after (Picture.of s) := by
  rw [Picture.of_course h, foldl_run Picture.update_of_not_isDeed, heard, List.foldl_filterMap]
  refine List.foldl_ext _ _ _ fun p a _ => ?_
  rw [Picture.foldl_effects]
  cases a.event? <;> rfl

/-! ### The last events and those since the stream went online -/

/-- Whether the stream is live, as an event says. -/
def liveness? : FeedEvent → Option Bool
  | .streamOnline => some true
  | .streamOffline => some false
  | _ => none

/-- The title and the category that an event tells. -/
def info? : FeedEvent → Option (String × String)
  | .channelUpdate title category => some (title, category)
  | _ => none

/-- The session that a welcome is about. -/
def sessionId? : FeedEvent → Option String
  | .sessionWelcome id => some id
  | _ => none

/-- The session that is subscribed to. -/
def Effect.subscribed? : Effect → Option String
  | subscribe id => some id
  | _ => none

/-- Whether an event is a hold. -/
def isHold : FeedEvent → Bool
  | .automodHold _ => true
  | _ => false

/-- Whether an event is an action of a moderator. -/
def isModeratorAction : FeedEvent → Bool
  | .moderatorAction .. => true
  | _ => false

/-- The events since the stream last went online. -/
def sinceOnline (events : List FeedEvent) : List FeedEvent := events.rtakeWhile (· ≠ .streamOnline)

theorem sinceOnline_concat (events : List FeedEvent) (e : FeedEvent) :
    sinceOnline (events ++ [e]) = if e = .streamOnline then [] else sinceOnline events ++ [e] := by
  rw [sinceOnline, List.rtakeWhile_concat]
  by_cases h : e = .streamOnline
  · simp [h]
  · simp [h, sinceOnline]

/-- What a number was before the first event, unless the stream has gone online since. -/
def carried (events : List FeedEvent) (n : Nat) : Nat := if .streamOnline ∈ events then 0 else n

/-- The picture says of the channel what the last events about it say, and counts the events since the stream went
online. -/
theorem foldl_after (p : Picture) (events : List FeedEvent) :
    events.foldl Picture.after p =
      { live := (events.filterMap liveness?).getLast?.getD p.live
        title := ((events.filterMap info?).getLast?.getD (p.title, p.category)).1
        category := ((events.filterMap info?).getLast?.getD (p.title, p.category)).2
        messages := carried events p.messages + ((sinceOnline events).filterMap message?).length
        automodHolds := carried events p.automodHolds + (sinceOnline events).countP isHold
        moderatorActions := carried events p.moderatorActions + (sinceOnline events).countP isModeratorAction } := by
  induction events using List.reverseRecOn with
  | nil => rfl
  | append_singleton events e ih =>
    rw [List.foldl_append, ih]
    cases e with
    | _ =>
      simp [Picture.after, sinceOnline_concat, carried, liveness?, info?, message?, isHold, isModeratorAction,
        List.filterMap_append, List.countP_append, Nat.add_assoc]

/-- A welcome is subscribed to, whether or not that succeeds. -/
theorem Arrival.subscribed (a : Arrival) :
    a.effects.filterMap Effect.subscribed? = (a.event?.bind sessionId?).toList := by
  cases a with
  | frame text c =>
    simp only [effects, event?, Ingestion.frame]
    cases FeedEvent.decode text with
    | error e => rfl
    | ok event =>
      simp only [Except.toOption, Option.bind_some]
      cases event with
      | sessionWelcome id =>
        simp only [route]
        cases c.subscriptionFails <;> rfl
      | chatMessage m | automodHold m =>
        simp only [route]
        cases c.queueStuck <;> rfl
      | _ => rfl
  | _ => rfl

/-- Every welcome leads to one subscription, for its session. -/
theorem subscribed_run (defaultUrl : String) (nextUrl : Option String) (generation : Nat)
    (attempts : List Attempt) :
    (run defaultUrl nextUrl generation attempts).1.filterMap Effect.subscribed? =
      (heard attempts).filterMap sessionId? := by
  have hdeed : ∀ e : Effect, e.isDeed = false → e.subscribed? = none := by
    intro e he
    cases e with
    | subscribe id => contradiction
    | _ => rfl
  rw [filterMap_run hdeed, heard, List.filterMap_filterMap, List.filterMap_eq_flatMap_toList]
  exact List.flatMap_congr fun a _ => a.subscribed

/-! ### Runs -/

/-- What comes of a run, by the events that have been heard. -/
structure Follows (attempts : List Attempt) (effects : List Effect) (s t : Station) : Prop where
  folded : Picture.of t = (heard attempts).foldl Picture.after (Picture.of s)
  live : t.channel.live = ((heard attempts).filterMap liveness?).getLast?.getD s.channel.live
  info : (t.channel.title, t.channel.category) =
    ((heard attempts).filterMap info?).getLast?.getD (s.channel.title, s.channel.category)
  subscribed : effects.filterMap Effect.subscribed? = (heard attempts).filterMap sessionId?
  messages : t.desk.stats.messages =
    carried (heard attempts) s.desk.stats.messages + ((sinceOnline (heard attempts)).filterMap message?).length
  automodHolds : t.desk.stats.automodHolds =
    carried (heard attempts) s.desk.stats.automodHolds + (sinceOnline (heard attempts)).countP isHold
  moderatorActions : t.desk.stats.moderatorActions =
    carried (heard attempts) s.desk.stats.moderatorActions +
      (sinceOnline (heard attempts)).countP isModeratorAction
  /-- Every message is dispatched, but for one that may be abandoned when the program stops. -/
  dispatched : effects.filterMap Effect.dispatched? ++ (abandoned? attempts).toList =
    (heard attempts).filterMap message?

theorem follows_of_course {defaultUrl : String} {nextUrl : Option String} {generation : Nat}
    {attempts : List Attempt} {s t : Station} (h : Course (run defaultUrl nextUrl generation attempts).1 s t) :
    Follows attempts (run defaultUrl nextUrl generation attempts).1 s t := by
  have hfolded := picture_run h
  have hpicture := hfolded
  rw [foldl_after] at hpicture
  refine ⟨hfolded, congrArg Picture.live hpicture, ?_, subscribed_run .., congrArg Picture.messages hpicture,
    congrArg Picture.automodHolds hpicture, congrArg Picture.moderatorActions hpicture, dispatched_run ..⟩
  exact congrArg (fun p : Picture => (p.title, p.category)) hpicture

/-- The picture depends on the notable effects only. -/
theorem foldl_update_filter_isNotable (effects : List Effect) (p : Picture) :
    (effects.filter Effect.isNotable).foldl Picture.update p = effects.foldl Picture.update p := by
  rw [List.foldl_filter]
  refine List.foldl_ext _ _ p fun p e _ => ?_
  cases e with
  | _ => rfl

/-- A run makes of the feed what its events say, over all connections.  Another feed that differs only in idle frames
and in subscriptions and closings that fail has the same notable effects, as many connections and the same picture. -/
theorem follows_run (url : String) (attempts : List Attempt) {s t : Station}
    (h : Course (run url none 0 attempts).1 s t) :
    Follows attempts (run url none 0 attempts).1 s t ∧
      ∀ others, others.map Attempt.bare = attempts.map Attempt.bare →
        (run url none 0 others).1.filter Effect.isNotable = (run url none 0 attempts).1.filter Effect.isNotable ∧
          (run url none 0 others).2 = (run url none 0 attempts).2 ∧
          ∀ t', Course (run url none 0 others).1 s t' → Picture.of t' = Picture.of t := by
  refine ⟨follows_of_course h, ?_⟩
  intro others hothers
  obtain ⟨heffects, hlast⟩ := run_eq_of_bare_eq hothers url none 0
  refine ⟨heffects, hlast, ?_⟩
  intro t' h'
  rw [Picture.of_course h', Picture.of_course h, ← foldl_update_filter_isNotable, heffects,
    foldl_update_filter_isNotable]

/-- A frame that says that the stream is online. -/
def onlineText : String :=
  "\x7b\"metadata\":\x7b\"message_type\":\"notification\",\"subscription_type\":\"stream.online\"\x7d," ++
    "\"payload\":\x7b\"subscription\":\x7b\"type\":\"stream.online\"\x7d,\"event\":\x7b\x7d\x7d\x7d"

theorem decode_onlineText : (FeedEvent.decode onlineText).toOption = some .streamOnline := by decide +kernel

/-- The stream goes online after a frame that cannot be decoded, and the connection cannot be closed.  Without either
it is all the same. -/
theorem follows_run_online :
    let s : Station := ⟨.closed, .ofLogin "channel", ⟨Moderation.strictSurroundings, Moderation.emptyRecords, {}, 0⟩⟩
    let attempts : List Attempt :=
      [⟨.failed, [], false⟩, ⟨.established, [.frame "?" {}, .frame onlineText {}, .closed], true⟩]
    let others : List Attempt := [⟨.failed, [], false⟩, ⟨.established, [.frame onlineText {}, .closed], false⟩]
    let t := (run "feed" none 0 attempts).1.foldl (fun s e => (s.apply e).1) s
    t.channel.live = true ∧ t.desk.stats.messages = 0 ∧
      (run "feed" none 0 others).2 = (run "feed" none 0 attempts).2 := by
  intro s attempts others t
  obtain ⟨hfollows, hothers⟩ := follows_run "feed" attempts (course_apply (run "feed" none 0 attempts).1 s)
  have hbroken : (FeedEvent.decode "?").toOption = none := by decide +kernel
  have hheard : heard attempts = [.streamOnline] := by
    simp [attempts, heard, consumed, Attempt.outcome, session, Arrival.ending?, Arrival.event?, decode_onlineText,
      hbroken]
  have hbare : others.map Attempt.bare = attempts.map Attempt.bare := by
    simp [attempts, others, Attempt.bare, Arrival.isIdle, Arrival.event?, decode_onlineText, hbroken, isIdle]
  have hlive := hfollows.live
  have hmessages := hfollows.messages
  rw [hheard] at hlive hmessages
  exact ⟨hlive, hmessages.trans (by decide), (hothers others hbare).2.1⟩

end ChatModeration.Ingestion
