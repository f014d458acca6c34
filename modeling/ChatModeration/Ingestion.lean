import ChatModeration.Channel
import ChatModeration.Feed.Event
import ChatModeration.Moderation.Desk

/-!
# Ingestion

Ingestion connects to the event feed, follows its events and connects again until the program stops.  What is done is a
list of effects in order: `Ingestion.run` gives those for a list of attempts to connect, and `Station.apply` says what
one effect does to the state of the program.  An attempt comes with everything that the outside decides: how the
connection goes, what is received and what comes of it, and when the program stops.
-/

namespace ChatModeration

/-- The state of the connection that is announced. -/
inductive ConnectionState where
  | connecting | subscribing | streaming | reconnectRequested | error | closed
deriving DecidableEq, Repr

/-- The name of a state. -/
def ConnectionState.name : ConnectionState → String
  | connecting => "Connecting"
  | subscribing => "Subscribing"
  | streaming => "Streaming"
  | reconnectRequested => "ReconnectRequested"
  | error => "Error"
  | closed => "Closed"

namespace Ingestion

open Feed (FeedEvent)

/-! ### What the outside decides -/

/-- How an attempt to connect goes. -/
inductive Connecting where
  | established | failed
  /-- The connection is made, but after some of its workers the start of the next one fails. -/
  | unstaffed (started : Nat)
  /-- The program stops in the meantime. -/
  | interrupted
deriving DecidableEq, Repr

/-- What a frame meets with. -/
structure Conditions where
  /-- The queue of the workers is full until the program stops. -/
  queueStuck : Bool := false
  /-- Subscriptions fail. -/
  subscriptionFails : Bool := false
deriving DecidableEq, Repr

/-- What comes of waiting for a frame. -/
inductive Arrival where
  | frame (text : String) (conditions : Conditions)
  | readError
  /-- The other side has closed the connection. -/
  | closed
  /-- The program stops in the meantime. -/
  | shutdown
deriving DecidableEq, Repr

/-- An attempt to connect and what arrives, after which the connection is closed by the other side. -/
structure Attempt where
  connecting : Connecting
  arrivals : List Arrival
  /-- Whether closing the connection fails. -/
  closeFails : Bool := false
deriving DecidableEq, Repr

/-! ### What is done -/

/-- Something that goes wrong and is only reported. -/
inductive Mishap where
  | undecodable (e : Feed.DecodeError)
  | subscriptionFailed | closeFailed
deriving DecidableEq, Repr

/-- Something that is done. -/
inductive Effect where
  | announce (state : ConnectionState)
  | connect (url : String)
  /-- The workers of the connection with this number start. -/
  | startWorkers (generation : Nat)
  /-- The start of these workers fails after some of them. -/
  | startFails (generation started : Nat)
  /-- The next frame is asked for. -/
  | read
  | subscribe (sessionId : String)
  | setLive (live : Bool)
  | setInfo (title category : String)
  | startWindow | endWindow
  | countMessage (heldByAutomod : Bool)
  | countModeratorAction
  /-- A message is given to the workers. -/
  | dispatch (message : ChatMessage)
  /-- The connection is closed by this side. -/
  | close
  /-- All workers of the connection with this number have finished. -/
  | joinWorkers (generation : Nat)
  | report (mishap : Mishap)
deriving DecidableEq, Repr

/-- Why a connection ends. -/
inductive ConnectionEnd where
  /-- The feed asks to connect again, to another address if it gives one. -/
  | reconnect (url : Option String)
  | closed
  /-- The connection was not made or could not be read. -/
  | failed
  | shutdown
deriving DecidableEq, Repr

/-- What an event leads to, and how the connection ends if the event ends it. -/
def route (c : Conditions) : FeedEvent → List Effect × Option ConnectionEnd
  | .sessionWelcome id =>
    ([.announce .subscribing, .subscribe id] ++ (if c.subscriptionFails then [.report .subscriptionFailed] else []) ++
      [.announce .streaming], none)
  | .reconnect url => ([.announce .reconnectRequested], some (.reconnect url))
  | .chatMessage m | .automodHold m =>
    if c.queueStuck then ([.countMessage m.heldByAutomod], some .shutdown)
    else ([.countMessage m.heldByAutomod, .dispatch m], none)
  | .streamOnline => ([.setLive true, .startWindow], none)
  | .streamOffline => ([.setLive false, .endWindow], none)
  | .channelUpdate title category => ([.setInfo title category], none)
  | .moderatorAction .. => ([.countModeratorAction], none)
  | .keepalive | .revocation .. | .unknown _ => ([], none)

/-- What a frame leads to.  One that cannot be decoded is dropped. -/
def frame (c : Conditions) (text : String) : List Effect × Option ConnectionEnd :=
  match FeedEvent.decode text with
  | .error e => ([.report (.undecodable e)], none)
  | .ok event => route c event

/-- What is done with what arrives, and how the connection ends. -/
def stream : List Arrival → List Effect × ConnectionEnd
  | [] | .closed :: _ => ([.read], .closed)
  | .readError :: _ => ([.read], .failed)
  | .shutdown :: _ => ([.read], .shutdown)
  | .frame text c :: rest => andThen (frame c text) (stream rest)
where
  /-- What is done with one frame and, unless the connection ends, with those after it. -/
  andThen : List Effect × Option ConnectionEnd → List Effect × ConnectionEnd → List Effect × ConnectionEnd
    | (effects, some ending), _ => (.read :: effects, ending)
    | (effects, none), (later, ending) => (.read :: effects ++ later, ending)

/-- Closing the connection.  It counts as closed even if that fails. -/
def Attempt.closing (a : Attempt) : List Effect := .close :: if a.closeFails then [.report .closeFailed] else []

/-- What is done in an attempt.  A connection that was made is closed, whatever ends it, and then its workers
finish, unless not all of them could be started: nothing more is done with those that were. -/
def attempt (generation : Nat) (url : String) (a : Attempt) : List Effect × ConnectionEnd :=
  let start := [Effect.announce .connecting, .connect url]
  match a.connecting with
  | .failed => (start, .failed)
  | .unstaffed started => (start ++ .startFails generation started :: a.closing, .failed)
  | .interrupted => (start, .shutdown)
  | .established =>
    let (effects, ending) := stream a.arrivals
    (start ++ .startWorkers generation :: effects ++ a.closing ++ [.joinWorkers generation], ending)

/-- What is done in all attempts until the program stops, and the number of attempts.  The program stops during the
wait after the last attempt, unless it stops earlier.  An address that the feed gives is used for one attempt. -/
def run (defaultUrl : String) (nextUrl : Option String) (generation : Nat) :
    List Attempt → List Effect × Nat
  | [] => ([.announce .closed], generation)
  | a :: rest =>
    let (effects, ending) := attempt (generation + 1) (nextUrl.getD defaultUrl) a
    let (later, last) := match ending with
      | .shutdown => ([.announce .closed], generation + 1)
      | .reconnect url => run defaultUrl url (generation + 1) rest
      | .closed => run defaultUrl none (generation + 1) rest
      | .failed =>
        let (later, last) := run defaultUrl none (generation + 1) rest
        (.announce .error :: later, last)
    (effects ++ later, last)

end Ingestion

/-! ### The state of the program -/

/-- The connection, the channel and moderation at some moment. -/
structure Station where
  connection : ConnectionState
  channel : Channel
  desk : Moderation.Desk

namespace Station

/-- The station with another state of the statistics. -/
def count (s : Station) (f : StreamStats → StreamStats) : Station :=
  { s with desk := { s.desk with stats := f s.desk.stats } }

/-- The station after an effect, where a message is handled as soon as it is dispatched, and the action taken. -/
def apply (s : Station) : Ingestion.Effect → Station × Option Action
  | .announce connection => ({ s with connection }, none)
  | .setLive live => ({ s with channel := s.channel.setLive live, desk := s.desk.setLive live }, none)
  | .setInfo title category => ({ s with channel := s.channel.setInfo title category }, none)
  | .startWindow => (s.count (·.startWindow s.desk.now), none)
  | .endWindow => (s.count fun stats => stats.endWindow.1, none)
  | .countMessage held => (s.count (·.recordMessage held), none)
  | .countModeratorAction => (s.count StreamStats.recordModeratorAction, none)
  | .dispatch m =>
    let (desk, response) := s.desk.handle m
    ({ s with desk }, response.action)
  | .connect _ | .startWorkers _ | .startFails .. | .read | .subscribe _ | .close | .joinWorkers _ | .report _ =>
    (s, none)

end Station

end ChatModeration
