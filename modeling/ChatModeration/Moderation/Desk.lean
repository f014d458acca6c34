import ChatModeration.Enforcement
import ChatModeration.Moderation.Check
import ChatModeration.Stats

/-!
# The moderation desk

A `Desk` is what moderation of a channel consists of at some moment: what is known besides the messages, the records,
the statistics and the time.  A message that is handled is checked, its verdict is counted, and the verdict is carried
out by at most one action.
-/

namespace ChatModeration.Moderation

/-- Moderation of a channel at some moment. -/
structure Desk where
  surroundings : Surroundings
  records : Records
  stats : StreamStats
  now : Nat

/-- What may happen at a desk. -/
inductive Occurrence where
  | message (m : ChatMessage)
  /-- The clock shows another time, in milliseconds. -/
  | clock (now : Nat)
  /-- What has expired is removed from the records. -/
  | reclaim
  | snapshot (s : Snapshot)
  | live (isLive : Bool)
  /-- The messages of a user are forgotten. -/
  | forget (user : String)

/-- The answer to a message. -/
structure Response where
  verdict : Verdict
  questions : List Question
  action : Option Action
deriving DecidableEq, Repr

namespace Desk

/-- Checks a message, counts the verdict, and says what has to be done. -/
def handle (d : Desk) (m : ChatMessage) : Desk × Response :=
  let (records, verdict, questions) := check d.records d.surroundings d.now d.now m
  ({ d with records, stats := d.stats.recordVerdict verdict.kind }, ⟨verdict, questions, verdict.enforce m⟩)

/-- The desk that uses another snapshot. -/
def useSnapshot (d : Desk) (snapshot : Snapshot) : Desk :=
  { d with surroundings := { d.surroundings with snapshot } }

/-- The desk of a channel that goes online or offline. -/
def setLive (d : Desk) (live : Bool) : Desk := { d with surroundings := { d.surroundings with live } }

/-- The desk after something that happens, and the response if it is a message. -/
def step (d : Desk) : Occurrence → Desk × Option Response
  | .message m => let (d, r) := d.handle m; (d, some r)
  | .clock now => ({ d with now }, none)
  | .reclaim => ({ d with records := (d.records.reclaim d.now).1 }, none)
  | .snapshot s => (d.useSnapshot s, none)
  | .live isLive => (d.setLive isLive, none)
  | .forget user =>
    ({ d with records := { d.records with history := (d.records.history.clear user).1 } }, none)

/-- The responses to the messages among what happens, in order. -/
def run (d : Desk) : List Occurrence → Desk × List Response
  | [] => (d, [])
  | o :: os =>
    let (d, response) := d.step o
    let (d, responses) := d.run os
    (d, response.toList ++ responses)

end Desk

end ChatModeration.Moderation
