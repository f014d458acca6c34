import ChatModeration.Verdict

/-!
# Statistics of a stream

Counters of what happened since the stream went online.  Opening a window resets all counters; closing it changes none
of them and reports them if a window was open.
-/

namespace ChatModeration

/-- The counters, and when the window has been opened if one is open. -/
structure StreamStats where
  messages : Nat := 0
  automodHolds : Nat := 0
  deletes : Nat := 0
  timeouts : Nat := 0
  bans : Nat := 0
  moderatorActions : Nat := 0
  /-- In milliseconds. -/
  windowStart : Option Nat := none
deriving DecidableEq, Repr

namespace StreamStats

/-- The number of verdicts that did something. -/
def actions (s : StreamStats) : Nat := s.deletes + s.timeouts + s.bans

/-- Counts a message. -/
def recordMessage (s : StreamStats) (heldByAutomod : Bool) : StreamStats :=
  { s with messages := s.messages + 1, automodHolds := s.automodHolds + heldByAutomod.toNat }

/-- Counts a verdict. -/
def recordVerdict (s : StreamStats) : VerdictKind → StreamStats
  | .none => s
  | .delete => { s with deletes := s.deletes + 1 }
  | .timeout => { s with timeouts := s.timeouts + 1 }
  | .ban => { s with bans := s.bans + 1 }

/-- Counts an action of a moderator. -/
def recordModeratorAction (s : StreamStats) : StreamStats := { s with moderatorActions := s.moderatorActions + 1 }

/-- Whether a window is open. -/
def windowOpen (s : StreamStats) : Bool := s.windowStart.isSome

/-- Opens a window with fresh counters. -/
def startWindow (_ : StreamStats) (now : Nat) : StreamStats := { windowStart := some now }

/-- Closes the window.  If one was open the summary just before is returned. -/
def endWindow (s : StreamStats) : StreamStats × Option StreamStats :=
  ({ s with windowStart := none }, s.windowStart.map fun _ => s)

/-- What is logged when a window is opened. -/
def startLine : String := "Stream online, stats window opened"

/-- The whole minutes between two times in milliseconds, of which the second may be the earlier one. -/
def minutesBetween (start stop : Nat) : Int := ((stop : Int) - start).tdiv 60000

/-- What is logged when a window with this summary is closed. -/
def endLine (s : StreamStats) (now : Nat) : String :=
  let minutes := (s.windowStart.map (minutesBetween · now)).getD 0
  "Stream offline after " ++ toString minutes ++ "m: " ++ toString s.messages ++ " messages (" ++
    toString s.automodHolds ++ " held by automod), " ++ toString s.deletes ++ " deletes, " ++ toString s.timeouts ++
    " timeouts, " ++ toString s.bans ++ " bans, " ++ toString s.moderatorActions ++ " moderator actions"

end StreamStats

end ChatModeration
