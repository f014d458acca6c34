import ChatModeration.Moderation.Finding
import ChatModeration.Moderation.Records
import ChatModeration.Moderation.Repeats

/-!
# Checking a message

A message gets its verdict (`check`) from what is found about it and from the records.  Only two findings look at the
records: a broken rule escalates under the key of the rule and the user, and a watched message is compared with the
history of its sender, added to it, and may escalate under one spam policy (`Penalty`).  The clock is read before the
records are looked at, and once more before an escalation under a spam policy.
-/

namespace ChatModeration.Moderation

/-- Which spam policy a message violates. -/
inductive Penalty where
  | exception (e : SpamException)
  | emoteCeiling
  | emoteRepeats
  | textRepeats
deriving DecidableEq, Repr

namespace Penalty

/-- The reason that a verdict gives. -/
def reason : Penalty → String
  | exception e => "spam exception '" ++ e.rule.name ++ "'"
  | emoteCeiling => "too many emotes"
  | emoteRepeats => "emote spam"
  | textRepeats => "repeated messages"

/-- Whether the history of the sender is cleared. -/
def clearsHistory : Penalty → Bool
  | emoteCeiling => false
  | _ => true

end Penalty

/-- The policy that a message violates after some repeats, if it violates one. -/
def SpamCase.penalty? (c : SpamCase) (repeats : Nat) : Option Penalty :=
  match c.exception with
  | some e => if repeats < e.messageLimit then none else some (.exception e)
  | none =>
    let settings := c.profile.settings
    if c.emoteOnly then
      if 0 < settings.emote.maxEmotes ∧ settings.emote.maxEmotes < c.emoteCount then some .emoteCeiling
      else if settings.emote.messageLimit ≤ repeats then some .emoteRepeats
      else none
    else if repeats < settings.messageLimit then none
    else some .textRepeats

/-- Escalates under the violated policy. -/
def SpamCase.escalate (c : SpamCase) (p : Penalty) (user : String) (now : Nat) (v : ViolationRecords) :
    ViolationRecords × Option Punishment :=
  let settings := c.profile.settings
  match p with
  | .exception e =>
    let (exceptions, tier) :=
      v.exceptions.escalate (e.rule.violationKey user) e.rule.punishments e.rule.resetWindow now
    ({ v with exceptions }, tier)
  | .emoteCeiling | .emoteRepeats =>
    let (emotes, tier) :=
      v.emotes.escalate user settings.emote.punishments (resetWindow settings.emote.resetSeconds) now
    ({ v with emotes }, tier)
  | .textRepeats =>
    let (spam, tier) := v.spam.escalate user settings.punishments (resetWindow settings.resetSeconds) now
    ({ v with spam }, tier)

/-- The repeats of a message in the history of its sender, itself included. -/
def SpamCase.repeats (c : SpamCase) (history : List (Fingerprint String)) : Nat :=
  countRepeats c.profile.settings.similarityThreshold c.profile.settings.minGap c.fingerprint history

/--
What happens while the history of the sender is held: the message is compared with the history and added to it, the
violated policy escalates, and the history may be cleared.
-/
def SpamCase.settle (c : SpamCase) (v : ViolationRecords) (later : Nat)
    (e : Store.Entry String (Fingerprint String)) :
    Store.Entry String (Fingerprint String) × ViolationRecords × Verdict :=
  let repeats := c.repeats (e.items.map (·.payload))
  let pushed := e.push c.fingerprint c.profile.settings.historyLife
  match c.penalty? repeats with
  | none => (pushed, v, .none)
  | some p =>
    match c.escalate p e.key later v with
    | (v, none) => (pushed, v, .none)
    | (v, some tier) => (if p.clearsHistory then pushed.clear.1 else pushed, v, .ofPunishment tier p.reason)

/-- The verdict on what was found about a message of a user, and the records after it. -/
def judge (r : Records) (user : String) (now later : Nat) : Finding → Records × Verdict
  | .bypassed _ | .unwatched => (r, .none)
  | .bannedWord _ => (r, .ban "banned word")
  | .advertising _ => (r, .ban "advertising")
  | .wordTooLong p => (r, .ofPunishment p "word too long")
  | .ruleBroken _ rule =>
    match r.violations.rules.escalate (rule.violationKey user) rule.punishments rule.resetWindow now with
    | (rules, none) => ({ r with violations := { r.violations with rules } }, .none)
    | (rules, some tier) =>
      ({ r with violations := { r.violations with rules } },
        .ofPunishment tier ("matched rule '" ++ rule.name ++ "'"))
  | .watched spam =>
    let (history, violations, verdict) := r.history.withKey user now (spam.settle r.violations later)
    (⟨history, violations⟩, verdict)

/-- Checks a message: the records after it, the verdict, and the questions asked. -/
def check (r : Records) (w : Surroundings) (now later : Nat) (m : ChatMessage) :
    Records × Verdict × List Question :=
  let (finding, questions) := find w m
  let (r, verdict) := judge r m.userId now later finding
  (r, verdict, questions)

end ChatModeration.Moderation
