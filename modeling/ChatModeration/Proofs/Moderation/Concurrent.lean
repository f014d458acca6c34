import ChatModeration.Moderation.Check

/-!
# Checks side by side

Workers check messages at the same time and share the records (`World`).  A check loads a snapshot, looks at its
message with whatever it is told about the rest, and then at most one thing it does changes the records: it escalates
under a broken rule in one step, or it holds the shard of the history of the sender for a section (`Section`) of
several steps (`Stage`), one of which may escalate in another store.  Steps of workers, sweeps of single shards and
changes of the snapshot follow each other in any order (`Step`); a shard of the history that is held can only be used
by its holder.  Every step has a number, the time, so that it is known when a section began and when it ended
(`Outcome`).
-/

namespace ChatModeration.Moderation

/-! ### Jobs, one at a time -/

/-- One of the stores that the records consist of. -/
inductive Part where
  | history | spam | emotes | exceptions | rules
deriving DecidableEq, Repr

/-- Removes what has expired from one shard of one store. -/
def Records.sweep (r : Records) (now index : Nat) : Part → Records
  | .history => { r with history := (r.history.reclaimShard now index).1 }
  | .spam => { r with violations := { r.violations with spam := (r.violations.spam.reclaimShard now index).1 } }
  | .emotes => { r with violations := { r.violations with emotes := (r.violations.emotes.reclaimShard now index).1 } }
  | .exceptions =>
    { r with violations := { r.violations with exceptions := (r.violations.exceptions.reclaimShard now index).1 } }
  | .rules => { r with violations := { r.violations with rules := (r.violations.rules.reclaimShard now index).1 } }

/-- Something that is done to the records. -/
inductive Job where
  /-- A check with what it was told and with its readings of the clock. -/
  | check (w : Surroundings) (now later : Nat) (m : ChatMessage)
  | sweep (now index : Nat) (part : Part)

/-- The records after a job, and the verdict if it is a check. -/
def Records.perform (r : Records) : Job → Records × Option Verdict
  | .check w now later m => ((check r w now later m).1, some (check r w now later m).2.1)
  | .sweep now index part => (r.sweep now index part, none)

/-- The records after some jobs, one at a time, and what comes out of each of them. -/
def Records.performAll (r : Records) : List Job → Records × List (Option Verdict)
  | [] => (r, [])
  | job :: jobs => (((r.perform job).1.performAll jobs).1, (r.perform job).2 :: ((r.perform job).1.performAll jobs).2)

/-! ### Workers -/

/-- The verdict that does not depend on the records. -/
def Finding.immediate? : Finding → Option Verdict
  | .bypassed _ | .unwatched => some .none
  | .bannedWord _ => some (.ban "banned word")
  | .advertising _ => some (.ban "advertising")
  | .wordTooLong p => some (.ofPunishment p "word too long")
  | .ruleBroken .. | .watched _ => none

/-- The verdict under a tier of a rule, if there is one. -/
def ruleVerdict (rule : Rule) : Option Punishment → Verdict
  | none => .none
  | some tier => .ofPunishment tier ("matched rule '" ++ rule.name ++ "'")

/-- A section that holds the history of the sender of a message. -/
structure Section where
  /-- When the section began. -/
  opened : Nat
  surroundings : Surroundings
  message : ChatMessage
  /-- The clock, read before the history was held. -/
  now : Nat
  spam : SpamCase

/-- How far a section has come. -/
inductive Stage where
  | entered
  /-- The history has been read. -/
  | counted (repeats : Nat)
  /-- The message has been put into the history. -/
  | pushed (repeats : Nat)
  /-- A policy is violated, and the clock has been read again. -/
  | violated (p : Penalty) (later : Nat)
  /-- There has been an escalation, and the history has to be cleared. -/
  | clearing (later : Nat) (verdict : Verdict)
  /-- There is nothing left to do but to leave. -/
  | settled (later : Nat) (verdict : Verdict)

/-- How a section goes on after an escalation. -/
def Penalty.stage (p : Penalty) (later : Nat) : Option Punishment → Stage
  | none => .settled later .none
  | some tier =>
    if p.clearsHistory then .clearing later (.ofPunishment tier p.reason)
    else .settled later (.ofPunishment tier p.reason)

/-- What a worker is doing. -/
inductive Activity where
  | idle
  | loaded (m : ChatMessage) (snapshot : Snapshot)
  /-- It has been told what it needs besides the snapshot. -/
  | informed (w : Surroundings) (m : ChatMessage)
  /-- It has read the clock. -/
  | ready (w : Surroundings) (m : ChatMessage) (now : Nat)
  | inside (s : Section) (stage : Stage)

/-- A job and what comes out of it, with the time when it begins to touch the records. -/
structure Commit where
  opened : Nat
  job : Job
  answer : Option Verdict

/-- A job that is over, with the time when it touched the records for the last time. -/
structure Outcome extends Commit where
  closed : Nat

/-- What the workers share, and what each of them is doing. -/
structure World where
  time : Nat
  snapshot : Snapshot
  records : Records
  workers : Nat → Activity
  /-- The jobs that are over, in the order in which they ended. -/
  done : List Outcome

namespace World

/-- All workers are idle. -/
def start (records : Records) (snapshot : Snapshot) : World := ⟨0, snapshot, records, fun _ => .idle, []⟩

/-- A worker does something else. -/
def act (x : World) (k : Nat) (a : Activity) : World :=
  { x with time := x.time + 1, workers := fun j => if j = k then a else x.workers j }

/-- The world with another history. -/
def withHistory (x : World) (history : History) : World := { x with records := { x.records with history } }

/-- The world with other violations. -/
def withViolations (x : World) (violations : ViolationRecords) : World :=
  { x with records := { x.records with violations } }

/-- A job is over. -/
def finish (x : World) (o : Outcome) : World := { x with done := x.done ++ [o] }

/-- Whether a worker holds a shard of the history. -/
def Locked (x : World) (index : Nat) : Prop :=
  ∃ k s stage, x.workers k = .inside s stage ∧ x.records.history.shardIndex s.message.userId = index

end World

/-- What can happen next. -/
inductive Step (x : World) : World → Prop where
  | swap (snapshot : Snapshot) : Step x { x with time := x.time + 1, snapshot }
  | load {k : Nat} (m : ChatMessage) (hk : x.workers k = .idle) : Step x (x.act k (.loaded m x.snapshot))
  /-- The answers of the others are told to a worker, for the snapshot that it has loaded. -/
  | inform {k : Nat} {m : ChatMessage} (w : Surroundings) (hk : x.workers k = .loaded m w.snapshot) :
      Step x (x.act k (.informed w m))
  | conclude {k : Nat} {w : Surroundings} {m : ChatMessage} {v : Verdict} (hk : x.workers k = .informed w m)
      (hv : (find w m).1.immediate? = some v) :
      Step x ((x.act k .idle).finish ⟨⟨x.time, .check w 0 0 m, some v⟩, x.time⟩)
  | read {k : Nat} {w : Surroundings} {m : ChatMessage} (now : Nat) (hk : x.workers k = .informed w m)
      (hv : (find w m).1.immediate? = none) : Step x (x.act k (.ready w m now))
  | escalate {k : Nat} {w : Surroundings} {m : ChatMessage} {now position : Nat} {rule : Rule} {rules : Violations}
      {tier : Option Punishment} (hk : x.workers k = .ready w m now) (hf : (find w m).1 = .ruleBroken position rule)
      (he : x.records.violations.rules.escalate (rule.violationKey m.userId) rule.punishments rule.resetWindow now =
        (rules, tier)) :
      Step x (((x.act k .idle).withViolations { x.records.violations with rules }).finish
        ⟨⟨x.time, .check w now now m, some (ruleVerdict rule tier)⟩, x.time⟩)
  /-- A section begins as soon as nobody holds the shard. -/
  | enter {k : Nat} {w : Surroundings} {m : ChatMessage} {now : Nat} {spam : SpamCase}
      (hk : x.workers k = .ready w m now) (hf : (find w m).1 = .watched spam)
      (hlock : ¬ x.Locked (x.records.history.shardIndex m.userId)) :
      Step x (x.act k (.inside ⟨x.time, w, m, now, spam⟩ .entered))
  | count {k : Nat} {s : Section} (hk : x.workers k = .inside s .entered) :
      Step x (x.act k (.inside s (.counted
        (s.spam.repeats ((x.records.history.items s.message.userId).map (·.payload))))))
  | push {k : Nat} {s : Section} {n : Nat} (hk : x.workers k = .inside s (.counted n)) :
      Step x ((x.act k (.inside s (.pushed n))).withHistory
        (x.records.history.push s.message.userId s.spam.fingerprint s.now s.spam.profile.settings.historyLife))
  | acquit {k : Nat} {s : Section} {n : Nat} (hk : x.workers k = .inside s (.pushed n))
      (hp : s.spam.penalty? n = none) : Step x (x.act k (.inside s (.settled s.now .none)))
  | convict {k : Nat} {s : Section} {n : Nat} {p : Penalty} (later : Nat) (hk : x.workers k = .inside s (.pushed n))
      (hp : s.spam.penalty? n = some p) : Step x (x.act k (.inside s (.violated p later)))
  | punish {k : Nat} {s : Section} {p : Penalty} {later : Nat} {v : ViolationRecords} {tier : Option Punishment}
      (hk : x.workers k = .inside s (.violated p later))
      (he : s.spam.escalate p s.message.userId later x.records.violations = (v, tier)) :
      Step x ((x.act k (.inside s (p.stage later tier))).withViolations v)
  | clear {k : Nat} {s : Section} {later : Nat} {v : Verdict} (hk : x.workers k = .inside s (.clearing later v)) :
      Step x ((x.act k (.inside s (.settled later v))).withHistory (x.records.history.clear s.message.userId).1)
  | leave {k : Nat} {s : Section} {later : Nat} {v : Verdict} (hk : x.workers k = .inside s (.settled later v)) :
      Step x ((x.act k .idle).finish
        ⟨⟨s.opened, .check s.surroundings s.now later s.message, some v⟩, x.time⟩)
  /-- Another shard of the history, or any shard of another store, is swept. -/
  | sweep (now index : Nat) (part : Part) (hlock : part = .history → ¬ x.Locked index) :
      Step x ({ x with time := x.time + 1, records := x.records.sweep now index part }.finish
        ⟨⟨x.time, .sweep now index part, none⟩, x.time⟩)

/-- What can happen to some records, from a moment when all workers are idle. -/
inductive Reachable (records : Records) (snapshot : Snapshot) : World → Prop where
  | start : Reachable records snapshot (.start records snapshot)
  | step {x y : World} (h : Reachable records snapshot x) (hxy : Step x y) : Reachable records snapshot y

/-! ### Inside and outside -/

/-- The index of the shard that a section holds. -/
def World.shardOf (x : World) (s : Section) : Nat := x.records.history.shardIndex s.message.userId

/-- The job of a section that has read the clock again. -/
def Section.job (s : Section) (later : Nat) : Job := .check s.surroundings s.now later s.message

/-- The verdict of a section that has taken effect, and when the clock was read again. -/
def Stage.answer? : Stage → Option (Nat × Verdict)
  | .clearing later v | .settled later v => some (later, v)
  | _ => none

/-- What a section has done. -/
def Section.commit (s : Section) (later : Nat) (v : Verdict) : Commit := ⟨s.opened, s.job later, some v⟩

theorem act_workers (x : World) (k : Nat) (a : Activity) (j : Nat) :
    (x.act k a).workers j = if j = k then a else x.workers j := rfl

/-- Whoever is inside after a step of a worker is this worker or was inside before. -/
theorem inside_of_act {x : World} {k j : Nat} {a : Activity} {s : Section} {t : Stage}
    (h : (x.act k a).workers j = .inside s t) : (j = k ∧ a = .inside s t) ∨ (j ≠ k ∧ x.workers j = .inside s t) := by
  rw [act_workers] at h
  split at h
  · exact .inl ⟨‹_›, h⟩
  · exact .inr ⟨‹_›, h⟩

/-- Whether a worker with this activity is in no section. -/
def Activity.isOutside : Activity → Bool
  | inside .. => false
  | _ => true

theorem Activity.ne_inside {a : Activity} (h : a.isOutside = true) (s : Section) (t : Stage) : a ≠ .inside s t := by
  rintro rfl
  cases h

/-- A worker that is outside stays outside. -/
theorem inside_act_iff {x : World} {k : Nat} {a : Activity} (hk : (x.workers k).isOutside = true)
    (ha : a.isOutside = true) (j : Nat) (s : Section) (t : Stage) :
    (x.act k a).workers j = .inside s t ↔ x.workers j = .inside s t := by
  rw [act_workers]
  split
  · subst j
    exact ⟨fun h => absurd h (Activity.ne_inside ha s t), fun h => absurd h (Activity.ne_inside hk s t)⟩
  · rfl

/-- Whoever is inside after a step within a section is its worker or was inside at the same stage. -/
theorem inside_of_goOn {x y : World} {k j : Nat} {s s' : Section} {t u : Stage}
    (hw : y.workers = (x.act k (.inside s t)).workers) (hj : y.workers j = .inside s' u) :
    (j = k ∧ s' = s ∧ u = t) ∨ (j ≠ k ∧ x.workers j = .inside s' u) := by
  rw [hw] at hj
  rcases inside_of_act hj with ⟨rfl, he⟩ | h
  · cases he
    exact .inl ⟨rfl, rfl, rfl⟩
  · exact .inr h

/-- Whoever is inside after a step within a section was inside before. -/
theorem inside_before {x y : World} {k j : Nat} {s s' : Section} {t t' u : Stage} (hk : x.workers k = .inside s t)
    (hw : y.workers = (x.act k (.inside s t')).workers) (hj : y.workers j = .inside s' u) :
    ∃ v, x.workers j = .inside s' v := by
  rcases inside_of_goOn hw hj with ⟨rfl, rfl, rfl⟩ | ⟨-, h⟩
  · exact ⟨t, hk⟩
  · exact ⟨u, h⟩

theorem World.not_locked {x : World} (h : ∀ k, (x.workers k).isOutside = true) (i : Nat) : ¬ x.Locked i := by
  rintro ⟨k, s, t, hk, -⟩
  exact Activity.ne_inside (h k) s t hk

/-! ### A strict channel -/

/-- A policy under which no message may be repeated, not even once. -/
def strictProfile : CompiledProfile :=
  ⟨{ messageLimit := 0, punishments := [.delete], emote := { enabled := false } }, [], []⟩

/-- What is known in a channel with this policy and no others. -/
def strictSurroundings : Surroundings where
  snapshot :=
    { config := { advertising := { enabled := false } }
      whitelist := []
      bannedTokens := []
      bannedPhrases := []
      promoPhrases := []
      rules := []
      standardProfile := strictProfile
      vipProfile := strictProfile }
  channel := "channel"
  live := true
  isPlatformEmote := fun _ => false
  oracle := fun _ _ => none

/-- A message of a user. -/
def greeting (roles : Roles) : ChatMessage where
  id := "1"
  userId := "7"
  userLogin := "user"
  displayName := "User"
  roles
  text := "hi"
  normalized := "hi"
  tokens := ["hi"]
  emoteOnly := false
  emoteCount := 0
  replyParent := none
  heldByAutomod := false

/-- What the spam policies look at in the message. -/
def strictCase : SpamCase := (spamCase strictSurroundings (greeting {}) []).1

theorem strictCase_penalty (n : Nat) : strictCase.penalty? n = some .textRepeats := by
  have h : strictCase.exception = none := rfl
  have h' : strictCase.emoteOnly = false := rfl
  have h'' : strictCase.profile = strictProfile := rfl
  simp [SpamCase.penalty?, h, h', h'', strictProfile]

/-- Empty records in stores with one shard each. -/
def emptyRecords : Records := .empty { shards := 1 } fun _ => 0

end ChatModeration.Moderation
