import ChatModeration.Moderation.Desk
import ChatModeration.Proofs.Moderation.Passage
import ChatModeration.Proofs.Moderation.Concurrent

/-!
# Accounts of a window

Each message that is handled is counted once and leads to one action at most.  From the opening of a window on the
counters agree with the actions, whatever else happens at the desk meanwhile, and each action says what the check has
decided (`accounted_of_run`).
-/

namespace ChatModeration

/-- The kind of verdicts that an action carries out. -/
def Action.kind : Action → VerdictKind
  | ban _ _ => .ban
  | timeout _ _ _ => .timeout
  | deleteMessage _ => .delete

/-- What a verdict on a message leads to. -/
theorem Verdict.enforce_cases (v : Verdict) (m : ChatMessage) :
    (v.kind = .none ∧ v.enforce m = Option.none) ∨
      (v.kind = .delete ∧ m.heldByAutomod = true ∧ v.enforce m = Option.none) ∨
      (v.kind = .delete ∧ m.heldByAutomod = false ∧ v.enforce m = some (.deleteMessage m.id)) ∨
      (v.kind = .timeout ∧ v.enforce m = some (.timeout m.userId (v.seconds?.getD 0) v.reason)) ∨
      (v.kind = .ban ∧ v.enforce m = some (.ban m.userId v.reason)) := by
  unfold Verdict.enforce
  cases hk : v.kind <;> cases hm : m.heldByAutomod <;> simp

namespace Moderation

/-! ### What happens -/

/-- What happens next at a desk, where whatever is known and remembered may change between messages. -/
inductive Turn where
  /-- A message is handled; the clock is read once more before an escalation under a spam policy. -/
  | message (m : ChatMessage) (later : Nat)
  | change (records : Records) (surroundings : Surroundings) (now : Nat)
  | startWindow | endWindow
  | countMessage (heldByAutomod : Bool)
  | countModeratorAction

/-- The message that is handled, if one is. -/
def Turn.message? : Turn → Option ChatMessage
  | message m _ => some m
  | _ => none

/-- A message that is handled at a desk. -/
structure Handled where
  desk : Desk
  message : ChatMessage
  later : Nat

/-- Checks a message, counts the verdict and says what has to be done, where the clock is read once more. -/
def Desk.handleAt (d : Desk) (later : Nat) (m : ChatMessage) : Desk × Response :=
  let (records, verdict, questions) := check d.records d.surroundings d.now later m
  ({ d with records, stats := d.stats.recordVerdict verdict.kind }, ⟨verdict, questions, verdict.enforce m⟩)

namespace Handled

/-- How the check goes. -/
def passage (h : Handled) : Passage :=
  Moderation.passage h.desk.records h.desk.surroundings h.desk.now h.later h.message

/-- The answer. -/
def response (h : Handled) : Response := (h.desk.handleAt h.later h.message).2

/-- The actions that are taken. -/
def actions (h : Handled) : List Action := h.response.action.toList

/-- Whether the message would be deleted if it had not been held back. -/
def isSpared (h : Handled) : Bool := h.response.verdict.kind == .delete && h.message.heldByAutomod

end Handled

namespace Desk

/-- The desk after a turn, and the message if one has been handled. -/
def turn (d : Desk) : Turn → Desk × Option Handled
  | .message m later => ((d.handleAt later m).1, some ⟨d, m, later⟩)
  | .change records surroundings now => ({ d with records, surroundings, now }, none)
  | .startWindow => ({ d with stats := d.stats.startWindow d.now }, none)
  | .endWindow => ({ d with stats := d.stats.endWindow.1 }, none)
  | .countMessage held => ({ d with stats := d.stats.recordMessage held }, none)
  | .countModeratorAction => ({ d with stats := d.stats.recordModeratorAction }, none)

/-- The desk after some turns, and the messages that have been handled. -/
def turns (d : Desk) : List Turn → Desk × List Handled
  | [] => (d, [])
  | t :: ts =>
    let (d, handled) := d.turn t
    let (d, later) := d.turns ts
    (d, handled.toList ++ later)

/-- Everything that happens at a desk is a turn. -/
theorem step_eq_turn (d : Desk) (o : Occurrence) :
    ∃ t, (d.turn t).1 = (d.step o).1 ∧ (d.turn t).2.map (·.response) = (d.step o).2 ∧ t ≠ .startWindow := by
  cases o with
  | message m => exact ⟨.message m d.now, rfl, rfl, nofun⟩
  | clock now => exact ⟨.change d.records d.surroundings now, rfl, rfl, nofun⟩
  | reclaim => exact ⟨.change (d.records.reclaim d.now).1 d.surroundings d.now, rfl, rfl, nofun⟩
  | snapshot s => exact ⟨.change d.records { d.surroundings with snapshot := s } d.now, rfl, rfl, nofun⟩
  | live isLive => exact ⟨.change d.records { d.surroundings with live := isLive } d.now, rfl, rfl, nofun⟩
  | forget user =>
    exact ⟨.change { d.records with history := (d.records.history.clear user).1 } d.surroundings d.now, rfl, rfl,
      nofun⟩

theorem turns_cons (d : Desk) (t : Turn) (ts : List Turn) :
    d.turns (t :: ts) = (((d.turn t).1.turns ts).1, (d.turn t).2.toList ++ ((d.turn t).1.turns ts).2) := rfl

theorem turns_append (d : Desk) (ts us : List Turn) :
    d.turns (ts ++ us) = (((d.turns ts).1.turns us).1, (d.turns ts).2 ++ ((d.turns ts).1.turns us).2) := by
  induction ts generalizing d with
  | nil => rfl
  | cons t ts ih => rw [List.cons_append, turns_cons, turns_cons, ih, List.append_assoc]

theorem map_message_turns (d : Desk) (ts : List Turn) :
    (d.turns ts).2.map (·.message) = ts.filterMap Turn.message? := by
  induction ts generalizing d with
  | nil => rfl
  | cons t ts ih =>
    rw [turns_cons, List.map_append, ih]
    cases t <;> rfl

end Desk

/-! ### Actions -/

/-- Whether an action is about a message that has been handled and says what the check has decided. -/
def Handled.Justifies (h : Handled) : Action → Prop
  | .ban user reason => user = h.message.userId ∧ reason = h.response.verdict.reason
  | .timeout user seconds reason =>
    user = h.message.userId ∧ reason = h.response.verdict.reason ∧
      ∃ tier, h.passage.punishment = some tier ∧ tier.action = .timeout ∧ seconds = tier.seconds
  | .deleteMessage id => id = h.message.id ∧ h.message.heldByAutomod = false

/-- What is true of the verdict and the actions on any message that has been handled. -/
structure Handled.Faithful (h : Handled) : Prop where
  verdict : h.response.verdict = h.passage.verdict
  allowed : h.passage.stop.Allows h.passage.punishment h.response.verdict
  once : h.actions.length ≤ 1
  justified : ∀ a ∈ h.actions, h.Justifies a

theorem seconds_ofPunishment {tier : Punishment} (h : tier.action = .timeout) (reason : String) :
    (Verdict.ofPunishment tier reason).seconds? = some tier.seconds := by
  simp [Verdict.seconds?, Verdict.ofPunishment, Punishment.duration, h]

/-- A timeout carries out a punishment that has been picked. -/
theorem Stop.Allows.timeout {stop : Stop} {punishment : Option Punishment} {v : Verdict}
    (h : stop.Allows punishment v) (hv : v.kind = .timeout) :
    ∃ tier, punishment = some tier ∧ tier.action = .timeout ∧ v.seconds? = some tier.seconds := by
  have hpicked : ∃ tier reason, punishment = some tier ∧ v = .ofPunishment tier reason := by
    cases stop with
    | bypassed | unwatched | bannedWord | advertising =>
      obtain ⟨-, rfl⟩ := h
      cases hv
    | rule position name =>
      obtain ⟨tier, hp, hverdict⟩ := h
      exact ⟨tier, _, hp, hverdict⟩
    | longWord =>
      obtain ⟨tier, hp, hverdict⟩ := h
      exact ⟨tier, _, hp, hverdict⟩
    | watched profile emoteOnly exception =>
      obtain ⟨-, rfl⟩ | ⟨p, tier, hp, hverdict⟩ := h
      · cases hv
      · exact ⟨tier, _, hp, hverdict⟩
  obtain ⟨tier, reason, hp, rfl⟩ := hpicked
  have haction : tier.action = .timeout := by
    cases ha : tier.action <;> simp [Verdict.ofPunishment, PunishmentKind.verdictKind, ha] at hv ⊢
  exact ⟨tier, hp, haction, seconds_ofPunishment haction reason⟩

theorem Handled.faithful (h : Handled) : h.Faithful := by
  have hgoes : Goes h.desk.records h.desk.surroundings h.desk.now h.later h.message h.passage := goes_passage ..
  have hverdict : h.response.verdict = h.passage.verdict := congrArg (·.2.1) hgoes.result_eq
  have hallowed : h.passage.stop.Allows h.passage.punishment h.response.verdict := hverdict ▸ hgoes.allows
  refine ⟨hverdict, hallowed, Option.length_toList_le, fun a ha => ?_⟩
  have henforce : h.response.verdict.enforce h.message = some a := Option.mem_toList.1 ha
  rcases h.response.verdict.enforce_cases h.message with ⟨-, hnone⟩ | ⟨-, -, hnone⟩ | ⟨-, hheld, hdelete⟩ |
    ⟨hkind, htimeout⟩ | ⟨-, hban⟩
  · cases hnone.symm.trans henforce
  · cases hnone.symm.trans henforce
  · obtain rfl := Option.some.inj (hdelete.symm.trans henforce)
    exact ⟨rfl, hheld⟩
  · obtain rfl := Option.some.inj (htimeout.symm.trans henforce)
    obtain ⟨tier, hpicked, hact, hseconds⟩ := hallowed.timeout hkind
    exact ⟨rfl, rfl, tier, hpicked, hact, by rw [hseconds, Option.getD_some]⟩
  · obtain rfl := Option.some.inj (hban.symm.trans henforce)
    exact ⟨rfl, rfl⟩

/-! ### Counters -/

/-- The number of actions of a kind. -/
def countActions (kind : VerdictKind) (handled : List Handled) : Nat :=
  (handled.flatMap Handled.actions).countP (·.kind == kind)

/-- The second counters are the first ones and the actions for some messages. -/
structure Booked (s s' : StreamStats) (handled : List Handled) : Prop where
  bans : s'.bans = s.bans + countActions .ban handled
  timeouts : s'.timeouts = s.timeouts + countActions .timeout handled
  deletes : s'.deletes = s.deletes + countActions .delete handled + handled.countP Handled.isSpared

theorem countActions_append (kind : VerdictKind) (handled others : List Handled) :
    countActions kind (handled ++ others) = countActions kind handled + countActions kind others := by
  rw [countActions, List.flatMap_append, List.countP_append]
  rfl

theorem Booked.append {s s' s'' : StreamStats} {handled others : List Handled} (h : Booked s s' handled)
    (h' : Booked s' s'' others) : Booked s s'' (handled ++ others) := by
  refine ⟨?_, ?_, ?_⟩
  · rw [h'.bans, h.bans, countActions_append, Nat.add_assoc]
  · rw [h'.timeouts, h.timeouts, countActions_append, Nat.add_assoc]
  · rw [h'.deletes, h.deletes, countActions_append, List.countP_append]
    omega

/-- A message is counted as the action that its verdict leads to, or would lead to. -/
theorem booked_message (h : Handled) :
    Booked h.desk.stats (h.desk.stats.recordVerdict h.response.verdict.kind) [h] := by
  have haction : h.actions = (h.response.verdict.enforce h.message).toList := rfl
  rcases h.response.verdict.enforce_cases h.message with ⟨hkind, hnone⟩ | ⟨hkind, hheld, hnone⟩ |
    ⟨hkind, hheld, hdelete⟩ | ⟨hkind, htimeout⟩ | ⟨hkind, hban⟩
  · rw [hnone] at haction
    constructor <;> simp [countActions, StreamStats.recordVerdict, Handled.isSpared, *]
  · rw [hnone] at haction
    constructor <;> simp [countActions, StreamStats.recordVerdict, Handled.isSpared, *]
  · rw [hdelete] at haction
    constructor <;> simp [countActions, StreamStats.recordVerdict, Handled.isSpared, Action.kind, *]
  · rw [htimeout] at haction
    constructor <;> simp [countActions, StreamStats.recordVerdict, Handled.isSpared, Action.kind, *]
  · rw [hban] at haction
    constructor <;> simp [countActions, StreamStats.recordVerdict, Handled.isSpared, Action.kind, *]

theorem booked_turn (d : Desk) {t : Turn} (ht : t ≠ .startWindow) :
    Booked d.stats (d.turn t).1.stats (d.turn t).2.toList := by
  cases t with
  | message m later => exact booked_message ⟨d, m, later⟩
  | startWindow => exact absurd rfl ht
  | change | endWindow | countMessage | countModeratorAction => exact ⟨rfl, rfl, rfl⟩

theorem booked_turns (d : Desk) {ts : List Turn} (hts : .startWindow ∉ ts) :
    Booked d.stats (d.turns ts).1.stats (d.turns ts).2 := by
  induction ts generalizing d with
  | nil => exact ⟨rfl, rfl, rfl⟩
  | cons t ts ih =>
    obtain ⟨ht, hts⟩ := List.ne_and_not_mem_of_not_mem_cons hts
    exact (booked_turn d (Ne.symm ht)).append (ih (d.turn t).1 hts)

/-- Since the last opening of a window each message has been counted as the action that it has led to. -/
theorem accounted_of_run (d : Desk) (before since : List Turn) (h : .startWindow ∉ since) :
    let stats := (d.turns (before ++ .startWindow :: since)).1.stats
    ∃ handled : List Handled,
      (d.turns (before ++ .startWindow :: since)).2 = (d.turns before).2 ++ handled ∧
      handled.map (·.message) = since.filterMap Turn.message? ∧
      stats.bans = countActions .ban handled ∧
      stats.timeouts = countActions .timeout handled ∧
      stats.deletes = countActions .delete handled + handled.countP Handled.isSpared ∧
      ∀ h ∈ handled, h.Faithful := by
  intro stats
  let opened := ((d.turns before).1.turn .startWindow).1
  have hrun : d.turns (before ++ .startWindow :: since) =
      ((opened.turns since).1, (d.turns before).2 ++ (opened.turns since).2) := Desk.turns_append ..
  have hbooked := booked_turns opened h
  have hstats : stats = (opened.turns since).1.stats := congrArg (·.1.stats) hrun
  rw [hstats]
  -- all counters of a window that has just been opened are zero
  refine ⟨(opened.turns since).2, congrArg Prod.snd hrun, opened.map_message_turns since,
    hbooked.bans.trans (Nat.zero_add _), hbooked.timeouts.trans (Nat.zero_add _), ?_, fun h _ => h.faithful⟩
  rw [hbooked.deletes, Nat.add_assoc]
  exact Nat.zero_add _

/-- Two messages are to be deleted, of which one is held back. -/
theorem accounted_of_run_greetings :
    let d : Desk := ⟨strictSurroundings, emptyRecords, { deletes := 5 }, 0⟩
    let since : List Turn := [.message (greeting {}) 0, .message { greeting {} with heldByAutomod := true } 0]
    .startWindow ∉ since ∧ (d.turns (.startWindow :: since)).1.stats.deletes = 2 ∧
      (d.turns (.startWindow :: since)).2.flatMap Handled.actions = [.deleteMessage "1"] ∧
      ∀ h ∈ (d.turns (.startWindow :: since)).2, h.Faithful := by
  intro d since
  have hsince : .startWindow ∉ since := by simp [since]
  have hall := accounted_of_run d [] since hsince
  rw [List.nil_append] at hall
  obtain ⟨handled, hsplit, -, -, -, hdeletes, hfaithful⟩ := hall
  have hactions : (d.turns (.startWindow :: since)).2.flatMap Handled.actions = [.deleteMessage "1"] := by
    decide +kernel
  have hspared : (d.turns (.startWindow :: since)).2.countP Handled.isSpared = 1 := by decide +kernel
  have hhandled : (d.turns (.startWindow :: since)).2 = handled := hsplit
  rw [← hhandled, hspared, countActions, hactions] at hdeletes
  exact ⟨hsince, hdeletes, hactions, hhandled ▸ hfaithful⟩

end Moderation

end ChatModeration
