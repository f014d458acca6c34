import ChatModeration.Proofs.Moderation.Bookkeeping

/-!
# Runs

The events of a run are its jobs with the records that each of them finds (`Records.events`).  What is remembered of
the messages of a user (`Records.remembered`) changes in two ways only: the check of a message that is compared with the
history adds the message, and may clear the history after that (`Event.settle`, `Books.items_settle`); and a sweep of
the shard of the user removes what has expired (`Represents.remembered_sweep`).
-/

namespace ChatModeration.Store.Ledger

theorem items_push_congr {κ τ : Type} [DecidableEq κ] {l l' : Ledger κ τ} {key : κ} (h : l.items key = l'.items key)
    (x : Line κ τ) : Ledger.items (l ++ [x]) key = Ledger.items (l' ++ [x]) key := by
  rw [items_push, items_push, h]

theorem items_push_of_ne {κ τ : Type} [DecidableEq κ] (l : Ledger κ τ) {x : Line κ τ} {key : κ} (h : x.key ≠ key) :
    Ledger.items (l ++ [x]) key = l.items key := by
  rw [items_push, if_neg h, List.append_nil]

/-- A sweep removes what has expired from the keys of its shard. -/
theorem items_reclaimShare {κ τ : Type} [DecidableEq κ] (l : Ledger κ τ) (shard : κ → Nat) (now i : Nat) (key : κ) :
    Ledger.items (l.reclaimShare shard now i).1 key =
      if shard key = i then (l.items key).filter (now < ·.expiresAt) else l.items key := by
  rw [reclaimShare, items_filter]
  split
  · rename_i hi
    refine List.filter_congr fun x hx => ?_
    have hkey : x.key = key := by simpa [items] using (List.mem_filter.1 hx).2
    simp [hkey, hi]
  · rename_i hi
    rw [List.filter_eq_self]
    intro x hx
    have hkey : x.key = key := by simpa [items] using (List.mem_filter.1 hx).2
    simp [hkey, hi]

end ChatModeration.Store.Ledger

namespace ChatModeration.Moderation

open Store (Ledger Line Item)

/-! ### Events -/

theorem filterMap_singleton {α β : Type} (f : α → Option β) (a : α) : [a].filterMap f = (f a).toList := by
  cases h : f a with
  | none => exact List.filterMap_cons_none h
  | some b => exact List.filterMap_cons_some h

/-- The sender of the message that a job checks. -/
def Job.sender? : Job → Option String
  | .check _ _ _ m => some m.userId
  | .sweep .. => none

/-- What the spam policies look at, if they look at anything. -/
def Finding.case? : Finding → Option SpamCase
  | .watched c => some c
  | _ => none

theorem Finding.case?_eq_some {finding : Finding} {c : SpamCase} (h : finding.case? = some c) :
    finding = .watched c := by
  cases finding with
  | watched c' =>
    cases h
    rfl
  | _ => cases h

/-- What the spam policies look at, if a job is the check of a message of a user that reaches them. -/
def Job.case? (user : String) : Job → Option SpamCase
  | .check w _ _ m => if m.userId = user then (find w m).1.case? else none
  | .sweep .. => none

theorem Job.case?_check (w : Surroundings) (now later : Nat) (m : ChatMessage) :
    (Job.check w now later m).case? m.userId = (find w m).1.case? := if_pos rfl

theorem Job.case?_eq_some {user : String} {job : Job} {c : SpamCase} (h : job.case? user = some c) :
    ∃ w now later m, job = .check w now later m ∧ m.userId = user ∧ (find w m).1 = .watched c := by
  cases job with
  | sweep now index part => cases h
  | check w now later m =>
    by_cases hu : m.userId = user
    · exact ⟨w, now, later, m, rfl, hu, Finding.case?_eq_some ((if_pos hu).symm.trans h)⟩
    · cases (if_neg hu).symm.trans h

/-- What the spam policies look at comes from the message and the policy for its sender. -/
theorem watched_eq {w : Surroundings} {m : ChatMessage} {c : SpamCase} (h : (find w m).1 = .watched c) :
    c.profile = profileFor w m ∧ c.fingerprint = .ofTokens m.tokens := by
  rcases find_cases w m with ⟨_, hf, -⟩ | ⟨-, ⟨_, hf⟩ | ⟨_, hf⟩ | ⟨_, hf⟩ | ⟨_, _, hf, -⟩ | ⟨hf, -⟩ | ⟨_, hf, -⟩⟩
  all_goals
    rw [h] at hf
    cases hf
  exact ⟨rfl, rfl⟩

/-- A message of a user as it is compared with the history, if a job is the check of such a message. -/
def Job.said? (user : String) (job : Job) : Option (Fingerprint String) := (job.case? user).map (·.fingerprint)

/-- Whether a message is one of text that no exception applies to. -/
def SpamCase.IsText (c : SpamCase) : Prop := c.emoteOnly = false ∧ c.exception = none

theorem SpamCase.IsText.penalty? {c : SpamCase} (h : c.IsText) (repeats : Nat) :
    c.penalty? repeats = if repeats < c.profile.settings.messageLimit then none else some .textRepeats := by
  rw [SpamCase.penalty?, h.2]
  dsimp only
  rw [h.1, if_neg Bool.false_ne_true]

/-- A message of text is punished when there are as many repeats as the policy allows. -/
theorem SpamCase.IsText.sentence? {c : SpamCase} (h : c.IsText) (b : Books) (user : String) :
    b.sentence? c user =
      if c.repeats ((b.history.items user).map (·.payload)) < c.profile.settings.messageLimit then none
      else (pickTier c.profile.settings.punishments (b.spam.count user)).map (.textRepeats, ·) := by
  rw [Books.sentence?, h.penalty?]
  split <;> rfl

/-- A job and the records that it finds. -/
structure Event where
  before : Records
  job : Job

namespace Event

/-- The records that the job leaves. -/
def after (e : Event) : Records := (e.before.perform e.job).1

/-- The verdict, if the job is a check. -/
def answer (e : Event) : Option Verdict := (e.before.perform e.job).2

end Event

namespace Records

/-- The events of a run. -/
def events (r : Records) : List Job → List Event
  | [] => []
  | job :: jobs => ⟨r, job⟩ :: (r.perform job).1.events jobs

theorem events_append (r : Records) (jobs others : List Job) :
    r.events (jobs ++ others) = r.events jobs ++ (r.performAll jobs).1.events others := by
  induction jobs generalizing r with
  | nil => rfl
  | cons job jobs ih => exact congrArg (_ :: ·) (ih _)

theorem map_job_events (r : Records) (jobs : List Job) : (r.events jobs).map (·.job) = jobs := by
  induction jobs generalizing r with
  | nil => rfl
  | cons first jobs ih => exact congrArg (_ :: ·) (ih _)

/-- An event finds what the jobs before it have left. -/
theorem events_split {r : Records} {jobs : List Job} {past rest : List Event} {e : Event}
    (h : r.events jobs = past ++ e :: rest) :
    past = r.events (past.map (·.job)) ∧ e.before = (r.performAll (past.map (·.job))).1 := by
  have hjobs : jobs = past.map (·.job) ++ e.job :: rest.map (·.job) := by
    rw [← map_job_events r jobs, h, List.map_append, List.map_cons]
  have hsplit : past ++ e :: rest =
      r.events (past.map (·.job)) ++ ⟨(r.performAll (past.map (·.job))).1, e.job⟩ ::
        ((r.performAll (past.map (·.job))).1.perform e.job).1.events (rest.map (·.job)) := by
    rw [← h, hjobs, events_append, events]
  have hlength : past.length = (r.events (past.map (·.job))).length := by
    simpa using (congrArg List.length (map_job_events r (past.map (·.job)))).symm
  obtain ⟨hpast, hrest⟩ := List.append_inj hsplit hlength
  exact ⟨hpast, congrArg Event.before (List.cons.inj hrest).1⟩

theorem Represents.events {r : Records} {b : Books} (h : r.Represents b) {jobs : List Job} {e : Event}
    (he : e ∈ r.events jobs) : ∃ c, e.before.Represents c := by
  induction jobs generalizing r b with
  | nil => cases he
  | cons job jobs ih =>
    rcases List.mem_cons.1 he with rfl | he
    · exact ⟨b, h⟩
    · exact ih (h.perform job).1 he

/-- The last job of a run, as an event. -/
theorem Represents.events_append_singleton {r : Records} {b : Books} (h : r.Represents b) (jobs : List Job)
    (job : Job) :
    ∃ e : Event, e.job = job ∧ e.before = (r.performAll jobs).1 ∧ (∃ c, e.before.Represents c) ∧
      r.events (jobs ++ [job]) = r.events jobs ++ [e] ∧ (r.performAll (jobs ++ [job])).1 = e.after := by
  refine ⟨⟨(r.performAll jobs).1, job⟩, rfl, rfl, ⟨_, (h.performAll jobs).1⟩, r.events_append jobs [job], ?_⟩
  rw [performAll_append]
  rfl

/-- What is remembered of the messages of a user, oldest first. -/
def remembered (r : Records) (user : String) : List (Line String (Fingerprint String)) :=
  (r.history.items user).map Item.line

theorem Represents.remembered {r : Records} {b : Books} (h : r.Represents b) (user : String) :
    r.remembered user = b.history.items user := h.history.represents.items user

theorem Represents.length_remembered {r : Records} {b : Books} (h : r.Represents b) (user : String) :
    (r.remembered user).length = r.history.count user := by
  rw [h.remembered, ← Ledger.count_eq, h.history.represents.count]

end Records

/-! ### The history of a user -/

/-- How a message of a user stands in the history. -/
def SpamCase.line (c : SpamCase) (user : String) (now : Nat) : Line String (Fingerprint String) :=
  ⟨user, c.fingerprint, now, Store.expiry Store.wordHorizon now c.profile.settings.historyLife⟩

namespace Books

theorem history_mark (b : Books) (c : SpamCase) (p : Penalty) (user : String) (now : Nat) :
    (b.mark c p user now).history = b.history := by
  cases p <;> rfl

theorem items_add (b : Books) (c : SpamCase) (user : String) (now : Nat) (key : String) :
    (b.add c user now).history.items key =
      b.history.items key ++ if user = key then [c.line user now] else [] :=
  Ledger.items_push b.history (c.line user now) key

theorem settle_acquit {b : Books} {c : SpamCase} {user : String} (h : b.sentence? c user = none) (now later : Nat) :
    b.settle c user now later = (b.add c user now, .none) := by
  rw [settle, h]

theorem settle_textRepeats {b : Books} {c : SpamCase} {user : String} {tier : Punishment}
    (h : b.sentence? c user = some (.textRepeats, tier)) (now later : Nat) :
    b.settle c user now later =
      (((b.add c user now).forget user).mark c .textRepeats user later, .ofPunishment tier "repeated messages") := by
  rw [settle, h]
  rfl

/-- A message of somebody else makes no difference to the history of a user. -/
theorem items_settle_of_ne (b : Books) (c : SpamCase) {user key : String} (now later : Nat) (h : user ≠ key) :
    (b.settle c user now later).1.history.items key = b.history.items key := by
  have hadd : (b.add c user now).history.items key = b.history.items key := by
    rw [items_add, if_neg h, List.append_nil]
  unfold settle
  split
  · exact hadd
  · rw [history_mark]
    split
    · rw [forget, Ledger.items_clear, if_neg h.symm, hadd]
    · exact hadd

/-- A message is added to the history of its sender, which may be cleared then. -/
theorem items_settle (b : Books) (c : SpamCase) (user : String) (now later : Nat) :
    (b.settle c user now later).1.history.items user =
      if (b.sentence? c user).any (·.1.clearsHistory) then [] else b.history.items user ++ [c.line user now] := by
  have hadd : (b.add c user now).history.items user = b.history.items user ++ [c.line user now] := by
    rw [items_add, if_pos rfl]
  unfold settle
  split
  · rename_i hs
    rw [hs, hadd]
    rfl
  · rename_i p tier hs
    rw [hs, history_mark, Option.any_some]
    dsimp only
    split
    · rw [forget, Ledger.items_clear, if_pos rfl]
    · exact hadd

/-- A message of somebody else makes no difference to the repeats that have been punished. -/
theorem spam_settle_of_ne (b : Books) (c : SpamCase) {user key : String} (now later : Nat) (h : user ≠ key) :
    (b.settle c user now later).1.spam.items key = b.spam.items key := by
  unfold settle
  split
  · rfl
  · rename_i p tier _
    have hspam : (if p.clearsHistory then (b.add c user now).forget user else b.add c user now).spam = b.spam := by
      split <;> rfl
    cases p with
    | textRepeats => exact (Ledger.items_push _ _ _).trans (by rw [if_neg h, List.append_nil, hspam])
    | _ => exact congrArg (Ledger.items · key) hspam

/-- Findings that the spam policies do not look at leave the history alone, and the repeats that have been punished. -/
theorem judge_of_no_case (b : Books) (user : String) (now later : Nat) {finding : Finding}
    (h : finding.case? = none) :
    (b.judge user now later finding).1.history = b.history ∧ (b.judge user now later finding).1.spam = b.spam := by
  cases finding with
  | watched c => cases h
  | ruleBroken position rule =>
    unfold judge
    dsimp only
    split <;> exact ⟨rfl, rfl⟩
  | _ => exact ⟨rfl, rfl⟩

/-- The check of a message of somebody else, or of one that the spam policies do not look at. -/
theorem perform_of_no_case (b : Books) (layout : Part → String → Nat) {w : Surroundings} {now later : Nat}
    {m : ChatMessage} {user : String} (hc : (Job.check w now later m).case? user = none) :
    (b.perform layout (.check w now later m)).1.history.items user = b.history.items user ∧
      (b.perform layout (.check w now later m)).1.spam.items user = b.spam.items user := by
  rw [perform]
  cases hf : (find w m).1.case? with
  | none =>
    obtain ⟨hhistory, hspam⟩ := b.judge_of_no_case m.userId now later hf
    exact ⟨congrArg (Ledger.items · user) hhistory, congrArg (Ledger.items · user) hspam⟩
  | some c =>
    have hu : m.userId ≠ user := by
      rintro rfl
      rw [Job.case?_check, hf] at hc
      cases hc
    rw [Finding.case?_eq_some hf]
    exact ⟨b.items_settle_of_ne c now later hu, b.spam_settle_of_ne c now later hu⟩

end Books

namespace Records

theorem Represents.remembered_sweep {r : Records} {b : Books} (h : r.Represents b) (now index : Nat) (part : Part)
    (user : String) :
    (r.sweep now index part).remembered user =
      if part = .history ∧ r.layout .history user = index then (r.remembered user).filter (now < ·.expiresAt)
      else r.remembered user := by
  rw [(h.sweep now index part).remembered, h.remembered]
  cases part with
  | history =>
    simp only [true_and]
    exact Ledger.items_reclaimShare b.history (r.layout .history) now index user
  | _ => rfl

theorem Represents.remembered_of_no_case {r : Records} {b : Books} (h : r.Represents b) {w : Surroundings}
    {now later : Nat} {m : ChatMessage} {user : String} (hc : (Job.check w now later m).case? user = none) :
    (r.perform (.check w now later m)).1.remembered user = r.remembered user := by
  rw [(h.perform _).1.remembered, h.remembered, (b.perform_of_no_case _ hc).1]

/-- The check of a message that is compared with the history of its sender. -/
theorem Represents.perform_watched {r : Records} {b : Books} (h : r.Represents b) {w : Surroundings}
    {now later : Nat} {m : ChatMessage} {c : SpamCase} (hf : (find w m).1 = .watched c) :
    (r.perform (.check w now later m)).1.Represents (b.settle c m.userId now later).1 ∧
      (r.perform (.check w now later m)).2 = some (b.settle c m.userId now later).2 := by
  obtain ⟨hrep, -, hanswer⟩ := h.perform (.check w now later m)
  rw [Books.perform, hf] at hrep hanswer
  exact ⟨hrep, hanswer⟩

end Records

/-- The check of a message that is compared with the history of its sender, as an event. -/
theorem Event.settle {e : Event} {b : Books} (h : e.before.Represents b) {user : String} {c : SpamCase}
    (hc : e.job.case? user = some c) :
    ∃ w now later m, e.job = .check w now later m ∧ m.userId = user ∧ (find w m).1 = .watched c ∧
      e.after.Represents (b.settle c user now later).1 ∧ e.answer = some (b.settle c user now later).2 := by
  obtain ⟨w, now, later, m, hjob, rfl, hf⟩ := Job.case?_eq_some hc
  rw [Event.after, Event.answer, hjob]
  exact ⟨w, now, later, m, rfl, rfl, hf, h.perform_watched hf⟩

/-- An event that adds nothing to the history of a user leaves a part of it. -/
theorem Event.remembered_sublist {e : Event} {b : Books} (h : e.before.Represents b) {user : String}
    (hc : e.job.case? user = none) :
    (e.after.remembered user).Sublist (e.before.remembered user) := by
  cases e with
  | mk r job =>
    cases job with
    | check w now later m =>
      rw [Event.after, h.remembered_of_no_case hc]
    | sweep now index part =>
      rw [Event.after, Records.perform, h.remembered_sweep]
      split
      · exact List.filter_sublist
      · exact List.Sublist.refl _

/-! ### A channel without repetitions -/

/-- A configuration under which nobody may say a message twice in a row. -/
def twiceConfig : Config :=
  let profile : SpamProfile :=
    { messageLimit := 2, punishments := [.delete, .ban], emote := { enabled := false } }
  { advertising := { enabled := false }, rules := [], spam := ⟨profile, profile⟩ }

/-- What is known in a channel with this configuration. -/
def twiceSurroundings : Surroundings := { strictSurroundings with snapshot := .compile twiceConfig }

/-- A message of one word. -/
def saying (user word : String) : ChatMessage :=
  { greeting {} with userId := user, text := word, normalized := word, tokens := [word] }

/-- Two users say the same in turns: one of them is punished at the second time, and starts anew. -/
def twoGreetings : List Job :=
  [.check twiceSurroundings 1 1 (saying "7" "hi"), .check twiceSurroundings 2 2 (saying "8" "hi"),
    .check twiceSurroundings 3 3 (saying "7" "hi"), .check twiceSurroundings 4 4 (saying "7" "hi")]

end ChatModeration.Moderation
