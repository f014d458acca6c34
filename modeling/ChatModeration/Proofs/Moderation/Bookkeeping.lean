import ChatModeration.Proofs.Moderation.Footprint

/-!
# Jobs on the books

What jobs do to the books (`Books.perform`): a check of a message that is compared with the history of its sender adds
the message to that history, and a policy that is violated and has a tier (`Books.sentence?`) leaves a violation and
may clear the history; a sweep removes what has expired from one shard of one store.  Records that represent books
give the answers of the books, one job after the other, and go on representing them (`Records.Represents.performAll`).
-/

namespace ChatModeration.Moderation

open Store (Ledger SameShape)

/-! ### Where the stores keep a key -/

/-- The index of the shard in which each store keeps a key. -/
def Records.layout (r : Records) : Part → String → Nat
  | .history => r.history.shardIndex
  | .spam => r.violations.spam.shardIndex
  | .emotes => r.violations.emotes.shardIndex
  | .exceptions => r.violations.exceptions.shardIndex
  | .rules => r.violations.rules.shardIndex

/-- Two records whose stores have the same shape. -/
structure Records.SameLayout (r r' : Records) : Prop where
  history : SameShape r.history r'.history
  spam : SameShape r.violations.spam r'.violations.spam
  emotes : SameShape r.violations.emotes r'.violations.emotes
  exceptions : SameShape r.violations.exceptions r'.violations.exceptions
  rules : SameShape r.violations.rules r'.violations.rules

theorem Records.SameLayout.layout_eq {r r' : Records} (h : r.SameLayout r') : r.layout = r'.layout := by
  funext part
  cases part with
  | history => exact h.history.shardIndex
  | spam => exact h.spam.shardIndex
  | emotes => exact h.emotes.shardIndex
  | exceptions => exact h.exceptions.shardIndex
  | rules => exact h.rules.shardIndex

theorem Records.SameLayout.refl (r : Records) : r.SameLayout r := ⟨.refl _, .refl _, .refl _, .refl _, .refl _⟩

theorem sameShape_escalate (v : Violations) (key : String) (tiers : List Punishment) (window now : Nat) :
    SameShape (v.escalate key tiers window now).1 v := Store.sameShape_replaceShard _ _ _

theorem sameLayout_sweep (r : Records) (now index : Nat) (part : Part) : (r.sweep now index part).SameLayout r := by
  have h : r.SameLayout r := .refl r
  cases part with
  | history => exact { h with history := Store.sameShape_reclaimShard _ _ _ }
  | spam => exact { h with spam := Store.sameShape_reclaimShard _ _ _ }
  | emotes => exact { h with emotes := Store.sameShape_reclaimShard _ _ _ }
  | exceptions => exact { h with exceptions := Store.sameShape_reclaimShard _ _ _ }
  | rules => exact { h with rules := Store.sameShape_reclaimShard _ _ _ }

theorem sameLayout_escalate {r : Records} {c : SpamCase} {p : Penalty} {user : String} {now : Nat}
    {v : ViolationRecords} {tier : Option Punishment} (he : c.escalate p user now r.violations = (v, tier)) :
    Records.SameLayout { r with violations := v } r := by
  obtain ⟨rfl, -⟩ := Prod.mk.inj he
  have h : r.SameLayout r := .refl r
  cases p with
  | exception e => exact { h with exceptions := sameShape_escalate _ _ _ _ _ }
  | emoteCeiling | emoteRepeats => exact { h with emotes := sameShape_escalate _ _ _ _ _ }
  | textRepeats => exact { h with spam := sameShape_escalate _ _ _ _ _ }

/-! ### Jobs -/

/-- The tier that a violated spam policy has for a user. -/
def Books.tier? (b : Books) (c : SpamCase) (p : Penalty) (user : String) : Option Punishment :=
  match p with
  | .exception e => pickTier e.rule.punishments (b.exceptions.count (e.rule.violationKey user))
  | .emoteCeiling | .emoteRepeats => pickTier c.profile.settings.emote.punishments (b.emotes.count user)
  | .textRepeats => pickTier c.profile.settings.punishments (b.spam.count user)

/-- The violated spam policy and its tier, if there is a policy that is violated and has one. -/
def Books.sentence? (b : Books) (c : SpamCase) (user : String) : Option (Penalty × Punishment) :=
  (c.penalty? (c.repeats ((b.history.items user).map (·.payload)))).bind fun p => (b.tier? c p user).map (p, ·)

/-- The books with a message at the end of the history of a user. -/
def Books.add (b : Books) (c : SpamCase) (user : String) (now : Nat) : Books :=
  { b with history := b.history.push Store.wordHorizon user c.fingerprint now c.profile.settings.historyLife }

/-- What a message does that is compared with the history of its sender. -/
def Books.settle (b : Books) (c : SpamCase) (user : String) (now later : Nat) : Books × Verdict :=
  match b.sentence? c user with
  | none => (b.add c user now, .none)
  | some (p, tier) =>
    ((if p.clearsHistory then (b.add c user now).forget user else b.add c user now).mark c p user later,
      .ofPunishment tier p.reason)

/-- What is done about a finding. -/
def Books.judge (b : Books) (user : String) (now later : Nat) : Finding → Books × Verdict
  | .ruleBroken _ rule =>
    match pickTier rule.punishments (b.rules.count (rule.violationKey user)) with
    | none => (b, .none)
    | some tier =>
      ({ b with rules := marked b.rules (rule.violationKey user) now rule.resetWindow }, ruleVerdict rule (some tier))
  | .watched c => b.settle c user now later
  | finding => (b, finding.immediate?.getD .none)

/-- The books without what has expired in one shard of one store. -/
def Books.sweep (b : Books) (layout : Part → String → Nat) (now index : Nat) : Part → Books
  | .history => { b with history := (b.history.reclaimShare (layout .history) now index).1 }
  | .spam => { b with spam := (b.spam.reclaimShare (layout .spam) now index).1 }
  | .emotes => { b with emotes := (b.emotes.reclaimShare (layout .emotes) now index).1 }
  | .exceptions => { b with exceptions := (b.exceptions.reclaimShare (layout .exceptions) now index).1 }
  | .rules => { b with rules := (b.rules.reclaimShare (layout .rules) now index).1 }

/-- The books after a job, and the verdict if it is a check. -/
def Books.perform (b : Books) (layout : Part → String → Nat) : Job → Books × Option Verdict
  | .check w now later m =>
    ((b.judge m.userId now later (find w m).1).1, some (b.judge m.userId now later (find w m).1).2)
  | .sweep now index part => (b.sweep layout now index part, none)

/-- The books after some jobs, one at a time, and what comes out of each of them. -/
def Books.performAll (b : Books) (layout : Part → String → Nat) : List Job → Books × List (Option Verdict)
  | [] => (b, [])
  | job :: jobs =>
    (((b.perform layout job).1.performAll layout jobs).1,
      (b.perform layout job).2 :: ((b.perform layout job).1.performAll layout jobs).2)

/-! ### Records and their books -/

theorem Keeps.sweep {τ : Type} {s : Store String τ} {l : Ledger String τ} (h : Keeps s l) (now i : Nat) :
    Keeps (s.reclaimShard now i).1 (l.reclaimShare s.shardIndex now i).1 := by
  refine ⟨(Store.sameShape_reclaimShard s now i).horizon.trans h.horizon, ?_⟩
  by_cases hi : i < s.shards.size
  · exact (h.represents.reclaimShard now hi).1
  -- there is no such shard, and no key is kept in it
  · have hsame : (l.reclaimShare s.shardIndex now i).1 = l := by
      rw [Ledger.reclaimShare, List.filter_eq_self]
      intro x _
      have hlt := s.shardIndex_lt x.key
      exact decide_eq_true (.inr (by omega))
    rw [Store.reclaimShard, dif_neg hi, hsame]
    exact h.represents

theorem Records.Represents.sweep {r : Records} {b : Books} (h : r.Represents b) (now index : Nat) (part : Part) :
    (r.sweep now index part).Represents (b.sweep r.layout now index part) := by
  have hv := h.violations
  cases part with
  | history => exact ⟨h.history.sweep now index, hv.spam, hv.emotes, hv.exceptions, hv.rules⟩
  | spam => exact ⟨h.history, hv.spam.sweep now index, hv.emotes, hv.exceptions, hv.rules⟩
  | emotes => exact ⟨h.history, hv.spam, hv.emotes.sweep now index, hv.exceptions, hv.rules⟩
  | exceptions => exact ⟨h.history, hv.spam, hv.emotes, hv.exceptions.sweep now index, hv.rules⟩
  | rules => exact ⟨h.history, hv.spam, hv.emotes, hv.exceptions, hv.rules.sweep now index⟩

theorem Keeps.payloads {τ : Type} {s : Store String τ} {l : Ledger String τ} (h : Keeps s l) (key : String) :
    (s.items key).map (·.payload) = (l.items key).map (·.payload) := by
  rw [← h.represents.items key, List.map_map]
  rfl

/-- An escalation under a spam policy finds the tier of the books. -/
theorem ViolationRecords.Represents.tier {v v' : ViolationRecords} {b : Books} (h : v.Represents b) {c : SpamCase}
    {p : Penalty} {user : String} {now : Nat} {tier : Option Punishment}
    (he : c.escalate p user now v = (v', tier)) : tier = b.tier? c p user := by
  obtain ⟨-, rfl⟩ := Prod.mk.inj he
  cases p with
  | exception e => exact (h.exceptions.escalate _ _ _ _).1
  | emoteCeiling | emoteRepeats => exact (h.emotes.escalate _ _ _ _).1
  | textRepeats => exact (h.spam.escalate _ _ _ _).1

/-- A message that is compared with the history of its sender does to records what it does to their books. -/
theorem Records.Represents.settle {r : Records} {b : Books} (h : r.Represents b) (c : SpamCase) (user : String)
    (now later : Nat) :
    (judge r user now later (.watched c)).1.Represents (b.settle c user now later).1 ∧
      (judge r user now later (.watched c)).1.SameLayout r ∧
      (judge r user now later (.watched c)).2 = (b.settle c user now later).2 := by
  let e : Store.Entry String (Fingerprint String) := ⟨r.history.shardOf user, user, now, r.history.horizon⟩
  have hv := h.violations
  have hadd := (h.history.withKey user now (.push c.fingerprint c.profile.settings.historyLife (.done ()))).1
  have hclear := (h.history.withKey user now
    (.push c.fingerprint c.profile.settings.historyLife (.clear .done))).1
  have hpay : e.items.map (·.payload) = (b.history.items user).map (·.payload) := h.history.payloads user
  have hshape := fun shard => Store.sameShape_replaceShard r.history user shard
  rw [judge, Store.withKey, Books.settle, Books.sentence?]
  cases hp : c.penalty? (c.repeats ((b.history.items user).map (·.payload))) with
  | none =>
    rw [← hpay] at hp
    rw [settle_acquit (e := e) later hp]
    exact ⟨⟨hadd, hv.spam, hv.emotes, hv.exceptions, hv.rules⟩,
      { Records.SameLayout.refl r with history := hshape _ }, rfl⟩
  | some p =>
    rw [← hpay] at hp
    rcases he : c.escalate p user later r.violations with ⟨v, tier⟩
    have htier := hv.tier he
    have hlayout := sameLayout_escalate he
    rw [settle_punish (e := e) hp he, Option.bind_some, ← htier]
    cases tier with
    | none =>
      have hv' := hv.escalate_none he
      exact ⟨⟨hadd, hv'.spam, hv'.emotes, hv'.exceptions, hv'.rules⟩, { hlayout with history := hshape _ }, rfl⟩
    | some tier =>
      have hv' := hv.escalate_some he
      refine ⟨?_, { hlayout with history := hshape _ }, rfl⟩
      cases p with
      | emoteCeiling => exact ⟨hadd, hv'.spam, hv'.emotes, hv'.exceptions, hv'.rules⟩
      | _ => exact ⟨hclear, hv'.spam, hv'.emotes, hv'.exceptions, hv'.rules⟩

theorem Records.Represents.judge {r : Records} {b : Books} (h : r.Represents b) (user : String) (now later : Nat)
    (finding : Finding) :
    (Moderation.judge r user now later finding).1.Represents (b.judge user now later finding).1 ∧
      (Moderation.judge r user now later finding).1.SameLayout r ∧
      (Moderation.judge r user now later finding).2 = (b.judge user now later finding).2 := by
  cases finding with
  | watched c => exact h.settle c user now later
  | ruleBroken position rule =>
    have hv := h.violations
    rcases he : r.violations.rules.escalate (rule.violationKey user) rule.punishments rule.resetWindow now with
      ⟨rules, tier⟩
    have hshape := sameShape_escalate r.violations.rules (rule.violationKey user) rule.punishments rule.resetWindow now
    have htier := (hv.rules.escalate (rule.violationKey user) rule.punishments rule.resetWindow now).1
    rw [he] at htier hshape
    rw [Moderation.judge, he, Books.judge, ← htier]
    have hlayout : Records.SameLayout { r with violations := { r.violations with rules } } r :=
      { Records.SameLayout.refl r with rules := hshape }
    cases tier with
    | none => exact ⟨⟨h.history, hv.spam, hv.emotes, hv.exceptions, hv.rules.escalate_none he⟩, hlayout, rfl⟩
    | some tier => exact ⟨⟨h.history, hv.spam, hv.emotes, hv.exceptions, hv.rules.escalate_some he⟩, hlayout, rfl⟩
  | _ => exact ⟨h, .refl r, rfl⟩

/-- A job does to records what it does to their books. -/
theorem Records.Represents.perform {r : Records} {b : Books} (h : r.Represents b) (job : Job) :
    (r.perform job).1.Represents (b.perform r.layout job).1 ∧ (r.perform job).1.layout = r.layout ∧
      (r.perform job).2 = (b.perform r.layout job).2 := by
  cases job with
  | check w now later m =>
    obtain ⟨hrep, hlayout, hverdict⟩ := h.judge m.userId now later (find w m).1
    rw [perform_check]
    exact ⟨hrep, hlayout.layout_eq, congrArg some hverdict⟩
  | sweep now index part => exact ⟨h.sweep now index part, (sameLayout_sweep r now index part).layout_eq, rfl⟩

/-- Jobs do to records what they do to their books. -/
theorem Records.Represents.performAll {r : Records} {b : Books} (h : r.Represents b) (jobs : List Job) :
    (r.performAll jobs).1.Represents (b.performAll r.layout jobs).1 ∧ (r.performAll jobs).1.layout = r.layout ∧
      (r.performAll jobs).2 = (b.performAll r.layout jobs).2 := by
  induction jobs generalizing r b with
  | nil => exact ⟨h, rfl, rfl⟩
  | cons job jobs ih =>
    obtain ⟨hrep, hlayout, hanswer⟩ := h.perform job
    obtain ⟨hreps, hlayouts, hanswers⟩ := ih hrep
    rw [hlayout] at hreps hlayouts hanswers
    refine ⟨hreps, hlayouts, ?_⟩
    rw [Records.performAll, Books.performAll, hanswer, hanswers]

end ChatModeration.Moderation
