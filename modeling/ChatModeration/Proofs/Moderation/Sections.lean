import ChatModeration.Proofs.Moderation.Concurrent
import ChatModeration.Proofs.Store.Shards

/-!
# Sections next to jobs

Sections change the shared records step by step, and jobs one at a time change records of their own.  Up to the moment
at which a section takes effect, the shard of the history that it holds is ahead of the records of the jobs, and after
it the shard may still have to be cleared (`Section.Agrees`); all else is the same (`Refines`), after every kind of
step.
-/

namespace ChatModeration.Moderation

open Store (Shard SameShape SameElsewhere)

/-! ### One job at a time -/

theorem performAll_append (r : Records) (jobs : List Job) (job : Job) :
    r.performAll (jobs ++ [job]) =
      (((r.performAll jobs).1.perform job).1, (r.performAll jobs).2 ++ [((r.performAll jobs).1.perform job).2]) := by
  induction jobs generalizing r with
  | nil => rfl
  | cons first jobs ih =>
    rw [List.cons_append, Records.performAll, ih]
    rfl

theorem perform_check (r : Records) (w : Surroundings) (now later : Nat) (m : ChatMessage) :
    r.perform (.check w now later m) =
      ((judge r m.userId now later (find w m).1).1, some (judge r m.userId now later (find w m).1).2) := rfl

theorem perform_conclude (r : Records) {w : Surroundings} {m : ChatMessage} {v : Verdict} (now later : Nat)
    (hv : (find w m).1.immediate? = some v) : r.perform (.check w now later m) = (r, some v) := by
  rw [perform_check]
  cases hf : (find w m).1 with
  | ruleBroken position rule =>
    rw [hf] at hv
    cases hv
  | watched spam =>
    rw [hf] at hv
    cases hv
  | _ =>
    rw [hf] at hv
    cases hv
    rfl

theorem perform_rule {r : Records} {w : Surroundings} {m : ChatMessage} {now position : Nat} {rule : Rule}
    {rules : Violations} {tier : Option Punishment} (later : Nat) (hf : (find w m).1 = .ruleBroken position rule)
    (he : r.violations.rules.escalate (rule.violationKey m.userId) rule.punishments rule.resetWindow now =
      (rules, tier)) :
    r.perform (.check w now later m) =
      ({ r with violations := { r.violations with rules } }, some (ruleVerdict rule tier)) := by
  rw [perform_check, hf]
  simp only [judge, he]
  cases tier <;> rfl

theorem settle_acquit {c : SpamCase} {v : ViolationRecords} {e : Store.Entry String (Fingerprint String)}
    (later : Nat) (hp : c.penalty? (c.repeats (e.items.map (·.payload))) = none) :
    c.settle v later e = (e.push c.fingerprint c.profile.settings.historyLife, v, .none) := by
  simp only [SpamCase.settle, hp]

theorem settle_punish {c : SpamCase} {v v' : ViolationRecords} {e : Store.Entry String (Fingerprint String)}
    {later : Nat} {p : Penalty} {tier : Option Punishment}
    (hp : c.penalty? (c.repeats (e.items.map (·.payload))) = some p)
    (he : c.escalate p e.key later v = (v', tier)) :
    c.settle v later e =
      match tier with
      | none => (e.push c.fingerprint c.profile.settings.historyLife, v', .none)
      | some tier =>
        (if p.clearsHistory then (e.push c.fingerprint c.profile.settings.historyLife).clear.1
          else e.push c.fingerprint c.profile.settings.historyLife, v', .ofPunishment tier p.reason) := by
  simp only [SpamCase.settle, hp, he]
  cases tier <;> rfl

/-! ### Sections, one at a time -/

namespace Section

/-- The repeats of the message in a history. -/
def repeats (s : Section) (h : History) : Nat := s.spam.repeats ((h.items s.message.userId).map (·.payload))

/-- What the history of the sender is when the section gets hold of it. -/
def entry (s : Section) (h : History) : Store.Entry String (Fingerprint String) :=
  ⟨h.shardOf s.message.userId, s.message.userId, s.now, h.horizon⟩

/-- The shard of the history of the sender with the message in it. -/
def pushedShard (s : Section) (h : History) : Shard String (Fingerprint String) :=
  ((s.entry h).push s.spam.fingerprint s.spam.profile.settings.historyLife).shard

/-- The history with another shard for the sender. -/
def replace (s : Section) (h : History) (shard : Shard String (Fingerprint String)) : History :=
  h.replaceShard s.message.userId shard

/-- Whether the section is one for its message. -/
def Fits (s : Section) : Prop := (find s.surroundings s.message).1 = .watched s.spam

theorem perform_job {s : Section} (hs : s.Fits) {r : Records} {later : Nat}
    {e : Store.Entry String (Fingerprint String)} {v : ViolationRecords} {verdict : Verdict}
    (hsettle : s.spam.settle r.violations later (s.entry r.history) = (e, v, verdict)) :
    r.perform (s.job later) = (⟨s.replace r.history e.shard, v⟩, some verdict) := by
  rw [job, perform_check, hs, judge, Store.withKey]
  rw [show s.spam.settle r.violations later ⟨r.history.shardOf s.message.userId, s.message.userId, s.now,
    r.history.horizon⟩ = (e, v, verdict) from hsettle]
  rfl

theorem perform_acquit {s : Section} (hs : s.Fits) (r : Records) (later : Nat)
    (hp : s.spam.penalty? (s.repeats r.history) = none) :
    r.perform (s.job later) = (⟨s.replace r.history (s.pushedShard r.history), r.violations⟩, some .none) :=
  perform_job hs (settle_acquit later hp)

/-- An escalation that finds no tier. -/
theorem perform_pardon {s : Section} (hs : s.Fits) {r : Records} {later : Nat} {p : Penalty} {v : ViolationRecords}
    (hp : s.spam.penalty? (s.repeats r.history) = some p)
    (he : s.spam.escalate p s.message.userId later r.violations = (v, none)) :
    r.perform (s.job later) = (⟨s.replace r.history (s.pushedShard r.history), v⟩, some .none) :=
  perform_job hs (settle_punish (e := s.entry r.history) hp he)

/-- The shard of the history of the sender after an escalation. -/
def punishedShard (s : Section) (p : Penalty) (h : History) : Shard String (Fingerprint String) :=
  if p.clearsHistory then ((s.pushedShard h).clear s.message.userId).1 else s.pushedShard h

theorem perform_punish {s : Section} (hs : s.Fits) {r : Records} {later : Nat} {p : Penalty} {v : ViolationRecords}
    {tier : Punishment} (hp : s.spam.penalty? (s.repeats r.history) = some p)
    (he : s.spam.escalate p s.message.userId later r.violations = (v, some tier)) :
    r.perform (s.job later) =
      (⟨s.replace r.history (s.punishedShard p r.history), v⟩, some (.ofPunishment tier p.reason)) := by
  rw [perform_job hs (settle_punish (e := s.entry r.history) hp he), punishedShard]
  cases p.clearsHistory <;> rfl

end Section

/-! ### The records of the jobs that have taken effect -/

/--
The shard of the sender in the shared history `h`, next to a history `a` in which the section has taken effect or not
yet, as far as it has come.
-/
def Section.Agrees (s : Section) (a h : History) : Stage → Prop
  | .entered => h.shardOf s.message.userId = a.shardOf s.message.userId
  | .counted n => h.shardOf s.message.userId = a.shardOf s.message.userId ∧ n = s.repeats a
  | .pushed n => h.shardOf s.message.userId = s.pushedShard a ∧ n = s.repeats a
  | .violated p _ => h.shardOf s.message.userId = s.pushedShard a ∧ s.spam.penalty? (s.repeats a) = some p
  | .clearing _ _ => a.shardOf s.message.userId = ((h.shardOf s.message.userId).clear s.message.userId).1
  | .settled _ _ => h.shardOf s.message.userId = a.shardOf s.message.userId

/-- Only the shard of the sender matters. -/
theorem Section.Agrees.congr {s : Section} {a b h g : History} {t : Stage} (hs : s.Agrees a h t)
    (hab : b.shardOf s.message.userId = a.shardOf s.message.userId)
    (hhg : g.shardOf s.message.userId = h.shardOf s.message.userId) (hz : b.horizon = a.horizon) :
    s.Agrees b g t := by
  have hrepeats : s.repeats b = s.repeats a := by
    rw [Section.repeats, Section.repeats, Store.items, Store.items, hab]
  have hpushed : s.pushedShard b = s.pushedShard a := by
    rw [Section.pushedShard, Section.pushedShard, Section.entry, Section.entry, hab, hz]
  cases t with
  | entered => exact hhg.trans (Eq.trans hs hab.symm)
  | counted n => exact ⟨hhg.trans (hs.1.trans hab.symm), hs.2.trans hrepeats.symm⟩
  | pushed n => exact ⟨hhg.trans (hs.1.trans hpushed.symm), hs.2.trans hrepeats.symm⟩
  | violated p later => exact ⟨hhg.trans (hs.1.trans hpushed.symm), by rw [hrepeats]; exact hs.2⟩
  | clearing later v => exact hab.trans (Eq.trans hs (by rw [hhg]))
  | settled later v => exact hhg.trans (Eq.trans hs hab.symm)

/-- The shared records agree with those of the jobs that have taken effect, but for the sections that are not over. -/
structure Refines (a : Records) (x : World) : Prop where
  violations : a.violations = x.records.violations
  shape : SameShape a.history x.records.history
  unlocked : ∀ i, ¬ x.Locked i → a.history.shards[i]? = x.records.history.shards[i]?
  exclusive : ∀ {k s t k' s' t'}, x.workers k = .inside s t → x.workers k' = .inside s' t' →
    x.shardOf s = x.shardOf s' → k = k'
  fits : ∀ {k s t}, x.workers k = .inside s t → s.Fits
  agrees : ∀ {k s t}, x.workers k = .inside s t → s.Agrees a.history x.records.history t

/-- A section goes on: it may change its shard and the violations, here and there. -/
theorem Refines.inside {a b : Records} {x y : World} (hx : Refines a x) {k : Nat} {s : Section} {t t' : Stage}
    (hk : x.workers k = .inside s t) (hw : y.workers = (x.act k (.inside s t')).workers)
    (hv : b.violations = y.records.violations)
    (ha : SameElsewhere b.history a.history (x.shardOf s))
    (hh : SameElsewhere y.records.history x.records.history (x.shardOf s))
    (hagrees : s.Agrees b.history y.records.history t') : Refines b y := by
  have hshard : y.shardOf = x.shardOf := by
    funext s'
    rw [World.shardOf, World.shardOf, hh.shardIndex]
  refine ⟨hv, (ha.trans hx.shape).trans hh.symm, fun i hi => ?_, fun {j s₁ u₁ j' s₂ u₂} h₁ h₂ he => ?_,
    fun {j s' u} hj => ?_, fun {j s' u} hj => ?_⟩
  -- the section is still inside, so that a shard that nobody holds is not the one that has changed
  · have hne : x.shardOf s ≠ i := by
      rintro rfl
      exact hi ⟨k, s, t', by rw [hw, act_workers, if_pos rfl], congrFun hshard s⟩
    rw [ha.others i hne, hh.others i hne]
    refine hx.unlocked i ?_
    rintro ⟨j, s', u, hj, hi'⟩
    by_cases hjk : j = k
    · subst j
      rw [hk] at hj
      cases hj
      exact hne hi'
    · exact hi ⟨j, s', u, by rw [hw, act_workers, if_neg hjk]; exact hj, (congrFun hshard s').trans hi'⟩
  · obtain ⟨v₁, hv₁⟩ := inside_before hk hw h₁
    obtain ⟨v₂, hv₂⟩ := inside_before hk hw h₂
    rw [hshard] at he
    exact hx.exclusive hv₁ hv₂ he
  · obtain ⟨u', hu'⟩ := inside_before hk hw hj
    exact hx.fits hu'
  · rcases inside_of_goOn hw hj with ⟨rfl, rfl, rfl⟩ | ⟨hne, h⟩
    · exact hagrees
    -- another section holds another shard
    · have hother : x.shardOf s ≠ x.shardOf s' := fun he => hne (hx.exclusive h hk he.symm)
      refine (hx.agrees h).congr (ha.shardOf ?_) (hh.shardOf hother) ha.horizon
      rw [hx.shape.shardIndex]
      exact hother

/-- Nobody goes in or out, and the history is left alone. -/
theorem Refines.outside {a b : Records} {x y : World} (hx : Refines a x)
    (hw : ∀ j s t, y.workers j = .inside s t ↔ x.workers j = .inside s t) (hv : b.violations = y.records.violations)
    (ha : b.history = a.history) (hh : y.records.history = x.records.history) : Refines b y := by
  have hlocked : ∀ i, y.Locked i ↔ x.Locked i := by
    intro i
    simp only [World.Locked, hw, hh]
  refine ⟨hv, by rw [ha, hh]; exact hx.shape, fun i hi => ?_, fun h₁ h₂ he => ?_, fun h => ?_, fun h => ?_⟩
  · rw [ha, hh]
    exact hx.unlocked i fun h => hi ((hlocked i).2 h)
  · rw [World.shardOf, World.shardOf, hh] at he
    exact hx.exclusive ((hw _ _ _).1 h₁) ((hw _ _ _).1 h₂) he
  · exact hx.fits ((hw _ _ _).1 h)
  · rw [ha, hh]
    exact hx.agrees ((hw _ _ _).1 h)

/-- A section begins at a shard that nobody holds. -/
theorem Refines.enter {a : Records} {x : World} (hx : Refines a x) {k : Nat} {s : Section} (hs : s.Fits)
    (hk : (x.workers k).isOutside = true) (hlock : ¬ x.Locked (x.shardOf s)) :
    Refines a (x.act k (.inside s .entered)) := by
  refine ⟨hx.violations, hx.shape, fun i hi => ?_, fun {j s₁ t₁ j' s₂ t₂} h₁ h₂ he => ?_, fun {j s' t} h => ?_,
    fun {j s' t} h => ?_⟩
  · refine hx.unlocked i ?_
    rintro ⟨j, s', t, hj, hi'⟩
    refine hi ⟨j, s', t, ?_, hi'⟩
    rw [act_workers, if_neg fun hjk : j = k => Activity.ne_inside hk s' t (hjk ▸ hj)]
    exact hj
  · rcases inside_of_act h₁ with ⟨rfl, e₁⟩ | ⟨-, g₁⟩
    · rcases inside_of_act h₂ with ⟨rfl, -⟩ | ⟨-, g₂⟩
      · rfl
      · cases e₁
        exact absurd ⟨j', s₂, t₂, g₂, he.symm⟩ hlock
    · rcases inside_of_act h₂ with ⟨rfl, e₂⟩ | ⟨-, g₂⟩
      · cases e₂
        exact absurd ⟨j, s₁, t₁, g₁, he⟩ hlock
      · exact hx.exclusive g₁ g₂ he
  · rcases inside_of_act h with ⟨-, he⟩ | ⟨-, hj⟩
    · cases he
      exact hs
    · exact hx.fits hj
  · rcases inside_of_act h with ⟨-, he⟩ | ⟨-, hj⟩
    · cases he
      exact (hx.shape.shardOf (hx.unlocked _ hlock)).symm
    · exact hx.agrees hj

/-- A section ends, and its shard is as it is in the records of the jobs that have taken effect. -/
theorem Refines.leave {a : Records} {x : World} (hx : Refines a x) {k : Nat} {s : Section} {later : Nat} {v : Verdict}
    (hk : x.workers k = .inside s (.settled later v)) : Refines a (x.act k .idle) := by
  have hinside : ∀ {j s' t}, (x.act k .idle).workers j = .inside s' t → x.workers j = .inside s' t := by
    intro j s' t h
    rcases inside_of_act h with ⟨-, he⟩ | ⟨-, hj⟩
    · cases he
    · exact hj
  refine ⟨hx.violations, hx.shape, fun i hi => ?_, fun h₁ h₂ he => hx.exclusive (hinside h₁) (hinside h₂) he,
    fun h => hx.fits (hinside h), fun h => hx.agrees (hinside h)⟩
  by_cases hs : x.shardOf s = i
  -- the shard that is let go is the same here and there, since the section is settled
  · subst hs
    have hindex : a.history.shardIndex s.message.userId = x.shardOf s := congrFun hx.shape.shardIndex _
    have hown := a.history.getElem?_shardIndex s.message.userId
    rw [hindex] at hown
    rw [hown, ← show x.records.history.shardOf _ = _ from hx.agrees hk]
    exact (Store.getElem?_shardIndex _ _).symm
  · refine hx.unlocked i ?_
    rintro ⟨j, s', t, hj, hi'⟩
    refine hi ⟨j, s', t, ?_, hi'⟩
    rw [act_workers, if_neg]
    · exact hj
    · rintro rfl
      rw [hk] at hj
      cases hj
      exact hs hi'

/-- A shard of the history that nobody holds is swept, here and there. -/
theorem Refines.sweepHistory {a : Records} {x : World} (hx : Refines a x) (now : Nat) {i : Nat} (hi : ¬ x.Locked i) :
    Refines { a with history := (a.history.reclaimShard now i).1 }
      { x with time := x.time + 1, records := x.records.sweep now i .history } := by
  have ha := Store.sameElsewhere_reclaimShard a.history now i
  have hh := Store.sameElsewhere_reclaimShard x.records.history now i
  have hshard : ∀ s, (x.records.sweep now i .history).history.shardIndex s = x.records.history.shardIndex s :=
    congrFun hh.shardIndex
  refine ⟨hx.violations, (ha.trans hx.shape).trans hh.symm, fun j hj => ?_, fun h₁ h₂ he => ?_, fun h => hx.fits h,
    fun {k s t} h => ?_⟩
  · have hj' : ¬ x.Locked j := by
      rintro ⟨k, s, t, hk, hs⟩
      exact hj ⟨k, s, t, hk, (hshard _).trans hs⟩
    show (a.history.reclaimShard now i).1.shards[j]? = (x.records.history.reclaimShard now i).1.shards[j]?
    rw [Store.getElem?_reclaimShard, Store.getElem?_reclaimShard, hx.unlocked j hj']
  · refine hx.exclusive h₁ h₂ ?_
    rw [World.shardOf, World.shardOf, ← hshard, ← hshard]
    exact he
  · have hne : i ≠ x.shardOf s := by
      rintro rfl
      exact hi ⟨k, s, t, h, rfl⟩
    refine (hx.agrees h).congr (ha.shardOf ?_) (hh.shardOf hne) ha.horizon
    rw [hx.shape.shardIndex]
    exact hne

end ChatModeration.Moderation
