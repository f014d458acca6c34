import ChatModeration.Proofs.Moderation.Runs

/-!
# Users apart

Everything that is remembered is kept under a key of one user.  A rule and a user make up one key, but user ids are
numerals, so that two users never share one (`violationKey_ne`), whatever the names of the rules are.  What others say
leaves alone what concerns a user (`Books.Alike`), and so the checks of a user come out the same with and without the
checks of others (`isolated`).
-/

namespace ChatModeration.Moderation

open Store (Ledger Line)

/-! ### Keys -/

/-- Whether a text consists of digits. -/
def IsNumeral (s : String) : Prop := s.toList.all Char.isDigit = true

instance (s : String) : Decidable (IsNumeral s) := inferInstanceAs (Decidable (_ = true))

/-- What follows the last separator. -/
theorem eq_of_append_cons {α : Type} {separator : α} {before before' after after' : List α}
    (h : before ++ separator :: after = before' ++ separator :: after') (ha : separator ∉ after)
    (ha' : separator ∉ after') : after = after' := by
  rcases List.append_eq_append_iff.1 h with ⟨between, -, hrest⟩ | ⟨between, -, hrest⟩
  · cases between with
    | nil => exact (List.cons.inj hrest).2
    | cons c between => exact absurd ((List.cons.inj hrest).2 ▸ by simp) ha
  · cases between with
    | nil => exact (List.cons.inj hrest).2.symm
    | cons c between => exact absurd ((List.cons.inj hrest).2 ▸ by simp) ha'

theorem IsNumeral.not_mem {s : String} (h : IsNumeral s) : ':' ∉ s.toList :=
  fun hm => absurd (List.all_eq_true.1 h ':' hm) (by decide)

/-- A key tells the user, if ids have no separator in them. -/
theorem user_eq_of_key_eq {user other : String} (hu : ':' ∉ user.toList) (ho : ':' ∉ other.toList)
    {name name' : String} (h : name ++ ":" ++ user = name' ++ ":" ++ other) : user = other := by
  have hlist := congrArg String.toList h
  simp only [String.toList_append, List.append_assoc] at hlist
  exact String.toList_inj.1 (eq_of_append_cons hlist hu ho)

/-- Two users never share a key, whatever the names before their ids are. -/
theorem violationKey_ne {user other : String} (hu : IsNumeral user) (ho : IsNumeral other) (hne : other ≠ user)
    (name name' : String) : name ++ ":" ++ other ≠ name' ++ ":" ++ user :=
  fun h => hne (user_eq_of_key_eq ho.not_mem hu.not_mem h)

/-! ### What concerns a user -/

/-- Two books with the same items under the keys of a user. -/
structure Books.Alike (user : String) (b c : Books) : Prop where
  history : b.history.items user = c.history.items user
  spam : b.spam.items user = c.spam.items user
  emotes : b.emotes.items user = c.emotes.items user
  exceptions : ∀ name, b.exceptions.items (name ++ ":" ++ user) = c.exceptions.items (name ++ ":" ++ user)
  rules : ∀ name, b.rules.items (name ++ ":" ++ user) = c.rules.items (name ++ ":" ++ user)

namespace Books.Alike

variable {user : String} {a b c : Books}

theorem refl (b : Books) : b.Alike user b := ⟨rfl, rfl, rfl, fun _ => rfl, fun _ => rfl⟩

theorem trans (h : a.Alike user b) (h' : b.Alike user c) : a.Alike user c :=
  ⟨h.history.trans h'.history, h.spam.trans h'.spam, h.emotes.trans h'.emotes,
    fun name => (h.exceptions name).trans (h'.exceptions name), fun name => (h.rules name).trans (h'.rules name)⟩

theorem symm (h : b.Alike user c) : c.Alike user b :=
  ⟨h.history.symm, h.spam.symm, h.emotes.symm, fun name => (h.exceptions name).symm, fun name => (h.rules name).symm⟩

theorem sentence? (h : b.Alike user c) (s : SpamCase) : b.sentence? s user = c.sentence? s user := by
  have htier : ∀ p, b.tier? s p user = c.tier? s p user := by
    intro p
    cases p with
    | exception e => rw [tier?, tier?, Ledger.count_eq, Ledger.count_eq]; exact congrArg _ (congrArg _ (h.exceptions _))
    | emoteCeiling | emoteRepeats => simp only [tier?, Ledger.count_eq, h.emotes]
    | textRepeats => simp only [tier?, Ledger.count_eq, h.spam]
  rw [Books.sentence?, Books.sentence?, h.history]
  simp only [htier]

theorem add (h : b.Alike user c) (s : SpamCase) (now : Nat) : (b.add s user now).Alike user (c.add s user now) :=
  { h with history := Ledger.items_push_congr h.history _ }

theorem forget (h : b.Alike user c) : (b.forget user).Alike user (c.forget user) :=
  { h with history := by rw [Books.forget, Books.forget, Ledger.items_clear, Ledger.items_clear, h.history] }

theorem mark (h : b.Alike user c) (s : SpamCase) (p : Penalty) (now : Nat) :
    (b.mark s p user now).Alike user (c.mark s p user now) := by
  cases p with
  | exception e => exact { h with exceptions := fun name => Ledger.items_push_congr (h.exceptions name) _ }
  | emoteCeiling | emoteRepeats => exact { h with emotes := Ledger.items_push_congr h.emotes _ }
  | textRepeats => exact { h with spam := Ledger.items_push_congr h.spam _ }

theorem settle (h : b.Alike user c) (s : SpamCase) (now later : Nat) :
    (b.settle s user now later).1.Alike user (c.settle s user now later).1 ∧
      (b.settle s user now later).2 = (c.settle s user now later).2 := by
  rw [Books.settle, Books.settle, h.sentence?]
  split
  · exact ⟨h.add s now, rfl⟩
  · refine ⟨mark ?_ s _ later, rfl⟩
    split
    · exact (h.add s now).forget
    · exact h.add s now

/-- What is done about a message of the user. -/
theorem judge (h : b.Alike user c) (now later : Nat) (finding : Finding) :
    (b.judge user now later finding).1.Alike user (c.judge user now later finding).1 ∧
      (b.judge user now later finding).2 = (c.judge user now later finding).2 := by
  cases finding with
  | watched s => exact h.settle s now later
  | ruleBroken position rule =>
    have hcount : b.rules.count (rule.violationKey user) = c.rules.count (rule.violationKey user) := by
      rw [Ledger.count_eq, Ledger.count_eq]
      exact congrArg List.length (h.rules rule.name)
    rw [Books.judge, Books.judge, hcount]
    split
    · exact ⟨h, rfl⟩
    · exact ⟨{ h with rules := fun name => Ledger.items_push_congr (h.rules name) _ }, rfl⟩
  | _ => exact ⟨h, rfl⟩

theorem sweep (h : b.Alike user c) (layout : Part → String → Nat) (now index : Nat) (part : Part) :
    (b.sweep layout now index part).Alike user (c.sweep layout now index part) := by
  cases part with
  | history => exact { h with history := by simp only [Books.sweep, Ledger.items_reclaimShare, h.history] }
  | spam => exact { h with spam := by simp only [Books.sweep, Ledger.items_reclaimShare, h.spam] }
  | emotes => exact { h with emotes := by simp only [Books.sweep, Ledger.items_reclaimShare, h.emotes] }
  | exceptions =>
    exact { h with exceptions := fun name => by simp only [Books.sweep, Ledger.items_reclaimShare, h.exceptions] }
  | rules => exact { h with rules := fun name => by simp only [Books.sweep, Ledger.items_reclaimShare, h.rules] }

end Books.Alike

/-! ### Checks of others -/

section Others

variable {user other : String} (hu : IsNumeral user) (ho : IsNumeral other) (hne : other ≠ user)

include hu ho hne

theorem alike_mark (b : Books) (s : SpamCase) (p : Penalty) (now : Nat) : (b.mark s p other now).Alike user b := by
  have h : b.Alike user b := .refl b
  cases p with
  | exception e =>
    exact { h with exceptions := fun name => Ledger.items_push_of_ne _ (violationKey_ne hu ho hne e.rule.name name) }
  | emoteCeiling | emoteRepeats => exact { h with emotes := Ledger.items_push_of_ne _ hne }
  | textRepeats => exact { h with spam := Ledger.items_push_of_ne _ hne }

theorem alike_settle (b : Books) (s : SpamCase) (now later : Nat) : (b.settle s other now later).1.Alike user b := by
  have h : b.Alike user b := .refl b
  have hadd : (b.add s other now).Alike user b := { h with history := Ledger.items_push_of_ne _ hne }
  rw [Books.settle]
  split
  · exact hadd
  · refine (alike_mark hu ho hne _ s _ later).trans ?_
    split
    · have hforget : ((b.add s other now).forget other).Alike user (b.add s other now) :=
        { Books.Alike.refl (b.add s other now) with
          history := by rw [Books.forget, Ledger.items_clear, if_neg hne.symm] }
      exact hforget.trans hadd
    · exact hadd

/-- What is done about a message of somebody else does not concern the user. -/
theorem alike_judge (b : Books) (now later : Nat) (finding : Finding) :
    (b.judge other now later finding).1.Alike user b := by
  cases finding with
  | watched s => exact alike_settle hu ho hne b s now later
  | ruleBroken position rule =>
    rw [Books.judge]
    split
    · exact .refl b
    · exact { Books.Alike.refl b with
        rules := fun name => Ledger.items_push_of_ne _ (violationKey_ne hu ho hne rule.name name) }
  | _ => exact .refl b

end Others

/-! ### Jobs -/

theorem Books.Alike.perform {user : String} {b c : Books} (hu : IsNumeral user) (h : b.Alike user c)
    (layout : Part → String → Nat) {job : Job} (hids : ∀ id ∈ job.sender?, IsNumeral id) :
    (b.perform layout job).1.Alike user (c.perform layout job).1 ∧
      (job.sender? = some user → (b.perform layout job).2 = (c.perform layout job).2) := by
  cases job with
  | sweep now index part => exact ⟨h.sweep layout now index part, nofun⟩
  | check w now later m =>
    by_cases hm : m.userId = user
    -- the check sees the same and does the same on both sides; a check of somebody else stays out of sight on both
    · obtain ⟨hjudge, hverdict⟩ := h.judge now later (find w m).1
      rw [Books.perform, Books.perform, hm]
      exact ⟨hjudge, fun _ => congrArg some hverdict⟩
    · have hb := alike_judge hu (hids m.userId rfl) hm b now later (find w m).1
      have hc := alike_judge hu (hids m.userId rfl) hm c now later (find w m).1
      exact ⟨(hb.trans h).trans hc.symm, fun hsender => absurd (Option.some.inj hsender) hm⟩

/-- A check of somebody else does not concern the user. -/
theorem alike_perform {user other : String} (hu : IsNumeral user) (ho : IsNumeral other) (hne : other ≠ user)
    (b : Books) (layout : Part → String → Nat) {job : Job} (hsender : job.sender? = some other) :
    (b.perform layout job).1.Alike user b := by
  cases job with
  | sweep now index part => cases hsender
  | check w now later m =>
    obtain rfl := Option.some.inj hsender
    exact alike_judge hu ho hne b now later _

/-- The verdict on a message of a user, if the event is the check of such a message. -/
def Event.verdictFor? (user : String) (e : Event) : Option Verdict :=
  if e.job.sender? = some user then e.answer else none

/-- The jobs without the checks of some users. -/
def without (others : String → Bool) (jobs : List Job) : List Job := jobs.filter fun job => !job.sender?.any others

/-- Two runs, one of them without the checks of others, go on side by side. -/
theorem Books.Alike.run {user : String} {others : String → Bool} (hu : IsNumeral user) (hothers : others user = false)
    {jobs : List Job} (hids : ∀ job ∈ jobs, ∀ id ∈ job.sender?, IsNumeral id) {r r' : Records} {b c : Books}
    (hr : r.Represents b) (hr' : r'.Represents c) (hlayout : r'.layout = r.layout) (h : b.Alike user c) :
    (r.events jobs).filterMap (Event.verdictFor? user) =
        (r'.events (without others jobs)).filterMap (Event.verdictFor? user) ∧
      ∃ b' c', (r.performAll jobs).1.Represents b' ∧ (r'.performAll (without others jobs)).1.Represents c' ∧
        b'.Alike user c' := by
  -- on the jobs of the longer run: the other one makes the same step or none
  induction jobs generalizing r r' b c with
  | nil => exact ⟨rfl, b, c, hr, hr', h⟩
  | cons job jobs ih =>
    obtain ⟨hjob, hjobs⟩ := List.forall_mem_cons.1 hids
    obtain ⟨hnext, hnextLayout, hanswer⟩ := hr.perform job
    cases hdrop : job.sender?.any others with
    | true =>
      -- the other run leaves this check out
      obtain ⟨other, hsender, hother⟩ := (Option.any_eq_true _ _).1 hdrop
      have hne : other ≠ user := fun he => by rw [he, hothers] at hother; cases hother
      have hskip : without others (job :: jobs) = without others jobs :=
        List.filter_cons_of_neg (by rw [hdrop]; exact Bool.false_ne_true)
      have hnone : Event.verdictFor? user ⟨r, job⟩ = none :=
        if_neg fun he => hne (Option.some.inj (hsender.symm.trans he))
      rw [hskip, Records.events, List.filterMap_cons_none hnone]
      exact ih hjobs hnext hr' (hlayout.trans hnextLayout.symm)
        ((alike_perform hu (hjob other hsender) hne b r.layout hsender).trans h)
    | false =>
      obtain ⟨hnext', hnextLayout', hanswer'⟩ := hr'.perform job
      obtain ⟨halike, hverdict⟩ := h.perform hu r.layout hjob
      have hkeep : without others (job :: jobs) = job :: without others jobs :=
        List.filter_cons_of_pos (by rw [hdrop]; rfl)
      have hsame : Event.verdictFor? user ⟨r, job⟩ = Event.verdictFor? user ⟨r', job⟩ := by
        by_cases hsender : job.sender? = some user
        · rw [Event.verdictFor?, Event.verdictFor?, if_pos hsender, if_pos hsender, Event.answer, Event.answer,
            hanswer, hanswer', hlayout, hverdict hsender]
        · rw [Event.verdictFor?, Event.verdictFor?, if_neg hsender, if_neg hsender]
      rw [hlayout] at hnext'
      obtain ⟨hverdicts, hleft⟩ := ih hjobs hnext hnext' (by rw [hnextLayout', hlayout, hnextLayout]) halike
      rw [hkeep, Records.events, Records.events, List.filterMap_cons, List.filterMap_cons, hsame, hverdicts]
      exact ⟨rfl, hleft⟩

/-! ### What is remembered -/

/-- Whether as many violations of a user count here and there. -/
structure SameViolations (user : String) (v v' : ViolationRecords) : Prop where
  spam : v.spam.priorCount user = v'.spam.priorCount user
  emotes : v.emotes.priorCount user = v'.emotes.priorCount user
  exceptions : ∀ rule : Rule,
    v.exceptions.priorCount (rule.violationKey user) = v'.exceptions.priorCount (rule.violationKey user)
  rules : ∀ rule : Rule, v.rules.priorCount (rule.violationKey user) = v'.rules.priorCount (rule.violationKey user)

theorem Keeps.priorCount_congr {v v' : Violations} {l l' : Ledger String Unit} (h : Keeps v l) (h' : Keeps v' l')
    {key : String} (hitems : l.items key = l'.items key) : v.priorCount key = v'.priorCount key := by
  rw [Violations.priorCount, Violations.priorCount, h.represents.count, h'.represents.count, Ledger.count_eq,
    Ledger.count_eq, hitems]

theorem Books.Alike.sameViolations {user : String} {b c : Books} (h : b.Alike user c) {v v' : ViolationRecords}
    (hv : v.Represents b) (hv' : v'.Represents c) : SameViolations user v v' :=
  ⟨hv.spam.priorCount_congr hv'.spam h.spam, hv.emotes.priorCount_congr hv'.emotes h.emotes,
    fun rule => hv.exceptions.priorCount_congr hv'.exceptions (h.exceptions rule.name),
    fun rule => hv.rules.priorCount_congr hv'.rules (h.rules rule.name)⟩

/--
Users whose ids are numerals do not influence each other: without the checks of any others a user gets the same
verdicts, and the same is remembered of the user in the end.  The other jobs are told the same in both runs, so that
nothing they are told depends on the checks that are left out.
-/
theorem isolated {r : Records} {b : Books} (hr : r.Represents b) {user : String} (hu : IsNumeral user)
    {others : String → Bool} (hothers : others user = false) {jobs : List Job}
    (hids : ∀ job ∈ jobs, ∀ id ∈ job.sender?, IsNumeral id) :
    (r.events (without others jobs)).filterMap (Event.verdictFor? user) =
        (r.events jobs).filterMap (Event.verdictFor? user) ∧
      (r.performAll (without others jobs)).1.remembered user = (r.performAll jobs).1.remembered user ∧
      SameViolations user (r.performAll (without others jobs)).1.violations (r.performAll jobs).1.violations := by
  obtain ⟨hverdicts, b', c', hb, hc, halike⟩ :=
    (Books.Alike.refl b).run hu hothers hids hr hr rfl
  exact ⟨hverdicts.symm, by rw [hb.remembered, hc.remembered, halike.history],
    halike.symm.sameViolations hc.violations hb.violations⟩

/-- Somebody else says the same in between, which makes no difference. -/
theorem isolated_twoGreetings :
    IsNumeral "7" ∧ ("7" == "8") = false ∧ (∀ job ∈ twoGreetings, ∀ id ∈ job.sender?, IsNumeral id) ∧
      (emptyRecords.events (without (· == "8") twoGreetings)).filterMap (Event.verdictFor? "7") =
        (emptyRecords.events twoGreetings).filterMap (Event.verdictFor? "7") := by
  let others : String → Bool := (· == "8")
  have hu : IsNumeral "7" := by decide
  have hothers : others "7" = false := by decide
  have hsenders : ∀ job ∈ twoGreetings, job.sender? = some "7" ∨ job.sender? = some "8" := by decide
  have hids : ∀ job ∈ twoGreetings, ∀ id ∈ job.sender?, IsNumeral id := by
    intro job hm id hid
    rcases hsenders job hm with hsender | hsender
    · obtain rfl := Option.some.inj (hsender.symm.trans hid)
      exact hu
    · obtain rfl := Option.some.inj (hsender.symm.trans hid)
      decide
  have hr : emptyRecords.Represents ⟨[], [], [], [], []⟩ := represents_empty _ _
  exact ⟨hu, hothers, hids, (isolated hr hu hothers hids).1⟩

end ChatModeration.Moderation
