import ChatModeration.Proofs.Moderation.Answers
import ChatModeration.Proofs.Moderation.Isolation

/-!
# Counters of rules

The violations of a rule by a user are counted under a key that is made of the name of the rule and the id of the user.
What makes a difference under one key of the rules only (`Books.SameBut`) makes a difference under no other key later.
So a firing of a rule leaves the tiers alone that rules pick for users under other keys, however the run goes on, while
all that have its key share one counter (`tier_of_firing`).  Names need not be different in an accepted configuration,
so that two of its rules may share a counter (`tier_of_firing_namesakes`).
-/

namespace ChatModeration.Moderation

open Store (Ledger)

/-! ### Keys -/

/-- A key tells the name of the rule and the user, if ids have no separator in them. -/
theorem violationKey_eq_iff {rule other : Rule} {user user' : String} (hu : ':' ∉ user.toList)
    (hu' : ':' ∉ user'.toList) :
    rule.violationKey user = other.violationKey user' ↔ rule.name = other.name ∧ user = user' := by
  constructor
  · intro h
    obtain rfl : user = user' := user_eq_of_key_eq hu hu' h
    have hlist := congrArg String.toList h
    simp only [Rule.violationKey, String.toList_append, List.append_assoc] at hlist
    exact ⟨String.toList_inj.1 (List.append_cancel_right hlist), rfl⟩
  · rintro ⟨hname, rfl⟩
    rw [Rule.violationKey, Rule.violationKey, hname]

/-! ### What differs under one key -/

namespace Books

/-- Two books that differ at most in the violations of rules under one key. -/
structure SameBut (key : String) (b c : Books) : Prop where
  history : b.history = c.history
  spam : b.spam = c.spam
  emotes : b.emotes = c.emotes
  exceptions : b.exceptions = c.exceptions
  rules : ∀ other, key ≠ other → b.rules.items other = c.rules.items other

namespace SameBut

variable {key : String} {a b c : Books}

theorem refl (key : String) (b : Books) : b.SameBut key b := ⟨rfl, rfl, rfl, rfl, fun _ _ => rfl⟩

theorem trans (h : a.SameBut key b) (h' : b.SameBut key c) : a.SameBut key c :=
  ⟨h.history.trans h'.history, h.spam.trans h'.spam, h.emotes.trans h'.emotes, h.exceptions.trans h'.exceptions,
    fun other hne => (h.rules other hne).trans (h'.rules other hne)⟩

theorem symm (h : b.SameBut key c) : c.SameBut key b :=
  ⟨h.history.symm, h.spam.symm, h.emotes.symm, h.exceptions.symm, fun other hne => (h.rules other hne).symm⟩

end SameBut

/-- The books with one more violation of a rule. -/
def violate (b : Books) (rule : Rule) (user : String) (now : Nat) : Books :=
  { b with rules := marked b.rules (rule.violationKey user) now rule.resetWindow }

/-- A violation of a rule makes a difference under its key only. -/
theorem sameBut_violate (b : Books) (rule : Rule) (user : String) (now : Nat) :
    (b.violate rule user now).SameBut (rule.violationKey user) b :=
  { SameBut.refl (rule.violationKey user) b with rules := fun _ hne => Ledger.items_push_of_ne _ hne }

theorem sameBut_ruleBroken (b : Books) (user : String) (now later position : Nat) (rule : Rule) :
    (b.judge user now later (.ruleBroken position rule)).1.SameBut (rule.violationKey user) b := by
  rw [judge]
  split
  · exact .refl _ b
  · exact b.sameBut_violate rule user now

namespace SameBut

variable {key : String} {b c : Books}

/-- The spam policies do not look at the violations of rules. -/
theorem settle (h : b.SameBut key c) (s : SpamCase) (user : String) (now later : Nat) :
    (b.settle s user now later).1.SameBut key (c.settle s user now later).1 := by
  obtain ⟨history, spam, emotes, exceptions, rules⟩ := b
  obtain ⟨_, _, _, _, rules'⟩ := c
  obtain ⟨rfl, rfl, rfl, rfl, hrules⟩ := h
  have hsentence : Books.sentence? ⟨history, spam, emotes, exceptions, rules'⟩ s user =
      Books.sentence? ⟨history, spam, emotes, exceptions, rules⟩ s user := rfl
  rw [Books.settle, Books.settle, hsentence]
  split
  · exact ⟨rfl, rfl, rfl, rfl, hrules⟩
  · rename_i p tier _
    cases p with
    | exception | emoteCeiling | emoteRepeats | textRepeats => exact ⟨rfl, rfl, rfl, rfl, hrules⟩

theorem judge (h : b.SameBut key c) (user : String) (now later : Nat) (finding : Finding) :
    (b.judge user now later finding).1.SameBut key (c.judge user now later finding).1 := by
  cases finding with
  | watched s => exact h.settle s user now later
  | ruleBroken position rule =>
    by_cases hkey : key = rule.violationKey user
    · rw [hkey] at h ⊢
      exact ((b.sameBut_ruleBroken user now later position rule).trans h).trans
        (c.sameBut_ruleBroken user now later position rule).symm
    -- as many violations count here and there, so that both books change in the same way
    · have hcount : b.rules.count (rule.violationKey user) = c.rules.count (rule.violationKey user) := by
        rw [Ledger.count_eq, Ledger.count_eq, h.rules _ hkey]
      rw [Books.judge, Books.judge, hcount]
      split
      · exact h
      · exact { h with rules := fun other hne => Ledger.items_push_congr (h.rules other hne) _ }
  | _ => exact h

theorem sweep (h : b.SameBut key c) (layout : Part → String → Nat) (now index : Nat) (part : Part) :
    (b.sweep layout now index part).SameBut key (c.sweep layout now index part) := by
  cases part with
  | history => exact { h with history := by simp only [Books.sweep, h.history] }
  | spam => exact { h with spam := by simp only [Books.sweep, h.spam] }
  | emotes => exact { h with emotes := by simp only [Books.sweep, h.emotes] }
  | exceptions => exact { h with exceptions := by simp only [Books.sweep, h.exceptions] }
  | rules =>
    exact { h with rules := fun other hne => by simp only [Books.sweep, Ledger.items_reclaimShare, h.rules other hne] }

theorem perform (h : b.SameBut key c) (layout : Part → String → Nat) (job : Job) :
    (b.perform layout job).1.SameBut key (c.perform layout job).1 := by
  cases job with
  | check w now later m => exact h.judge m.userId now later (find w m).1
  | sweep now index part => exact h.sweep layout now index part

/-- What makes no difference under a key makes none later, whatever is done. -/
theorem performAll (h : b.SameBut key c) (layout : Part → String → Nat) (jobs : List Job) :
    (b.performAll layout jobs).1.SameBut key (c.performAll layout jobs).1 := by
  induction jobs generalizing b c with
  | nil => exact h
  | cons job jobs ih => exact ih (h.perform layout job)

end SameBut

end Books

/-! ### Tiers -/

/-- The tier that a rule picks for a user who violates it. -/
def Records.ruleTier? (r : Records) (rule : Rule) (user : String) (now : Nat) : Option Punishment :=
  (r.violations.rules.escalate (rule.violationKey user) rule.punishments rule.resetWindow now).2

theorem Records.Represents.ruleTier {r : Records} {b : Books} (h : r.Represents b) (rule : Rule) (user : String)
    (now : Nat) :
    r.ruleTier? rule user now = pickTier rule.punishments (b.rules.items (rule.violationKey user)).length := by
  rw [← Ledger.count_eq]
  exact (h.violations.rules.escalate _ _ _ now).1

theorem punishments_of_ruleBroken {w : Surroundings} {m : ChatMessage} {position : Nat} {rule : Rule}
    (h : (find w m).1 = .ruleBroken position rule) : rule.punishments ≠ [] := by
  rcases find_cases w m with ⟨_, hf, -⟩ | ⟨-, ⟨_, hf⟩ | ⟨_, hf⟩ | ⟨_, hf⟩ | ⟨_, _, hf, -, htiers⟩ | ⟨hf, -⟩ |
    ⟨_, hf, -⟩⟩
  all_goals
    rw [h] at hf
    cases hf
  exact htiers

/-- A message that breaks a rule gets the tier of the rule, and leaves one more violation. -/
theorem Records.Represents.firing {r : Records} {b : Books} (h : r.Represents b) {w : Surroundings} {m : ChatMessage}
    {position : Nat} {rule : Rule} (hfires : (find w m).1 = .ruleBroken position rule) (now later : Nat) :
    (r.perform (.check w now later m)).1.Represents (b.violate rule m.userId now) ∧
      (r.perform (.check w now later m)).2 = some (ruleVerdict rule (r.ruleTier? rule m.userId now)) := by
  obtain ⟨hfired, -, hverdict⟩ := h.perform (.check w now later m)
  obtain ⟨tier, htier⟩ := Option.isSome_iff_exists.1
    (isSome_pickTier (punishments_of_ruleBroken hfires) (b.rules.count (rule.violationKey m.userId)))
  rw [Books.perform, hfires, Books.judge, htier] at hfired hverdict
  rw [Ledger.count_eq] at htier
  rw [h.ruleTier, htier]
  exact ⟨hfired, hverdict⟩

/--
A firing of a rule for a user, under an accepted configuration.  Every rule has a tier for every user.  The tiers that
rules have for users under other keys are the same with and without the firing, whatever is done after it.  Where the
key is the same, one more violation counts; that is so for a rule of the same name and the same user, and only then if
ids have no separator in them.
-/
theorem tier_of_firing {config : Config} (hvalid : config.validate = .ok ()) {w : Surroundings}
    (hw : w.snapshot = .compile config) {r : Records} {b : Books} (hr : r.Represents b) {m : ChatMessage}
    {position : Nat} {rule : Rule} (hfires : (find w m).1 = .ruleBroken position rule) (now later : Nat) {other : Rule}
    (hother : other ∈ w.snapshot.rules) (user : String) :
    let fired := r.perform (.check w now later m)
    let count := r.violations.rules.priorCount (other.violationKey user)
    fired.2 = some (ruleVerdict rule (r.ruleTier? rule m.userId now)) ∧
      (∃ tier ∈ other.punishments, ∀ time, r.ruleTier? other user time = some tier) ∧
      (rule.violationKey m.userId ≠ other.violationKey user → ∀ jobs time,
        (fired.1.performAll jobs).1.ruleTier? other user time = (r.performAll jobs).1.ruleTier? other user time) ∧
      (rule.violationKey m.userId = other.violationKey user → ∀ time,
        fired.1.ruleTier? other user time = pickTier other.punishments (count + 1)) ∧
      (':' ∉ m.userId.toList → ':' ∉ user.toList →
        (rule.violationKey m.userId = other.violationKey user ↔ rule.name = other.name ∧ m.userId = user)) := by
  intro fired count
  have htiers : other.punishments ≠ [] := rules_ne_nil (Config.tiered_of_validate hvalid) hw other hother
  obtain ⟨hfired, hverdict⟩ := hr.firing hfires now later
  have hlayout : fired.1.layout = r.layout := (hr.perform _).2.1
  refine ⟨hverdict, ?_, fun hne jobs time => ?_, fun heq time => ?_, violationKey_eq_iff⟩
  · obtain ⟨tier, htier⟩ := Option.isSome_iff_exists.1
      (isSome_pickTier htiers (b.rules.items (other.violationKey user)).length)
    exact ⟨tier, List.mem_of_getElem? htier, fun time => (hr.ruleTier other user time).trans htier⟩
  · have hafter := (hfired.performAll jobs).1
    rw [hlayout] at hafter
    have hitems := ((b.sameBut_violate rule m.userId now).performAll r.layout jobs).rules _ hne
    rw [hafter.ruleTier, (hr.performAll jobs).1.ruleTier, hitems]
  · have hcount : count = (b.rules.items (other.violationKey user)).length := by
      rw [← Ledger.count_eq]
      exact hr.violations.rules.represents.count _
    rw [hfired.ruleTier, hcount, Books.violate, marked, Ledger.push, Ledger.items_push, if_pos heq, List.length_append]
    rfl

/-! ### Two rules -/

/-- A rule that deletes. -/
def mildRule : RuleEntry := { name := "links", words := ["x"], punishments := [.delete] }

/-- A rule of some name that deletes at first and bans then. -/
def strictRule (name : String) : RuleEntry := { name, words := ["y"], punishments := [.delete, .ban] }

/-- A configuration of both rules. -/
def twoRules (name : String) : Config := { twiceConfig with rules := [mildRule, strictRule name] }

/-- What is known in a channel with this configuration. -/
def underTwoRules (name : String) : Surroundings := { strictSurroundings with snapshot := .compile (twoRules name) }

/-- Where the rules have different names, the second one picks the same tiers if the first one has been broken. -/
theorem tier_of_firing_twoRules :
    let w := underTwoRules "caps"
    (twoRules "caps").validate = .ok () ∧ emptyRecords.Represents ⟨[], [], [], [], []⟩ ∧
      (find w (saying "7" "x")).1 = .ruleBroken 0 mildRule.compile ∧ (strictRule "caps").compile ∈ w.snapshot.rules ∧
      mildRule.compile.violationKey "7" ≠ (strictRule "caps").compile.violationKey "7" ∧
      ∀ jobs time,
        ((emptyRecords.perform (.check w 1 1 (saying "7" "x"))).1.performAll jobs).1.ruleTier?
            (strictRule "caps").compile "7" time =
          (emptyRecords.performAll jobs).1.ruleTier? (strictRule "caps").compile "7" time := by
  intro w
  have hvalid : (twoRules "caps").validate = .ok () := by decide +kernel
  have hr : emptyRecords.Represents ⟨[], [], [], [], []⟩ := represents_empty _ _
  have hfires : (find w (saying "7" "x")).1 = .ruleBroken 0 mildRule.compile := by decide +kernel
  have hother : (strictRule "caps").compile ∈ w.snapshot.rules := List.mem_cons_of_mem _ List.mem_cons_self
  have hne : mildRule.compile.violationKey "7" ≠ (strictRule "caps").compile.violationKey "7" := by decide +kernel
  obtain ⟨-, -, hapart, -⟩ := tier_of_firing hvalid rfl hr hfires 1 1 hother "7"
  exact ⟨hvalid, hr, hfires, hother, hne, hapart hne⟩

/-- Where both rules have one name, a user who has broken the first one is banned by the second one at once. -/
theorem tier_of_firing_namesakes :
    let w := underTwoRules "links"
    let fired := (check emptyRecords w 1 1 (saying "7" "x")).1
    (twoRules "links").validate = .ok () ∧ w.snapshot.rules = [mildRule.compile, (strictRule "links").compile] ∧
      (find w (saying "7" "x")).1 = .ruleBroken 0 mildRule.compile ∧
      (find w (saying "7" "y")).1 = .ruleBroken 1 (strictRule "links").compile ∧
      (check emptyRecords w 2 2 (saying "7" "y")).2.1 = .ofPunishment .delete "matched rule 'links'" ∧
      (check fired w 2 2 (saying "7" "y")).2.1 = .ofPunishment .ban "matched rule 'links'" := by
  intro w fired
  exact ⟨by decide +kernel, rfl, by decide +kernel, by decide +kernel, by decide +kernel, by decide +kernel⟩

end ChatModeration.Moderation
