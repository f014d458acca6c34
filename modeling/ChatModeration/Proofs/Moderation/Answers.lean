import ChatModeration.Proofs.Config.Compilation
import ChatModeration.Proofs.Config.Tiers
import ChatModeration.Proofs.Moderation.Footprint
import ChatModeration.Proofs.Moderation.Passage
import ChatModeration.Proofs.Moderation.Runs

/-!
# No violation without an answer

An escalation without a tier would let a violation pass.  Where the configuration has been accepted there is none: the
first rule that applies decides, and so does the spam policy whose limit is reached (`answered_of_validate`).
-/

namespace ChatModeration.Moderation

/-! ### Limits -/

namespace SpamCase

/-- The number of repeats from which on a message violates the policy that applies. -/
def limit (c : SpamCase) : Nat :=
  match c.exception with
  | some e => e.messageLimit
  | none => if c.emoteOnly then c.profile.settings.emote.messageLimit else c.profile.settings.messageLimit

/-- Whether a message of emotes has too many of them, and no exception applies. -/
def OverCeiling (c : SpamCase) : Prop :=
  c.exception = none ∧ c.emoteOnly = true ∧ 0 < c.profile.settings.emote.maxEmotes ∧
    c.profile.settings.emote.maxEmotes < c.emoteCount

/-- The punishments of the policy that applies. -/
def tiers (c : SpamCase) : List Punishment :=
  match c.exception with
  | some e => e.rule.punishments
  | none => if c.emoteOnly then c.profile.settings.emote.punishments else c.profile.settings.punishments

/-- A message violates a policy if a limit is reached or there are too many emotes. -/
theorem exists_penalty {c : SpamCase} {repeats : Nat} (h : c.limit ≤ repeats ∨ c.OverCeiling) :
    ∃ p, c.penalty? repeats = some p := by
  simp only [limit, OverCeiling] at h
  rw [← Option.isSome_iff_exists, penalty?]
  cases he : c.exception with
  | some e =>
    have hlimit : ¬ repeats < e.messageLimit := by simpa [he] using h
    simp [hlimit]
  | none =>
    cases hemote : c.emoteOnly with
    | true =>
      by_cases hceiling : 0 < c.profile.settings.emote.maxEmotes ∧ c.profile.settings.emote.maxEmotes < c.emoteCount
      · simp [hceiling]
      · have hlimit : c.profile.settings.emote.messageLimit ≤ repeats := by simpa [he, hemote, hceiling] using h
        simp [hceiling, hlimit]
    | false =>
      have hlimit : ¬ repeats < c.profile.settings.messageLimit := by simpa [he, hemote] using h
      simp [hlimit]

/-- Which policies a message can violate. -/
theorem penalty_cases {c : SpamCase} {repeats : Nat} {p : Penalty} (h : c.penalty? repeats = some p) :
    (∃ e, c.exception = some e ∧ p = .exception e) ∨
      (c.exception = none ∧ c.emoteOnly = true ∧ (p = .emoteCeiling ∨ p = .emoteRepeats)) ∨
        (c.exception = none ∧ c.emoteOnly = false ∧ p = .textRepeats) := by
  unfold penalty? at h
  cases he : c.exception with
  | some e =>
    simp only [he] at h
    split at h
    · cases h
    · exact .inl ⟨e, rfl, (Option.some.inj h).symm⟩
  | none =>
    cases hemote : c.emoteOnly with
    | true =>
      simp only [he, hemote, ↓reduceIte] at h
      split at h
      · exact .inr (.inl ⟨rfl, rfl, .inl (Option.some.inj h).symm⟩)
      · split at h
        · exact .inr (.inl ⟨rfl, rfl, .inr (Option.some.inj h).symm⟩)
        · cases h
    | false =>
      simp only [he, hemote, Bool.false_eq_true, ↓reduceIte] at h
      split at h
      · cases h
      · exact .inr (.inr ⟨rfl, rfl, (Option.some.inj h).symm⟩)

/-- The violated policy picks from the punishments of the policy that applies. -/
theorem escalate_eq_pickTier {c : SpamCase} {repeats : Nat} {p : Penalty} (h : c.penalty? repeats = some p)
    (user : String) (later : Nat) (v : ViolationRecords) :
    ∃ n, (c.escalate p user later v).2 = pickTier c.tiers n := by
  rcases penalty_cases h with ⟨e, he, rfl⟩ | ⟨he, hemote, rfl | rfl⟩ | ⟨he, hemote, rfl⟩
  · exact ⟨_, by rw [tiers, he]; exact Moderation.escalate_snd _ _ _ _ _⟩
  all_goals exact ⟨_, by rw [tiers, he, hemote]; exact Moderation.escalate_snd _ _ _ _ _⟩

/-- The violated policy picks one of the punishments of the policy that applies, if that has any. -/
theorem exists_tier {c : SpamCase} (ht : c.tiers ≠ []) {repeats : Nat} {p : Penalty} (h : c.penalty? repeats = some p)
    (user : String) (later : Nat) (v : ViolationRecords) :
    ∃ tier ∈ c.tiers, (c.escalate p user later v).2 = some tier := by
  obtain ⟨n, hn⟩ := escalate_eq_pickTier h user later v
  obtain ⟨tier, htier⟩ := Option.isSome_iff_exists.1 (isSome_pickTier ht n)
  exact ⟨tier, List.mem_of_getElem? htier, hn.trans htier⟩

/-- An escalation under the violated policy picks a punishment, if the policy that applies has any. -/
theorem answer_ne_some_none {c : SpamCase} (ht : c.tiers ≠ []) (r : Records) (user : String) (later : Nat) :
    c.answer? r user later ≠ some none := by
  intro hnone
  obtain ⟨p, hp, hescalate⟩ := Option.map_eq_some_iff.1 hnone
  obtain ⟨tier, -, htier⟩ := exists_tier ht hp user later r.violations
  cases hescalate.symm.trans htier

/-- The verdict where a limit is reached or there are too many emotes. -/
theorem exists_verdict {c : SpamCase} (ht : c.tiers ≠ []) {r : Records} {user : String}
    (h : c.limit ≤ c.repeats ((r.history.items user).map (·.payload)) ∨ c.OverCeiling) (now later : Nat) :
    ∃ penalty, c.penalty? (c.repeats ((r.history.items user).map (·.payload))) = some penalty ∧
      ∃ tier ∈ c.tiers, (judge r user now later (.watched c)).2 = .ofPunishment tier penalty.reason := by
  obtain ⟨penalty, hpenalty⟩ := exists_penalty h
  obtain ⟨tier, hmem, htier⟩ := exists_tier ht hpenalty user later r.violations
  refine ⟨penalty, hpenalty, tier, hmem, ?_⟩
  rcases judge_watched r c user now later with ⟨hnone, -⟩ | ⟨penalty', tier', hpenalty', htier', -, hverdict⟩
  · rw [answer?, hpenalty, Option.map_some, htier] at hnone
    cases hnone
  · obtain rfl := Option.some.inj (hpenalty.symm.trans hpenalty')
    obtain rfl := Option.some.inj (htier.symm.trans htier')
    exact hverdict

end SpamCase

/-! ### Accepted configurations -/

section Accepted

variable {config : Config} {w : Surroundings}

/-- The policy for the sender of a message is one of the two that are configured. -/
theorem profileFor_eq_compile (hw : w.snapshot = .compile config) (m : ChatMessage) :
    ∃ p ∈ [config.spam.standard, config.spam.vip], profileFor w m = p.compile := by
  rw [profileFor, hw]
  split
  · exact ⟨config.spam.vip, List.mem_cons_of_mem _ List.mem_cons_self, Snapshot.vipProfile_compile config⟩
  · exact ⟨config.spam.standard, List.mem_cons_self, Snapshot.standardProfile_compile config⟩

theorem exists_profile (hc : config.Tiered) (hw : w.snapshot = .compile config) (m : ChatMessage) :
    ∃ p : SpamProfile, p.Tiered ∧ profileFor w m = p.compile := by
  obtain ⟨p, hp, hprofile⟩ := profileFor_eq_compile hw m
  have hall : ∀ p ∈ [config.spam.standard, config.spam.vip], p.Tiered :=
    List.forall_mem_cons.2 ⟨hc.standard, List.forall_mem_singleton.2 hc.vip⟩
  exact ⟨p, hall p hp, hprofile⟩

/-- The punishments of the policy that applies are those of an exception, of the policy on emotes or of the profile. -/
theorem tiers_cases {m : ChatMessage} {p : SpamProfile} (hprofile : profileFor w m = p.compile)
    {exception : Option (Nat × SpamException)} (he : ∀ f, exception = some f → f.2 ∈ exceptionsFor w m) :
    (∃ e ∈ p.exceptions ++ p.emote.exceptions, (caseUnder w m exception).tiers = e.punishments) ∨
      (p.emote.enabled = true ∧ (caseUnder w m exception).tiers = p.emote.punishments) ∨
        (caseUnder w m exception).tiers = p.punishments := by
  rw [exceptionsFor, hprofile, p.compile_eq] at he
  rw [caseUnder, hprofile, p.compile_eq]
  cases exception with
  | some f =>
    have hmem : f.2 ∈ (p.exceptions ++ p.emote.exceptions).map ExceptionEntry.compile := by
      rw [List.map_append]
      have hf := he f rfl
      split at hf
      · exact List.mem_append_right _ hf
      · exact List.mem_append_left _ hf
    obtain ⟨e, hexception, hcompile⟩ := List.mem_map.1 hmem
    exact .inl ⟨e, hexception, congrArg (·.rule.punishments) hcompile.symm⟩
  | none =>
    rw [SpamCase.tiers]
    cases hemote : treatedAsEmotes w m with
    | true =>
      rw [treatedAsEmotes, hprofile] at hemote
      exact .inr (.inl ⟨(Bool.and_eq_true_iff.1 hemote).1, rfl⟩)
    | false => exact .inr (.inr rfl)

/-- Every rule has a tier. -/
theorem rules_ne_nil (hc : config.Tiered) (hw : w.snapshot = .compile config) :
    ∀ rule ∈ w.snapshot.rules, rule.punishments ≠ [] := by
  rw [hw, Snapshot.rules_compile]
  refine List.forall_mem_append.2 ⟨?_, ?_⟩
  · exact List.forall_mem_map.2 hc.rules
  · exact List.forall_mem_map.2 hc.groups

/-- The policy that applies has a tier. -/
theorem tiers_ne_nil (hc : config.Tiered) (hw : w.snapshot = .compile config) {m : ChatMessage}
    {exception : Option (Nat × SpamException)} (he : ∀ f, exception = some f → f.2 ∈ exceptionsFor w m) :
    (caseUnder w m exception).tiers ≠ [] := by
  obtain ⟨p, hp, hprofile⟩ := exists_profile hc hw m
  rcases tiers_cases hprofile he with ⟨e, hmem, htiers⟩ | ⟨hon, htiers⟩ | htiers
  · rw [htiers]
    exact (List.mem_append.1 hmem).elim (hp.exceptions e) (hp.emoteExceptions e)
  · exact htiers ▸ hp.emote hon
  · exact htiers ▸ hp.punishments

end Accepted

/-! ### Answers -/

/-- Whether moderation looks at the rules for a message. -/
def ReachesRules (w : Surroundings) (m : ChatMessage) : Prop :=
  bypass? w m = none ∧ w.snapshot.banned? m.tokens m.normalized = none ∧ advertised? w m = none

/-- A check that has an answer to every violation. -/
structure Answered (r : Records) (w : Surroundings) (now : Nat) (m : ChatMessage) (p : Passage) : Prop where
  /-- No escalation is without a tier. -/
  escalations : none ∉ p.escalations
  /-- The check ends at the first rule that applies, with one of its punishments. -/
  rule : ReachesRules w m → ∀ i, PassesAt w m 0 w.snapshot.rules i →
    (∀ j < i, ¬ PassesAt w m 0 w.snapshot.rules j) →
    ∃ rule tier, w.snapshot.rules[i]? = some rule ∧ tier ∈ rule.punishments ∧ p.stop = .rule i rule.name ∧
      p.verdict = .ofPunishment tier ("matched rule '" ++ rule.name ++ "'") ∧ p.escalations = [some tier] ∧
      p.records = r.escalateRule rule m.userId now
  /-- Where a limit is reached or there are too many emotes, the verdict is a punishment of the policy that applies. -/
  watched : ∀ profile emoteOnly exception, p.stop = .watched profile emoteOnly exception →
    let c := caseUnder w m exception
    let repeats := c.repeats ((r.history.items m.userId).map (·.payload))
    (c.limit ≤ repeats ∨ c.OverCeiling) →
      ∃ penalty, c.penalty? repeats = some penalty ∧ ∃ tier ∈ c.tiers, p.verdict = .ofPunishment tier penalty.reason

section Answers

variable {r : Records} {w : Surroundings} {now later : Nat} {m : ChatMessage} {p : Passage}

/-- Where every rule has a tier, a rule that is passed over does not apply. -/
theorem not_passesAt {asked i : Nat} {rules : List Rule} (ht : ∀ rule ∈ rules, rule.punishments ≠ [])
    (hpassed : PassesAt w m asked rules i → ∃ rule, rules[i]? = some rule ∧ rule.punishments = []) :
    ¬ PassesAt w m asked rules i := by
  intro hi
  obtain ⟨rule, hrule, hnil⟩ := hpassed hi
  exact ht rule (List.mem_of_getElem? hrule) hnil

theorem Broken.tier_mem {n n' : Notes} {rules : List Rule} {i : Nat} {rule : Rule} {tier : Punishment}
    (h : Broken w m now n rules i rule tier n') : tier ∈ rule.punishments := by
  have hpicked := h.picked
  rw [escalate_snd] at hpicked
  exact List.mem_of_getElem? hpicked

/-- The check of a message that breaks a rule. -/
theorem Broken.answered {n : Notes} {i : Nat} {rule : Rule} {tier : Punishment}
    (h : Broken w m now { records := r } w.snapshot.rules i rule tier n)
    (ht : ∀ rule ∈ w.snapshot.rules, rule.punishments ≠ []) :
    Answered r w now m (n.conclude (.rule i rule.name) (some tier)
      (.ofPunishment tier ("matched rule '" ++ rule.name ++ "'"))) where
  escalations := by
    have hall : n.escalations = [some tier] := h.escalations ht
    rw [Notes.conclude, hall]
    simp
  rule := by
    intro _ j hj hfirst
    have hji : j = i := by
      rcases Nat.lt_trichotomy j i with hlt | heq | hgt
      · exact absurd hj (not_passesAt ht (h.passed j hlt))
      · exact heq
      · exact absurd h.passes (hfirst i hgt)
    rw [hji]
    exact ⟨rule, tier, h.position, h.tier_mem, rfl, rfl, h.escalations ht, h.records⟩
  watched _ _ _ hstop := nomatch hstop

theorem Unbroken.not_mem_escalations {n : Notes} (h : Unbroken w m { records := r } w.snapshot.rules n)
    (ht : ∀ rule ∈ w.snapshot.rules, rule.punishments ≠ []) : none ∉ n.escalations := by
  have hall : n.escalations = [] := h.escalations ht
  rw [hall]
  exact List.not_mem_nil

theorem Searched.mem {n n' : Notes} {exceptions : List SpamException} {found : Option (Nat × SpamException)}
    (h : Searched w m n exceptions found n') : ∀ f, found = some f → f.2 ∈ exceptions := by
  rintro ⟨i, e⟩ rfl
  exact (mem_of_firstWith (congrArg Prod.fst (h.found 0))).1

/-- The check of a message that breaks no rule and is compared with the history of its sender. -/
theorem Searched.answered {n n' : Notes} {exception : Option (Nat × SpamException)}
    (hs : Searched w m n (exceptionsFor w m) exception n')
    (h : Unbroken w m { records := r } w.snapshot.rules n) (ht : ∀ rule ∈ w.snapshot.rules, rule.punishments ≠ [])
    (htiers : (caseUnder w m exception).tiers ≠ []) :
    Answered r w now m (n'.settle (caseUnder w m exception) exception m.userId now later) := by
  have hrecords : n'.records = r := hs.records.trans h.records
  refine ⟨?_, fun _ i hi _ => absurd hi (not_passesAt ht (h.passed i)), ?_⟩
  · rw [Notes.settle, hs.escalations, hrecords, List.mem_append, Option.mem_toList]
    exact fun hnone => hnone.elim (h.not_mem_escalations ht) (SpamCase.answer_ne_some_none htiers r m.userId later)
  · rintro profile emoteOnly exception' hstop c repeats hreached
    obtain rfl : exception = exception' := (Stop.watched.inj hstop).2.2
    rw [Notes.settle, hrecords]
    exact SpamCase.exists_verdict htiers hreached now later

/-- The check of a message, where all policies have tiers. -/
theorem Goes.answered (h : Goes r w now later m p) (ht : ∀ rule ∈ w.snapshot.rules, rule.punishments ≠ [])
    (htiers : ∀ exception : Option (Nat × SpamException),
      (∀ f, exception = some f → f.2 ∈ exceptionsFor w m) → (caseUnder w m exception).tiers ≠ []) :
    Answered r w now m p := by
  cases h with
  | bypassed hb =>
    exact ⟨List.not_mem_nil, fun hreaches => by simp [hreaches.1] at hb, fun _ _ _ hstop => nomatch hstop⟩
  | bannedWord hb hw =>
    exact ⟨List.not_mem_nil, fun hreaches => by simp [hreaches.2.1] at hw, fun _ _ _ hstop => nomatch hstop⟩
  | advertising hb hw ha =>
    exact ⟨List.not_mem_nil, fun hreaches => by simp [hreaches.2.2] at ha, fun _ _ _ hstop => nomatch hstop⟩
  | atRules hb hw ha h =>
    cases h with
    | broken h => exact h.answered ht
    | longWord h | unwatched h =>
      exact ⟨h.not_mem_escalations ht, fun _ i hi _ => absurd hi (not_passesAt ht (h.passed i)),
        fun _ _ _ hstop => nomatch hstop⟩
    | watched h _ _ hs => exact hs.answered h ht (htiers _ hs.mem)

end Answers

/--
Where the configuration has been accepted, no escalation of a check is without a tier.  The first of the rules and then
the groups that applies decides, and nothing is done about the message after that; and where the limit of the spam
policy that applies is reached, or there are too many emotes, the verdict is one of the punishments of that policy.
-/
theorem answered_of_validate {config : Config} (h : config.validate = .ok ()) {w : Surroundings}
    (hw : w.snapshot = .compile config) (r : Records) (now later : Nat) (m : ChatMessage) :
    w.snapshot.rules = config.rules.map RuleEntry.compile ++ config.groups.map GroupEntry.compile ∧
      check r w now later m = (passage r w now later m).result ∧ Answered r w now m (passage r w now later m) := by
  have hgoes : Goes r w now later m (passage r w now later m) := goes_passage r w now later m
  have hc : config.Tiered := Config.tiered_of_validate h
  exact ⟨hw ▸ Snapshot.rules_compile config, hgoes.result_eq,
    hgoes.answered (rules_ne_nil hc hw) fun _ he => tiers_ne_nil hc hw he⟩

/-- A word is said twice, which is one time too many. -/
theorem answered_of_validate_twice :
    twiceConfig.validate = .ok () ∧
      ∃ tier ∈ twiceConfig.spam.standard.punishments,
        (check (check emptyRecords twiceSurroundings 1 1 (saying "7" "hi")).1 twiceSurroundings 2 2
          (saying "7" "hi")).2.1 = .ofPunishment tier "repeated messages" := by
  have hvalid : twiceConfig.validate = .ok () := by decide +kernel
  have hsnapshot : twiceSurroundings.snapshot = .compile twiceConfig := rfl
  let r := (check emptyRecords twiceSurroundings 1 1 (saying "7" "hi")).1
  obtain ⟨-, hresult, hanswered⟩ := answered_of_validate hvalid hsnapshot r 2 2 (saying "7" "hi")
  have hstop : (passage r twiceSurroundings 2 2 (saying "7" "hi")).stop =
      .watched twiceConfig.spam.standard.compile false none := by decide +kernel
  have hpenalty : (caseUnder twiceSurroundings (saying "7" "hi") none).penalty?
      ((caseUnder twiceSurroundings (saying "7" "hi") none).repeats ((r.history.items "7").map (·.payload))) =
      some .textRepeats := by decide +kernel
  generalize passage r twiceSurroundings 2 2 (saying "7" "hi") = p at hresult hanswered hstop
  obtain ⟨penalty, hpenalty', tier, hmem, hverdict⟩ := hanswered.watched _ _ _ hstop (.inl (by decide +kernel))
  obtain rfl := Option.some.inj (hpenalty.symm.trans hpenalty')
  refine ⟨hvalid, tier, hmem, ?_⟩
  rw [hresult]
  exact hverdict

end ChatModeration.Moderation
