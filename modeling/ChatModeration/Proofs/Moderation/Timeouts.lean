import ChatModeration.Proofs.Moderation.Accounting
import ChatModeration.Proofs.Moderation.Answers

/-!
# Lengths of timeouts

Wherever a check stops, the punishment that it picks is one that the configuration names (`Goes.mem_allPunishments`).
So the seconds of a timeout are those of a configured one (`timeout_of_check`).  An accepted configuration may name
timeouts of no length, and these are carried out as they are (`timeout_of_check_zero`).
-/

namespace ChatModeration

/-! ### Configured punishments -/

/-- All punishments of a policy on repeated messages, those of its exceptions included. -/
def SpamProfile.allPunishments (p : SpamProfile) : List Punishment :=
  p.punishments ++ p.emote.punishments ++ (p.exceptions ++ p.emote.exceptions).flatMap (·.punishments)

/-- All punishments that a configuration names. -/
def Config.allPunishments (c : Config) : List Punishment :=
  (c.rules.flatMap (·.punishments) ++ c.groups.flatMap (·.punishments)) ++
    c.wordLength.punishment :: [c.spam.standard, c.spam.vip].flatMap (·.allPunishments)

namespace Moderation

section Configured

variable {config : Config} {w : Surroundings}

theorem rule_subset (hw : w.snapshot = .compile config) :
    ∀ rule ∈ w.snapshot.rules, rule.punishments ⊆ config.allPunishments := by
  rw [hw, Snapshot.rules_compile]
  refine List.forall_mem_append.2 ⟨List.forall_mem_map.2 fun r hr => ?_, List.forall_mem_map.2 fun g hg => ?_⟩
  · intro tier ht
    exact List.mem_append_left _ (List.mem_append_left _ (List.mem_flatMap.2 ⟨r, hr, ht⟩))
  · intro tier ht
    exact List.mem_append_left _ (List.mem_append_right _ (List.mem_flatMap.2 ⟨g, hg, ht⟩))

theorem longWord_mem (hw : w.snapshot = .compile config) {m : ChatMessage} {tier : Punishment}
    (h : longWord? w m = some tier) : tier ∈ config.allPunishments := by
  unfold longWord? at h
  dsimp only at h
  split at h
  · obtain rfl := Option.some.inj h
    rw [hw]
    exact List.mem_append_right _ List.mem_cons_self
  · cases h

theorem profile_subset {p : SpamProfile} (hp : p ∈ [config.spam.standard, config.spam.vip]) :
    p.allPunishments ⊆ config.allPunishments :=
  fun _ ht => List.mem_append_right _ (List.mem_cons_of_mem _ (List.mem_flatMap.2 ⟨p, hp, ht⟩))

theorem tiers_subset (hw : w.snapshot = .compile config) {m : ChatMessage} {exception : Option (Nat × SpamException)}
    (he : ∀ f, exception = some f → f.2 ∈ exceptionsFor w m) :
    (caseUnder w m exception).tiers ⊆ config.allPunishments := by
  obtain ⟨p, hp, hprofile⟩ := profileFor_eq_compile hw m
  refine List.Subset.trans ?_ (profile_subset hp)
  rcases tiers_cases hprofile he with ⟨e, hmem, htiers⟩ | ⟨-, htiers⟩ | htiers
  · rw [htiers]
    exact fun _ ht => List.mem_append_right _ (List.mem_flatMap.2 ⟨e, hmem, ht⟩)
  · rw [htiers]
    exact fun _ ht => List.mem_append_left _ (List.mem_append_right _ ht)
  · rw [htiers]
    exact fun _ ht => List.mem_append_left _ (List.mem_append_left _ ht)

end Configured

/-- The violated policy picks one of the punishments of the policy that applies. -/
theorem SpamCase.answer_mem {c : SpamCase} {r : Records} {user : String} {later : Nat} {tier : Punishment}
    (h : (c.answer? r user later).join = some tier) : tier ∈ c.tiers := by
  obtain ⟨p, hp, htier⟩ := Option.map_eq_some_iff.1 (Option.join_eq_some_iff.1 h)
  obtain ⟨n, hn⟩ := SpamCase.escalate_eq_pickTier hp user later r.violations
  exact List.mem_of_getElem? (hn.symm.trans htier)

/-- Whatever a check picks is configured. -/
theorem Goes.mem_allPunishments {r : Records} {w : Surroundings} {now later : Nat} {m : ChatMessage} {p : Passage}
    (h : Goes r w now later m p) {config : Config} (hw : w.snapshot = .compile config) {tier : Punishment}
    (hp : p.punishment = some tier) : tier ∈ config.allPunishments := by
  cases h with
  | bypassed | bannedWord | advertising => cases hp
  | atRules hb hban ha h =>
    cases h with
    | broken h =>
      obtain rfl := Option.some.inj hp
      exact rule_subset hw _ (List.mem_of_getElem? h.position) h.tier_mem
    | longWord h hlong =>
      obtain rfl := Option.some.inj hp
      exact longWord_mem hw hlong
    | unwatched => cases hp
    | watched h _ _ hs => exact tiers_subset hw hs.mem (SpamCase.answer_mem hp)

/-! ### Timeouts -/

/--
A timeout lasts for the seconds of a configured timeout, whatever the records are and whatever the oracle says.  So no
timeout is without length if none of the configured ones is.
-/
theorem timeout_of_check {config : Config}
    (hpos : ∀ tier ∈ config.allPunishments, tier.action = .timeout → 0 < tier.seconds) {w : Surroundings}
    (hw : w.snapshot = .compile config) (r : Records) (now later : Nat) (m : ChatMessage) :
    let verdict := (check r w now later m).2.1
    (verdict.kind = .timeout → ∃ tier ∈ config.allPunishments, tier.action = .timeout ∧ 0 < tier.seconds ∧
      verdict.enforce m = some (.timeout m.userId tier.seconds verdict.reason)) ∧
    (verdict.kind ≠ .timeout → ∀ user seconds reason, verdict.enforce m ≠ some (.timeout user seconds reason)) := by
  intro verdict
  have hgoes : Goes r w now later m (passage r w now later m) := goes_passage r w now later m
  have hverdict : verdict = (passage r w now later m).verdict := congrArg (·.2.1) hgoes.result_eq
  have hallowed : (passage r w now later m).stop.Allows (passage r w now later m).punishment verdict :=
    hverdict ▸ hgoes.allows
  refine ⟨fun hkind => ?_, fun hkind user seconds reason henforce => ?_⟩
  · obtain ⟨tier, hpicked, haction, hseconds⟩ := hallowed.timeout hkind
    have hmem : tier ∈ config.allPunishments := hgoes.mem_allPunishments hw hpicked
    refine ⟨tier, hmem, haction, hpos tier hmem haction, ?_⟩
    rw [Verdict.enforce, hkind, hseconds]
    rfl
  · rcases verdict.enforce_cases m with ⟨-, h⟩ | ⟨-, -, h⟩ | ⟨-, -, h⟩ | ⟨htimeout, -⟩ | ⟨-, h⟩
    · cases h.symm.trans henforce
    · cases h.symm.trans henforce
    · cases h.symm.trans henforce
    · exact hkind htimeout
    · cases h.symm.trans henforce

/-- A configuration under which a word leads to a timeout of some seconds. -/
def silencing (seconds : Nat) : Config :=
  { twiceConfig with rules := [{ name := "quiet", words := ["x"], punishments := [.timeout seconds] }] }

/-- What is known in a channel with this configuration. -/
def underSilencing (seconds : Nat) : Surroundings :=
  { strictSurroundings with snapshot := .compile (silencing seconds) }

/-- The word leads to a timeout of half a minute, as configured. -/
theorem timeout_of_check_silencing :
    let verdict := (check emptyRecords (underSilencing 30) 1 1 (saying "7" "x")).2.1
    (∀ tier ∈ (silencing 30).allPunishments, tier.action = .timeout → 0 < tier.seconds) ∧
      (underSilencing 30).snapshot = .compile (silencing 30) ∧ verdict.kind = .timeout ∧
      ∃ tier ∈ (silencing 30).allPunishments, 0 < tier.seconds ∧
        verdict.enforce (saying "7" "x") = some (.timeout "7" tier.seconds verdict.reason) := by
  intro verdict
  have hpos : ∀ tier ∈ (silencing 30).allPunishments, tier.action = .timeout → 0 < tier.seconds := by decide +kernel
  have hkind : verdict.kind = .timeout := by decide +kernel
  obtain ⟨htimeout, -⟩ := timeout_of_check hpos (w := underSilencing 30) rfl emptyRecords 1 1 (saying "7" "x")
  obtain ⟨tier, hmem, -, hseconds, henforce⟩ := htimeout hkind
  exact ⟨hpos, rfl, hkind, tier, hmem, hseconds, henforce⟩

/-- A timeout without length is accepted, and carried out. -/
theorem timeout_of_check_zero :
    let verdict := (check emptyRecords (underSilencing 0) 1 1 (saying "7" "x")).2.1
    (silencing 0).validate = .ok () ∧ verdict.kind = .timeout ∧
      verdict.enforce (saying "7" "x") = some (.timeout "7" 0 "matched rule 'quiet'") := by
  intro verdict
  exact ⟨by decide +kernel, by decide +kernel, by decide +kernel⟩

end Moderation

end ChatModeration
