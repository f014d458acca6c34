import ChatModeration.Config.Validation

/-!
# Limits of accepted configurations

Where a configuration is accepted, each policy on repeated messages has a threshold of one at most, a positive limit
and a tier (`sound_of_validate`).
-/

namespace ChatModeration

namespace Config

theorem bind_eq_ok {ε α β : Type} {x : Except ε α} {f : α → Except ε β} {b : β} (h : (x >>= f) = .ok b) :
    ∃ a, x = .ok a ∧ f a = .ok b := by
  cases x with
  | error e => cases h
  | ok a => exact ⟨a, rfl, h⟩

theorem of_ensure {ok : Bool} {problem : ConfigError} {u : Unit} (h : ensure ok problem = .ok u) : ok = true := by
  unfold ensure at h
  split at h
  · assumption
  · cases h

end Config

/-- What is always true of an accepted policy on repeated messages. -/
structure SpamProfile.Sound (p : SpamProfile) : Prop where
  threshold : p.similarityThreshold.le .one = true
  messageLimit : 0 < p.messageLimit
  punishments : p.punishments ≠ []

namespace Config

theorem sound_of_checkProfile {field : String} {p : SpamProfile} {u : Unit} (h : checkProfile field p = .ok u) :
    p.Sound := by
  obtain ⟨_, hthreshold, h⟩ := bind_eq_ok h
  obtain ⟨_, hlimit, h⟩ := bind_eq_ok h
  obtain ⟨_, htiers, -⟩ := bind_eq_ok h
  have hrange : isThreshold p.similarityThreshold = true := of_ensure hthreshold
  have hpos : (p.messageLimit != 0) = true := of_ensure hlimit
  have hsome : (!p.punishments.isEmpty) = true := of_ensure htiers
  exact ⟨(Bool.and_eq_true_iff.1 hrange).2, by simpa [Nat.pos_iff_ne_zero] using hpos, by simpa using hsome⟩

/-- The policies of an accepted configuration. -/
theorem sound_of_validate {c : Config} (h : c.validate = .ok ()) : c.spam.standard.Sound ∧ c.spam.vip.Sound := by
  obtain ⟨_, -, h⟩ := bind_eq_ok h
  obtain ⟨_, -, h⟩ := bind_eq_ok h
  obtain ⟨_, hstandard, h⟩ := bind_eq_ok h
  obtain ⟨_, hvip, -⟩ := bind_eq_ok h
  exact ⟨sound_of_checkProfile hstandard, sound_of_checkProfile hvip⟩

end Config

end ChatModeration
