import ChatModeration.Proofs.Config.Limits

/-!
# Tiers of accepted configurations

Where a configuration is accepted, every rule and group has a tier, and so has every policy on repeated messages with
its exceptions, and the policy on emotes wherever it is switched on (`tiered_of_validate`).
-/

namespace ChatModeration

/-- A policy on repeated messages of which every part that can be violated has a tier. -/
structure SpamProfile.Tiered (p : SpamProfile) : Prop where
  punishments : p.punishments ≠ []
  emote : p.emote.enabled = true → p.emote.punishments ≠ []
  exceptions : ∀ e ∈ p.exceptions, e.punishments ≠ []
  emoteExceptions : ∀ e ∈ p.emote.exceptions, e.punishments ≠ []

namespace Config

/-- A configuration of which every part that can be violated has a tier. -/
structure Tiered (c : Config) : Prop where
  rules : ∀ r ∈ c.rules, r.punishments ≠ []
  groups : ∀ g ∈ c.groups, g.punishments ≠ []
  standard : c.spam.standard.Tiered
  vip : c.spam.vip.Tiered

/-- A check of a list that succeeds has succeeded at every element. -/
theorem forall_of_forM {α ε : Type} {f : α → Except ε Unit} {l : List α} (h : l.forM f = .ok ()) :
    ∀ a ∈ l, f a = .ok () := by
  induction l with
  | nil => nofun
  | cons a l ih =>
    obtain ⟨_, hfirst, hrest⟩ := bind_eq_ok h
    exact List.forall_mem_cons.2 ⟨hfirst, ih hrest⟩

theorem of_checkTiers {what : String} {tiers : List Punishment} {u : Unit} (h : checkTiers what tiers = .ok u) :
    tiers ≠ [] := by
  have hsome : (!tiers.isEmpty) = true := of_ensure h
  simpa using hsome

theorem of_checkRule {r : RuleEntry} (h : checkRule r = .ok ()) : r.punishments ≠ [] := by
  obtain ⟨_, -, h⟩ := bind_eq_ok h
  obtain ⟨_, -, h⟩ := bind_eq_ok h
  exact of_checkTiers h

theorem of_checkGroup {g : GroupEntry} (h : checkGroup g = .ok ()) : g.punishments ≠ [] := by
  obtain ⟨_, -, h⟩ := bind_eq_ok h
  obtain ⟨_, -, h⟩ := bind_eq_ok h
  exact of_checkTiers h

theorem of_checkException {field : String} {e : ExceptionEntry} (h : checkException field e = .ok ()) :
    e.punishments ≠ [] := by
  obtain ⟨_, -, h⟩ := bind_eq_ok h
  obtain ⟨_, -, h⟩ := bind_eq_ok h
  exact of_checkTiers h

theorem tiered_of_checkProfile {field : String} {p : SpamProfile} (h : checkProfile field p = .ok ()) : p.Tiered := by
  obtain ⟨_, -, h⟩ := bind_eq_ok h
  obtain ⟨_, -, h⟩ := bind_eq_ok h
  obtain ⟨_, htiers, h⟩ := bind_eq_ok h
  -- the tiers for emotes are looked at only where the policy on emotes is switched on
  have hemote : (p.emote.enabled = true → p.emote.punishments ≠ []) ∧
      (p.exceptions ++ p.emote.exceptions).forM (checkException field) = .ok () := by
    split at h
    · obtain ⟨_, -, h⟩ := bind_eq_ok h
      obtain ⟨_, hemote, h⟩ := bind_eq_ok h
      exact ⟨fun _ => of_checkTiers hemote, h⟩
    · rename_i hoff
      exact ⟨fun hon => absurd hon hoff, h⟩
  obtain ⟨hexceptions, hemoteExceptions⟩ := List.forall_mem_append.1 (forall_of_forM hemote.2)
  exact ⟨of_checkTiers htiers, hemote.1, fun e he => of_checkException (hexceptions e he),
    fun e he => of_checkException (hemoteExceptions e he)⟩

/-- The tiers of an accepted configuration. -/
theorem tiered_of_validate {c : Config} (h : c.validate = .ok ()) : c.Tiered := by
  obtain ⟨_, hrules, h⟩ := bind_eq_ok h
  obtain ⟨_, hgroups, h⟩ := bind_eq_ok h
  obtain ⟨_, hstandard, h⟩ := bind_eq_ok h
  obtain ⟨_, hvip, -⟩ := bind_eq_ok h
  exact ⟨fun r hr => of_checkRule (forall_of_forM hrules r hr), fun g hg => of_checkGroup (forall_of_forM hgroups g hg),
    tiered_of_checkProfile hstandard, tiered_of_checkProfile hvip⟩

end Config

end ChatModeration
