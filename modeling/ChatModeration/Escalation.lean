import ChatModeration.Store.Basic
import ChatModeration.Verdict

/-!
# Escalation

The tier that a policy picks for a user grows with the number of violations that still count, up to the last tier.
Each violation leaves a marker in a store, which expires after the reset window of the policy, so the violations that
count are the markers that are left.
-/

namespace ChatModeration

/-- The tier after `priorCount` violations; there is none only if the policy has no tiers. -/
def pickTier (tiers : List Punishment) (priorCount : Nat) : Option Punishment :=
  tiers[min priorCount (tiers.length - 1)]?

/-- The markers of the violations of one kind of policy. -/
abbrev Violations := Store String Unit

namespace Violations

/-- The number of violations under a key that still count. -/
def priorCount (v : Violations) (key : String) : Nat := v.count key

/-- Picks the tier by the violations so far and records a violation; without tiers there is nothing to record. -/
def escalate (v : Violations) (key : String) (tiers : List Punishment) (window now : Nat) :
    Violations × Option Punishment :=
  v.withKey key now fun e =>
    match pickTier tiers e.count with
    | none => (e, none)
    | some p => (e.push () window, some p)

end Violations

end ChatModeration
