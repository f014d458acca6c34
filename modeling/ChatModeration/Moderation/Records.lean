import ChatModeration.Escalation
import ChatModeration.Config.Basic
import ChatModeration.Fingerprint

/-!
# Records

What is remembered about users: the fingerprints of their recent messages, and the violations of each kind of policy.
-/

namespace ChatModeration.Moderation

/-- The recent messages of users. -/
abbrev History := Store String (Fingerprint String)

/-- The violations of each kind of policy. -/
structure ViolationRecords where
  spam : Violations
  emotes : Violations
  exceptions : Violations
  rules : Violations

/-- What is remembered about users. -/
structure Records where
  history : History
  violations : ViolationRecords

namespace Records

/-- Empty records in stores with the given settings. -/
def empty (settings : StoreSettings) (assign : String → Nat) : Records :=
  let markers (name : String) : Violations :=
    Store.empty name settings.shards settings.reclaimInterval Store.wordHorizon assign
  { history := Store.empty "message-history" settings.shards settings.reclaimInterval Store.wordHorizon assign
    violations :=
      { spam := markers "spam-violations"
        emotes := markers "emote-violations"
        exceptions := markers "exception-violations"
        rules := markers "rule-violations" } }

/-- How many items each store has given up. -/
structure Reclaimed where
  history : Nat
  spam : Nat
  emotes : Nat
  exceptions : Nat
  rules : Nat
deriving DecidableEq, Repr

/-- Removes what has expired from all stores. -/
def reclaim (r : Records) (now : Nat) : Records × Reclaimed :=
  let history := r.history.reclaim now
  let spam := r.violations.spam.reclaim now
  let emotes := r.violations.emotes.reclaim now
  let exceptions := r.violations.exceptions.reclaim now
  let rules := r.violations.rules.reclaim now
  (⟨history.1, ⟨spam.1, emotes.1, exceptions.1, rules.1⟩⟩, ⟨history.2, spam.2, emotes.2, exceptions.2, rules.2⟩)

/-- The number of stores, each of which is swept by a task of its own. -/
def storeCount : Nat := 5

end Records

end ChatModeration.Moderation
