import ChatModeration.Message

/-!
# Options of rules

The options that every kind of rule has.  Each is a filter of its own and may be combined with any other.
-/

namespace ChatModeration

/-- The options of a rule. -/
structure RuleOptions where
  /-- VIPs are never matched. -/
  exemptVip : Bool := false
  /-- Subscribers are never matched. -/
  exemptSubscriber : Bool := false
  /-- Only the first message of a chatter in the channel is matched. -/
  firstMessageOnly : Bool := false
  /-- The whole message must equal the word or match the pattern. -/
  exact : Bool := false
  /-- Only messages of a single token are matched. -/
  oneWord : Bool := false
  /-- Words match anywhere and not only as whole tokens. -/
  substring : Bool := false
  /-- The text as it was sent is matched, and not the normalized text. -/
  caseSensitive : Bool := false
deriving DecidableEq, Repr

/-- Whether a chatter with the given roles is never matched. -/
def RuleOptions.exempts (options : RuleOptions) (roles : Roles) : Bool :=
  (options.exemptVip && roles.vip) || (options.exemptSubscriber && roles.subscriber)

end ChatModeration
