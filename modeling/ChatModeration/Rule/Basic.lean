import ChatModeration.Rule.Matcher
import ChatModeration.Verdict

/-!
# Rules

A rule has matchers under one set of options, its own punishments and the time after which a violation is forgotten.
-/

namespace ChatModeration

/-- A rule. -/
structure Rule where
  name : String
  options : RuleOptions
  matchers : List Matcher
  punishments : List Punishment
  /-- The time in milliseconds after which a violation no longer counts. -/
  resetWindow : Nat
deriving DecidableEq, Repr

namespace Rule

/-- The position of the first matcher that matches; roles do not count here. -/
def firstMatch? (rule : Rule) (message : ChatMessage) : Option Nat :=
  rule.matchers.findIdx? fun m => m.isMatch rule.options message

/-- The key under which violations of the rule by a user are counted. -/
def violationKey (rule : Rule) (userId : String) : String := rule.name ++ ":" ++ userId

end Rule

/-- An exception of a spam policy: messages that the rule matches have a limit of their own. -/
structure SpamException where
  rule : Rule
  messageLimit : Nat
deriving DecidableEq, Repr

end ChatModeration
