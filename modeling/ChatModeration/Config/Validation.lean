import ChatModeration.Config.Basic
import ChatModeration.Config.Error
import ChatModeration.Text.Blank

/-!
# Valid configurations

A configuration is accepted if every rule has a name, something to look for and a punishment, if limits are positive
and thresholds lie between zero and one.  Whether a pattern can be used does not matter here.  The first problem is the
one that is reported.
-/

namespace ChatModeration

namespace Config

/-- Whether a condition holds, else the problem. -/
def ensure (ok : Bool) (problem : ConfigError) : Except ConfigError Unit :=
  if ok then .ok () else .error problem

/-- Checks that a name is not blank. -/
def checkNamed (what name : String) : Except ConfigError Unit :=
  ensure (!(Text.trim name).isEmpty) (.missingName what)

/-- Checks that a policy has a tier. -/
def checkTiers (what : String) (tiers : List Punishment) : Except ConfigError Unit :=
  ensure (!tiers.isEmpty) (.emptyPunishments what)

/-- Checks that a number is not zero. -/
def checkPositive (field : String) (n : Nat) : Except ConfigError Unit := ensure (n != 0) (.zeroValue field)

/-- Checks a rule. -/
def checkRule (r : RuleEntry) : Except ConfigError Unit := do
  checkNamed "moderation rule" r.name
  ensure (!(r.words.isEmpty && r.pattern.isNone)) (.emptyRule r.name)
  checkTiers ("rule '" ++ r.name ++ "'") r.punishments

/-- Checks a group. -/
def checkGroup (g : GroupEntry) : Except ConfigError Unit := do
  checkNamed "moderation group" g.name
  ensure (!(g.words.isEmpty && g.patterns.isEmpty)) (.emptyRule g.name)
  checkTiers ("group '" ++ g.name ++ "'") g.punishments

/-- Checks an exception of the policy that `field` names. -/
def checkException (field : String) (e : ExceptionEntry) : Except ConfigError Unit := do
  checkNamed "spam exception" e.name
  checkPositive (field ++ " exception '" ++ e.name ++ "' message_limit") e.messageLimit
  checkTiers ("exception '" ++ e.name ++ "'") e.punishments

/-- Whether a threshold lies between zero and one. -/
def isThreshold (x : Binary64) : Bool := Binary64.zero.le x && x.le Binary64.one

/-- Checks the policy for one class of chatters. -/
def checkProfile (field : String) (p : SpamProfile) : Except ConfigError Unit := do
  ensure (isThreshold p.similarityThreshold)
    (.invalidThreshold (field ++ ".similarity_threshold") p.similarityThreshold)
  checkPositive (field ++ ".message_limit") p.messageLimit
  checkTiers field p.punishments
  if p.emote.enabled then
    checkPositive (field ++ ".emote.message_limit") p.emote.messageLimit
    checkTiers (field ++ ".emote") p.emote.punishments
  (p.exceptions ++ p.emote.exceptions).forM (checkException field)

/-- Checks a configuration. -/
def validate (c : Config) : Except ConfigError Unit := do
  c.rules.forM checkRule
  c.groups.forM checkGroup
  checkProfile "spam.default" c.spam.standard
  checkProfile "spam.vip" c.spam.vip
  checkPositive "store.shards" c.store.shards
  checkPositive "store.reclaim_interval_ms" c.store.reclaimInterval
  checkPositive "pipeline.queue_capacity" c.pipeline.queueCapacity
  ensure (!(c.wordLength.enabled && c.wordLength.maxLength == 0)) (.zeroValue "word_length.max_length")

end Config

end ChatModeration
