import ChatModeration.Binary64.Basic
import ChatModeration.Rule.Options
import ChatModeration.Verdict

/-!
# The configuration

What a channel configures: whom and what to moderate, by which rules, and how the program runs.  Every part has
defaults, which hold where the configuration is silent.
-/

namespace ChatModeration

/-- When messages are moderated. -/
inductive Mode where
  | always
  /-- Only while the stream is live. -/
  | onlineOnly
deriving DecidableEq, Repr

/-- All modes by name. -/
def Mode.named : List (String × Mode) := [("always", always), ("online_only", onlineOnly)]

/-- The name of a mode. -/
def Mode.name : Mode → String
  | always => "always"
  | onlineOnly => "online_only"

/-- What counts as an advertisement of another channel. -/
structure AdvertisingPolicy where
  enabled : Bool := true
  promoPhrases : List String := ["follow me", "check out my stream", "come watch", "i'm live", "live now"]
deriving DecidableEq, Repr

/-- Which words are too long. -/
structure WordLengthPolicy where
  enabled : Bool := true
  /-- Words of at least this many characters are too long. -/
  maxLength : Nat := 60
  punishment : Punishment := .delete
deriving DecidableEq, Repr

/-- The time in seconds after which a violation no longer counts, where no other is configured. -/
def defaultResetSeconds : Nat := 600

/-- A configured rule: words, or one pattern in their place. -/
structure RuleEntry where
  name : String
  options : RuleOptions := {}
  words : List String := []
  pattern : Option String := none
  punishments : List Punishment
  resetSeconds : Nat := defaultResetSeconds
deriving DecidableEq, Repr

/-- A configured group of words and patterns with the same options. -/
structure GroupEntry where
  name : String
  options : RuleOptions := {}
  words : List String := []
  patterns : List String := []
  punishments : List Punishment
  resetSeconds : Nat := defaultResetSeconds
deriving DecidableEq, Repr

/-- A configured exception of a spam policy: a rule with a message limit of its own. -/
structure ExceptionEntry where
  name : String
  options : RuleOptions := {}
  words : List String := []
  pattern : Option String := none
  messageLimit : Nat
  punishments : List Punishment
  resetSeconds : Nat := defaultResetSeconds
deriving DecidableEq, Repr

/-- The policy on messages that consist of emotes. -/
structure EmotePolicy where
  enabled : Bool := true
  /-- The greatest number of emotes in a message; zero means no limit. -/
  maxEmotes : Nat := 15
  messageLimit : Nat := 5
  punishments : List Punishment := [.delete, .timeout 30]
  resetSeconds : Nat := 300
  exceptions : List ExceptionEntry := []
deriving DecidableEq, Repr

/-- The policy on repeated messages of one class of chatters. -/
structure SpamProfile where
  enabled : Bool := true
  /-- Messages of at least this similarity count as the same. -/
  similarityThreshold : Binary64 := Binary64.ofRatio false 8 10
  messageLimit : Nat := 4
  /-- The number of other messages between two repeats from which on the second one is tolerated. -/
  minGap : Nat := 2
  /-- The time in seconds for which a message stays in the history of its sender. -/
  historySeconds : Nat := 30
  punishments : List Punishment := [.delete, .timeout 60, .timeout 600, .ban]
  resetSeconds : Nat := defaultResetSeconds
  emote : EmotePolicy := {}
  exceptions : List ExceptionEntry := []
deriving DecidableEq, Repr

/-- The policies on repeated messages. -/
structure SpamPolicy where
  standard : SpamProfile := {}
  vip : SpamProfile := { similarityThreshold := Binary64.ofRatio false 9 10, messageLimit := 6 }
deriving DecidableEq, Repr

/-- Settings of the stores. -/
structure StoreSettings where
  shards : Nat := 16
  /-- The time in milliseconds between two sweeps. -/
  reclaimInterval : Nat := 1000
deriving DecidableEq, Repr

/-- Settings of the pipeline.  Times are in milliseconds. -/
structure PipelineSettings where
  queueCapacity : Nat := 10000
  /-- The number of workers; zero means one for each processor. -/
  workers : Nat := 0
  reconnectBackoff : Nat := 5000
  firstMessageTimeout : Nat := 300
deriving DecidableEq, Repr

/-- The rule that is there where no rules are configured. -/
def defaultRule : RuleEntry where
  name := "viewbots"
  pattern := some "(cheap|free)\\s+(viewers|followers|primes)"
  punishments := [.timeout 600, .ban]
  resetSeconds := 3600

/-- A configuration. -/
structure Config where
  enabled : Bool := true
  mode : Mode := .always
  /-- Users that are never moderated. -/
  whitelist : List String := []
  /-- Words and phrases that lead to a ban at once. -/
  bannedWords : List String := []
  advertising : AdvertisingPolicy := {}
  wordLength : WordLengthPolicy := {}
  rules : List RuleEntry := [defaultRule]
  groups : List GroupEntry := []
  spam : SpamPolicy := {}
  emotes : List String := []
  store : StoreSettings := {}
  pipeline : PipelineSettings := {}
deriving DecidableEq, Repr

/-- The configuration in which nothing is said. -/
def Config.standard : Config := {}

end ChatModeration
