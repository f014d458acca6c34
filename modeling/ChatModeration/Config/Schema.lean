import ChatModeration.Config.Basic
import ChatModeration.Json.Decode
import ChatModeration.Message

/-!
# The schema of the configuration

The fields of every part of a configuration: how it is decoded from a JSON value (`Config.decoder`) and how it is
written as one (`Config.toJson`).  The options of a rule stand among its own fields, and a rule without a pattern has
no field for it.
-/

namespace ChatModeration

open Json (Decoder)
open Json.Fields (required defaulted record extendedRecord)

/-! ### Decoders -/

/-- A kind of verdict by its name. -/
def VerdictKind.decoder : Decoder VerdictKind := .choice named

/-- A punishment. -/
def Punishment.decoder : Decoder Punishment :=
  record "struct Punishment"
    (Punishment.mk <$> required "action" (.choice PunishmentKind.named) <*> defaulted "duration" .word 0)

/-- A message that is replied to. -/
def ReplyParent.decoder : Decoder ReplyParent :=
  record "struct ReplyParent"
    (ReplyParent.mk <$> required "message_id" .text <*> required "user_id" .text <*> required "user_login" .text)

/-- A list of texts. -/
def Json.Decoder.texts : Decoder (List String) := .list .text

/-- The tiers of a policy. -/
def Punishment.tiers : Decoder (List Punishment) := .list Punishment.decoder

/-- The fields of the options of a rule. -/
def RuleOptions.fields : Json.Fields RuleOptions :=
  RuleOptions.mk <$> defaulted "exempt_vip" .flag false <*> defaulted "exempt_subscriber" .flag false <*>
    defaulted "first_message_only" .flag false <*> defaulted "exact" .flag false <*>
    defaulted "one_word" .flag false <*> defaulted "substring" .flag false <*>
    defaulted "case_sensitive" .flag false

/-- The options of a rule. -/
def RuleOptions.decoder : Decoder RuleOptions := record "struct RuleOptions" RuleOptions.fields

/-- The policy on advertisements. -/
def AdvertisingPolicy.decoder : Decoder AdvertisingPolicy :=
  let d : AdvertisingPolicy := {}
  record "struct AdvertisingConfig"
    (AdvertisingPolicy.mk <$> defaulted "enabled" .flag d.enabled <*>
      defaulted "promo_phrases" .texts d.promoPhrases)

/-- The policy on long words. -/
def WordLengthPolicy.decoder : Decoder WordLengthPolicy :=
  let d : WordLengthPolicy := {}
  record "struct WordLengthConfig"
    (WordLengthPolicy.mk <$> defaulted "enabled" .flag d.enabled <*> defaulted "max_length" .count d.maxLength <*>
      defaulted "punishment" Punishment.decoder d.punishment)

/-- A rule. -/
def RuleEntry.decoder : Decoder RuleEntry :=
  extendedRecord "struct RuleConfig"
    (make <$> required "name" .text <*> defaulted "words" .texts [] <*> Json.Fields.optional "pattern" .text <*>
      required "punishments" Punishment.tiers <*> defaulted "reset_secs" .word defaultResetSeconds)
    RuleOptions.fields
where
  /-- The rule of some fields. -/
  make (name : String) (words : List String) (pattern : Option String) (punishments : List Punishment)
      (resetSeconds : Nat) (options : RuleOptions) : RuleEntry :=
    { name, options, words, pattern, punishments, resetSeconds }

/-- A group. -/
def GroupEntry.decoder : Decoder GroupEntry :=
  extendedRecord "struct GroupConfig"
    (make <$> required "name" .text <*> defaulted "words" .texts [] <*> defaulted "patterns" .texts [] <*>
      required "punishments" Punishment.tiers <*> defaulted "reset_secs" .word defaultResetSeconds)
    RuleOptions.fields
where
  /-- The group of some fields. -/
  make (name : String) (words patterns : List String) (punishments : List Punishment) (resetSeconds : Nat)
      (options : RuleOptions) : GroupEntry :=
    { name, options, words, patterns, punishments, resetSeconds }

/-- An exception. -/
def ExceptionEntry.decoder : Decoder ExceptionEntry :=
  extendedRecord "struct ExceptionConfig"
    (make <$> required "name" .text <*> defaulted "words" .texts [] <*> Json.Fields.optional "pattern" .text <*>
      required "message_limit" .count <*> required "punishments" Punishment.tiers <*>
      defaulted "reset_secs" .word defaultResetSeconds)
    RuleOptions.fields
where
  /-- The exception of some fields. -/
  make (name : String) (words : List String) (pattern : Option String) (messageLimit : Nat)
      (punishments : List Punishment) (resetSeconds : Nat) (options : RuleOptions) : ExceptionEntry :=
    { name, options, words, pattern, messageLimit, punishments, resetSeconds }

/-- The policy on emotes. -/
def EmotePolicy.decoder : Decoder EmotePolicy :=
  let d : EmotePolicy := {}
  record "struct EmoteSpamConfig"
    (EmotePolicy.mk <$> defaulted "enabled" .flag d.enabled <*> defaulted "max_emotes" .count d.maxEmotes <*>
      defaulted "message_limit" .count d.messageLimit <*> defaulted "punishments" Punishment.tiers d.punishments <*>
      defaulted "reset_secs" .word d.resetSeconds <*>
      defaulted "exceptions" (.list ExceptionEntry.decoder) d.exceptions)

/-- The policy for one class of chatters. -/
def SpamProfile.decoder : Decoder SpamProfile :=
  let d : SpamProfile := {}
  record "struct SpamProfile"
    (SpamProfile.mk <$> defaulted "enabled" .flag d.enabled <*>
      defaulted "similarity_threshold" .real d.similarityThreshold <*>
      defaulted "message_limit" .count d.messageLimit <*> defaulted "min_gap" .count d.minGap <*>
      defaulted "history_secs" .word d.historySeconds <*> defaulted "punishments" Punishment.tiers d.punishments <*>
      defaulted "reset_secs" .word d.resetSeconds <*> defaulted "emote" EmotePolicy.decoder d.emote <*>
      defaulted "exceptions" (.list ExceptionEntry.decoder) d.exceptions)

/-- The policies on repeated messages. -/
def SpamPolicy.decoder : Decoder SpamPolicy :=
  let d : SpamPolicy := {}
  record "struct SpamConfig"
    (SpamPolicy.mk <$> defaulted "default" SpamProfile.decoder d.standard <*>
      defaulted "vip" SpamProfile.decoder d.vip)

/-- The settings of the stores. -/
def StoreSettings.decoder : Decoder StoreSettings :=
  let d : StoreSettings := {}
  record "struct StoreConfig"
    (StoreSettings.mk <$> defaulted "shards" .count d.shards <*>
      defaulted "reclaim_interval_ms" .word d.reclaimInterval)

/-- The settings of the pipeline. -/
def PipelineSettings.decoder : Decoder PipelineSettings :=
  let d : PipelineSettings := {}
  record "struct PipelineConfig"
    (PipelineSettings.mk <$> defaulted "queue_capacity" .count d.queueCapacity <*>
      defaulted "workers" .count d.workers <*> defaulted "reconnect_backoff_ms" .word d.reconnectBackoff <*>
      defaulted "first_message_timeout_ms" .word d.firstMessageTimeout)

/-- A configuration. -/
def Config.decoder : Decoder Config :=
  let d : Config := {}
  record "struct ModerationConfig"
    (Config.mk <$> defaulted "enabled" .flag d.enabled <*> defaulted "mode" (.choice Mode.named) d.mode <*>
      defaulted "whitelist" .texts d.whitelist <*> defaulted "banned_words" .texts d.bannedWords <*>
      defaulted "advertising" AdvertisingPolicy.decoder d.advertising <*>
      defaulted "word_length" WordLengthPolicy.decoder d.wordLength <*>
      defaulted "moderation_rules" (.list RuleEntry.decoder) d.rules <*>
      defaulted "moderation_groups" (.list GroupEntry.decoder) d.groups <*>
      defaulted "spam" SpamPolicy.decoder d.spam <*> defaulted "emotes" .texts d.emotes <*>
      defaulted "store" StoreSettings.decoder d.store <*> defaulted "pipeline" PipelineSettings.decoder d.pipeline)

/-! ### Written forms -/

/-- A natural number as a JSON value. -/
def Json.ofNat (n : Nat) : Json := .number (.integer n)

/-- Texts as a JSON value. -/
def Json.ofTexts (texts : List String) : Json := .array (texts.map .string)

/-- A punishment as a JSON value. -/
def Punishment.toJson (p : Punishment) : Json :=
  .ofMembers [("action", .string p.action.name), ("duration", .ofNat p.seconds)]

/-- The tiers of a policy as a JSON value. -/
def Punishment.tiersToJson (tiers : List Punishment) : Json := .array (tiers.map toJson)

/-- The fields of the options of a rule. -/
def RuleOptions.members (o : RuleOptions) : List (String × Json) :=
  [("exempt_vip", .bool o.exemptVip), ("exempt_subscriber", .bool o.exemptSubscriber),
    ("first_message_only", .bool o.firstMessageOnly), ("exact", .bool o.exact), ("one_word", .bool o.oneWord),
    ("substring", .bool o.substring), ("case_sensitive", .bool o.caseSensitive)]

/-- The field for a pattern, if there is one. -/
def Json.patternMember (pattern : Option String) : List (String × Json) :=
  match pattern with
  | none => []
  | some p => [("pattern", .string p)]

/-- A rule as a JSON value. -/
def RuleEntry.toJson (r : RuleEntry) : Json :=
  .ofMembers
    ([("name", .string r.name), ("words", .ofTexts r.words), ("punishments", Punishment.tiersToJson r.punishments),
      ("reset_secs", .ofNat r.resetSeconds)] ++ Json.patternMember r.pattern ++ r.options.members)

/-- A group as a JSON value. -/
def GroupEntry.toJson (g : GroupEntry) : Json :=
  .ofMembers
    ([("name", .string g.name), ("words", .ofTexts g.words), ("patterns", .ofTexts g.patterns),
      ("punishments", Punishment.tiersToJson g.punishments), ("reset_secs", .ofNat g.resetSeconds)] ++
      g.options.members)

/-- An exception as a JSON value. -/
def ExceptionEntry.toJson (e : ExceptionEntry) : Json :=
  .ofMembers
    ([("name", .string e.name), ("words", .ofTexts e.words), ("message_limit", .ofNat e.messageLimit),
      ("punishments", Punishment.tiersToJson e.punishments), ("reset_secs", .ofNat e.resetSeconds)] ++
      Json.patternMember e.pattern ++ e.options.members)

/-- The policy on emotes as a JSON value. -/
def EmotePolicy.toJson (p : EmotePolicy) : Json :=
  .ofMembers
    [("enabled", .bool p.enabled), ("max_emotes", .ofNat p.maxEmotes), ("message_limit", .ofNat p.messageLimit),
      ("punishments", Punishment.tiersToJson p.punishments), ("reset_secs", .ofNat p.resetSeconds),
      ("exceptions", .array (p.exceptions.map ExceptionEntry.toJson))]

/-- The policy for one class of chatters as a JSON value. -/
def SpamProfile.toJson (p : SpamProfile) : Json :=
  .ofMembers
    [("enabled", .bool p.enabled), ("similarity_threshold", .number (.float p.similarityThreshold)),
      ("message_limit", .ofNat p.messageLimit), ("min_gap", .ofNat p.minGap),
      ("history_secs", .ofNat p.historySeconds), ("punishments", Punishment.tiersToJson p.punishments),
      ("reset_secs", .ofNat p.resetSeconds), ("emote", p.emote.toJson),
      ("exceptions", .array (p.exceptions.map ExceptionEntry.toJson))]

/-- A configuration as a JSON value. -/
def Config.toJson (c : Config) : Json :=
  .ofMembers
    [("enabled", .bool c.enabled), ("mode", .string c.mode.name), ("whitelist", .ofTexts c.whitelist),
      ("banned_words", .ofTexts c.bannedWords),
      ("advertising", .ofMembers
        [("enabled", .bool c.advertising.enabled), ("promo_phrases", .ofTexts c.advertising.promoPhrases)]),
      ("word_length", .ofMembers
        [("enabled", .bool c.wordLength.enabled), ("max_length", .ofNat c.wordLength.maxLength),
          ("punishment", c.wordLength.punishment.toJson)]),
      ("moderation_rules", .array (c.rules.map RuleEntry.toJson)),
      ("moderation_groups", .array (c.groups.map GroupEntry.toJson)),
      ("spam", .ofMembers [("default", c.spam.standard.toJson), ("vip", c.spam.vip.toJson)]),
      ("emotes", .ofTexts c.emotes),
      ("store", .ofMembers
        [("shards", .ofNat c.store.shards), ("reclaim_interval_ms", .ofNat c.store.reclaimInterval)]),
      ("pipeline", .ofMembers
        [("queue_capacity", .ofNat c.pipeline.queueCapacity), ("workers", .ofNat c.pipeline.workers),
          ("reconnect_backoff_ms", .ofNat c.pipeline.reconnectBackoff),
          ("first_message_timeout_ms", .ofNat c.pipeline.firstMessageTimeout)])]

end ChatModeration
