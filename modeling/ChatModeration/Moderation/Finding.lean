import ChatModeration.Advertising
import ChatModeration.Config.Snapshot
import ChatModeration.Emotes
import ChatModeration.Fingerprint

/-!
# Findings

What is found about a message without a look at anyone's record (`find`): whom moderation passes by, what is banned,
which rule applies, and what the spam policies have to look at.  Whether a message is the first one of its sender is
asked of an oracle, which may not know; the questions are part of the result, in the order in which they are asked.
-/

namespace ChatModeration.Moderation

/-- What is known besides the message. -/
structure Surroundings where
  snapshot : Snapshot
  /-- The login of the channel in lowercase. -/
  channel : String
  live : Bool
  /-- The emotes of the platform. -/
  isPlatformEmote : String → Bool
  /-- The answers of the oracle to the questions about a message, numbered from zero; none means unknown. -/
  oracle : String → Nat → Option Bool

/-- A question to the oracle: whether a message is a first one, with the time in milliseconds to wait for the answer. -/
structure Question where
  messageId : String
  timeout : Nat
deriving DecidableEq, Repr

/-- Why moderation passes a message by. -/
inductive Bypass where
  | disabled | privileged | offline | whitelisted
deriving DecidableEq, Repr

/-- What the spam policies look at. -/
structure SpamCase where
  profile : CompiledProfile
  /-- Whether the message is treated as one of emotes. -/
  emoteOnly : Bool
  emoteCount : Nat
  /-- The exception that applies, if there is one. -/
  exception : Option SpamException
  fingerprint : Fingerprint String
deriving DecidableEq, Repr

/-- What is found about a message. -/
inductive Finding where
  | bypassed (reason : Bypass)
  | bannedWord (word : String)
  | advertising (channel : String)
  /-- The rule at this position of the list applies. -/
  | ruleBroken (position : Nat) (rule : Rule)
  | wordTooLong (punishment : Punishment)
  /-- The message reaches the spam policies, but the one for its sender is switched off. -/
  | unwatched
  | watched (spam : SpamCase)
deriving DecidableEq, Repr

/-- Why moderation passes a message by, if it does. -/
def bypass? (w : Surroundings) (m : ChatMessage) : Option Bypass :=
  if !w.snapshot.config.enabled then some .disabled
  else if m.roles.isPrivileged then some .privileged
  else if w.snapshot.config.mode == .onlineOnly && !w.live then some .offline
  else if w.snapshot.whitelist.contains (Text.lowercase m.userLogin) then some .whitelisted
  else none

/-- The channel that a message advertises, where that is looked at. -/
def advertised? (w : Surroundings) (m : ChatMessage) : Option String :=
  if w.snapshot.config.advertising.enabled then Advertising.advertised? m w.channel w.snapshot.promoPhrases
  else none

/-- The question that a rule for first messages asks about a message. -/
def question (w : Surroundings) (m : ChatMessage) : Question :=
  ⟨m.id, w.snapshot.config.pipeline.firstMessageTimeout⟩

/--
Whether a rule applies to a message, after some questions were asked, and the questions that it asks itself.  The
oracle is asked last, and only by a rule for first messages; no answer counts as no.
-/
def applies (w : Surroundings) (m : ChatMessage) (rule : Rule) (asked : Nat) : Bool × List Question :=
  if rule.options.exempts m.roles then (false, [])
  else if (rule.firstMatch? m).isNone then (false, [])
  else if rule.options.firstMessageOnly then (w.oracle m.id asked == some true, [question w m])
  else (true, [])

/-- The first element with a property whose test may ask questions, with its position, and all questions asked. -/
def firstWith {α : Type} (test : α → Nat → Bool × List Question) (position : Nat) (questions : List Question) :
    List α → Option (Nat × α) × List Question
  | [] => (none, questions)
  | a :: rest =>
    let (holds, own) := test a questions.length
    if holds then (some (position, a), questions ++ own)
    else firstWith test (position + 1) (questions ++ own) rest

/-- The first rule that applies and has a punishment, and the questions asked. -/
def brokenRule (w : Surroundings) (m : ChatMessage) : Option (Nat × Rule) × List Question :=
  firstWith
    (fun rule asked =>
      let (holds, questions) := applies w m rule asked
      (holds && !rule.punishments.isEmpty, questions))
    0 [] w.snapshot.rules

/-- The punishment for a word that is too long. -/
def longWord? (w : Surroundings) (m : ChatMessage) : Option Punishment :=
  let policy := w.snapshot.config.wordLength
  if policy.enabled && policy.maxLength != 0 && m.tokens.any (fun t => policy.maxLength ≤ t.length) then
    some policy.punishment
  else none

/-- The policy for the sender of a message. -/
def profileFor (w : Surroundings) (m : ChatMessage) : CompiledProfile :=
  if m.roles.vip then w.snapshot.vipProfile else w.snapshot.standardProfile

/-- Whether a token is an emote of the configuration or of the platform. -/
def isEmote (w : Surroundings) (token : String) : Bool := w.snapshot.isEmote token || w.isPlatformEmote token

/-- What the spam policies look at, after some questions were asked, and all questions asked. -/
def spamCase (w : Surroundings) (m : ChatMessage) (questions : List Question) : SpamCase × List Question :=
  let profile := profileFor w m
  let (emoteTokens, allEmotes) := emoteStats (isEmote w) m.rawTokens
  let emoteOnly := profile.settings.emote.enabled && (m.emoteOnly || allEmotes)
  let exceptions := if emoteOnly then profile.emoteExceptions else profile.exceptions
  let (exception, questions) := firstWith (fun e asked => applies w m e.rule asked) 0 questions exceptions
  ({ profile, emoteOnly, emoteCount := max m.emoteCount emoteTokens, exception := exception.map (·.2),
     fingerprint := .ofTokens m.tokens }, questions)

/-- What is found about a message, and the questions asked. -/
def find (w : Surroundings) (m : ChatMessage) : Finding × List Question :=
  match bypass? w m with
  | some reason => (.bypassed reason, [])
  | none =>
    match w.snapshot.banned? m.tokens m.normalized with
    | some word => (.bannedWord word, [])
    | none =>
      match advertised? w m with
      | some channel => (.advertising channel, [])
      | none =>
        match brokenRule w m with
        | (some (position, rule), questions) => (.ruleBroken position rule, questions)
        | (none, questions) =>
          match longWord? w m with
          | some p => (.wordTooLong p, questions)
          | none =>
            if (profileFor w m).settings.enabled then
              let (spam, questions) := spamCase w m questions
              (.watched spam, questions)
            else (.unwatched, questions)

end ChatModeration.Moderation
