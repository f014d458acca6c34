import ChatModeration.Config.Basic
import ChatModeration.Rule.Basic
import ChatModeration.Text.Case

/-!
# Snapshots

A snapshot is a configuration made ready for use (`Snapshot.build`): words in the form in which they are compared,
patterns read, and rules and groups in one list.  A pattern that cannot be used never matches; its problem is noted when
it is read.  What comes of this is the snapshot (`Snapshot.compile`) and the list of problems (`Snapshot.errors`).
-/

namespace ChatModeration

/-- The policy for one class of chatters with its exceptions made ready. -/
structure CompiledProfile where
  settings : SpamProfile
  exceptions : List SpamException
  emoteExceptions : List SpamException
deriving DecidableEq, Repr

/-- A configuration made ready for use. -/
structure Snapshot where
  config : Config
  /-- Lowercase logins of users that are never moderated. -/
  whitelist : List String
  /-- Banned words of one token. -/
  bannedTokens : List String
  /-- Banned phrases of several tokens. -/
  bannedPhrases : List String
  promoPhrases : List String
  /-- The rules and then the groups. -/
  rules : List Rule
  standardProfile : CompiledProfile
  vipProfile : CompiledProfile
deriving DecidableEq, Repr

/-- The time in milliseconds after which a violation no longer counts. -/
def resetWindow (seconds : Nat) : Nat := seconds * 1000

/-- Making something ready: the problems of its patterns are noted behind those that have been found before. -/
abbrev Compiling := StateM (List ConfigError)

namespace Matcher

/-- Makes the matcher of a pattern. -/
def build (source : String) (options : RuleOptions) : Compiling Matcher := do
  let m := ofPattern source options
  if let some problem := m.error? then
    modify (· ++ [problem])
  return m

/-- Makes the matcher of a rule: of its pattern if it has one, of its words otherwise. -/
def buildEntry (pattern : Option String) (words : List String) (options : RuleOptions) : Compiling Matcher :=
  match pattern with
  | some source => build source options
  | none => return ofWords words options

/-- The matcher of a rule. -/
def ofEntry (pattern : Option String) (words : List String) (options : RuleOptions) : Matcher :=
  ((buildEntry pattern words options).run []).1

end Matcher

/-- Makes a rule ready. -/
def RuleEntry.build (r : RuleEntry) : Compiling Rule := do
  let matcher ← Matcher.buildEntry r.pattern r.words r.options
  return {
    name := r.name
    options := r.options
    matchers := [matcher]
    punishments := r.punishments
    resetWindow := resetWindow r.resetSeconds }

/-- A rule made ready. -/
def RuleEntry.compile (r : RuleEntry) : Rule := (r.build.run []).1

/-- Makes a group ready: a matcher for each word and then one for each pattern. -/
def GroupEntry.build (g : GroupEntry) : Compiling Rule := do
  let words := g.words.map fun word => Matcher.ofWords [word] g.options
  let patterns ← g.patterns.mapM (Matcher.build · g.options)
  return {
    name := g.name
    options := g.options
    matchers := words ++ patterns
    punishments := g.punishments
    resetWindow := resetWindow g.resetSeconds }

/-- A group made ready. -/
def GroupEntry.compile (g : GroupEntry) : Rule := (g.build.run []).1

/-- Makes an exception ready. -/
def ExceptionEntry.build (e : ExceptionEntry) : Compiling SpamException := do
  let matcher ← Matcher.buildEntry e.pattern e.words e.options
  return {
    rule :=
      { name := e.name
        options := e.options
        matchers := [matcher]
        punishments := e.punishments
        resetWindow := resetWindow e.resetSeconds }
    messageLimit := e.messageLimit }

/-- An exception made ready. -/
def ExceptionEntry.compile (e : ExceptionEntry) : SpamException := (e.build.run []).1

namespace SpamProfile

/-- Makes a policy ready. -/
def build (p : SpamProfile) : Compiling CompiledProfile := do
  let exceptions ← p.exceptions.mapM ExceptionEntry.build
  let emoteExceptions ← p.emote.exceptions.mapM ExceptionEntry.build
  return { settings := p, exceptions, emoteExceptions }

/-- A policy made ready. -/
def compile (p : SpamProfile) : CompiledProfile := (p.build.run []).1

/-- The time in milliseconds for which a message stays in the history of its sender. -/
def historyLife (p : SpamProfile) : Nat := p.historySeconds * 1000

end SpamProfile

namespace Snapshot

/-- The normalized forms of some words, without those of which nothing is left. -/
def normalizedPhrases (words : List String) : List String := (words.map Text.normalize).filter (!·.isEmpty)

/-- Whether a normalized text has several tokens. -/
def isPhrase (s : String) : Bool := s.toList.contains ' '

/-- Makes a configuration ready for use. -/
def build (c : Config) : Compiling Snapshot := do
  let banned := normalizedPhrases c.bannedWords
  let rules ← c.rules.mapM RuleEntry.build
  let groups ← c.groups.mapM GroupEntry.build
  let standardProfile ← c.spam.standard.build
  let vipProfile ← c.spam.vip.build
  return {
    config := c
    whitelist := (c.whitelist.map fun login => Text.lowercase (Text.trim login)).filter (!·.isEmpty)
    bannedTokens := banned.filter (!isPhrase ·)
    bannedPhrases := banned.filter isPhrase
    promoPhrases := normalizedPhrases c.advertising.promoPhrases
    rules := rules ++ groups
    standardProfile
    vipProfile }

/-- A configuration made ready for use. -/
def compile (c : Config) : Snapshot := ((build c).run []).1

/-- The problems that are found when a configuration is made ready for use. -/
def errors (c : Config) : List ConfigError := ((build c).run []).2

/-- The snapshot of the configuration in which nothing is said. -/
def standard : Snapshot := compile .standard

/-- Whether a token is a configured emote. -/
def isEmote (s : Snapshot) (token : String) : Bool := s.config.emotes.contains token

/-- The banned word or phrase in a normalized text with the given tokens. -/
def banned? (s : Snapshot) (tokens : List String) (normalized : String) : Option String :=
  match tokens.find? s.bannedTokens.contains with
  | some token => some token
  | none => s.bannedPhrases.find? fun phrase => Text.phraseOccursIn phrase normalized

end Snapshot

end ChatModeration
