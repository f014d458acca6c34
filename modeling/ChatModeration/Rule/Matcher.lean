import ChatModeration.Config.Error
import ChatModeration.Message
import ChatModeration.Pattern.Reader
import ChatModeration.Rule.Options
import ChatModeration.Text.Phrase
import ChatModeration.Text.Pieces

/-!
# Matchers

A matcher decides whether the text of a message is what a rule looks for.  It has literal words, stored in the form in
which they are compared, or a pattern.  A pattern that cannot be read makes a matcher that never matches.
-/

namespace ChatModeration

open Pattern (Expr Flags)

/-- One way of matching the text of a message. -/
inductive Matcher where
  | literal (words : List String)
  | pattern (source : String) (expr : Expr)
  | invalid (source : String) (fault : PatternFault)
deriving DecidableEq, Repr

namespace Matcher

/-- The form in which a configured word is compared. -/
def comparedWord (options : RuleOptions) (word : String) : String :=
  if options.caseSensitive then Text.trim word else Text.normalize word

/-- The matcher of some words; words of which nothing is left are left out. -/
def ofWords (words : List String) (options : RuleOptions) : Matcher :=
  literal ((words.map (comparedWord options)).filter (!·.isEmpty))

/-- The expression and the flags of a pattern: all of it, or what stands between `~/` and the last slash and after. -/
def splitSource (source : String) : Option (List Char × List Char) :=
  match source.toList with
  | '~' :: '/' :: content => Text.splitAtLast '/' content
  | cs => some (cs, [])

/-- Sets the flag that a letter stands for. -/
def addFlag (flags : Flags) : Char → Except PatternFault Flags
  | 'i' => .ok { flags with ignoreCase := true }
  | 'm' => .ok { flags with multiLine := true }
  | 's' => .ok { flags with dotAll := true }
  | 'x' => .ok { flags with verbose := true }
  | c => .error (.unknownFlag c)

/-- The matcher of a pattern in either of its forms. -/
def compile (source : String) (options : RuleOptions) : Except PatternFault Matcher :=
  match splitSource source with
  | none => .error .unterminated
  | some (body, letters) => do
    let flags ← letters.foldlM addFlag { ignoreCase := !options.caseSensitive }
    match Expr.read? flags (String.ofList body) with
    | some e => .ok (pattern (String.ofList body) e)
    | none => .error .rejected

/-- The matcher of a pattern, which never matches if the pattern cannot be used. -/
def ofPattern (source : String) (options : RuleOptions) : Matcher :=
  match compile source options with
  | .ok m => m
  | .error fault => invalid source fault

/-- The problem that a matcher has. -/
def error? : Matcher → Option ConfigError
  | invalid source fault => some (.invalidPattern source fault)
  | _ => none

/-- Whether the matcher can match at all. -/
def isValid (m : Matcher) : Bool := m.error?.isNone

/-- The text that a matcher looks at. -/
def comparedText (options : RuleOptions) (message : ChatMessage) : String :=
  if options.caseSensitive then Text.trim message.text else message.normalized

/-- The tokens that a matcher looks at. -/
def comparedTokens (options : RuleOptions) (message : ChatMessage) : List String :=
  if options.caseSensitive then message.rawTokens else message.tokens

/-- Whether a word is found in a text with the given tokens. -/
def wordMatches (options : RuleOptions) (text : String) (tokens : List String) (word : String) : Bool :=
  if options.exact then text == word
  else if options.substring then Text.occursIn word text
  else if word.toList.any Text.isBlank then Text.phraseOccursIn word (" ".intercalate tokens)
  else tokens.contains word

/-- Whether a message is matched under the options of a rule. -/
def isMatch (m : Matcher) (options : RuleOptions) (message : ChatMessage) : Bool :=
  let text := comparedText options message
  let tokens := comparedTokens options message
  if options.oneWord && tokens.length != 1 then false
  else
    match m with
    | literal words => words.any (wordMatches options text tokens)
    | pattern _ e => if options.exact then Pattern.isWholeMatch e text else Pattern.isMatch e text
    | invalid _ _ => false

end Matcher

end ChatModeration
