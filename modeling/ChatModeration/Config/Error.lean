import ChatModeration.Binary64.Shortest

/-!
# Problems of a configuration

What is wrong with a configuration, and the words for it.
-/

namespace ChatModeration

/-- Why a pattern cannot be used. -/
inductive PatternFault where
  /-- The form with flags lacks its closing slash. -/
  | unterminated
  | unknownFlag (flag : Char)
  /-- The expression itself cannot be read. -/
  | rejected
deriving DecidableEq, Repr

/-- The words for a fault of a pattern. -/
def PatternFault.reason : PatternFault → String
  | unterminated => "pattern must end with '/'"
  | unknownFlag flag => "unknown regex flag '" ++ String.ofList [flag] ++ "'"
  | rejected => "<regex>"

/-- A problem of a configuration. -/
inductive ConfigError where
  | invalidPattern (pattern : String) (fault : PatternFault)
  | invalidThreshold (field : String) (value : Binary64)
  | emptyPunishments (what : String)
  | missingName (what : String)
  | zeroValue (field : String)
  | emptyRule (name : String)
deriving DecidableEq, Repr

/-- The message of a problem. -/
def ConfigError.message : ConfigError → String
  | invalidPattern pattern fault => "invalid pattern '" ++ pattern ++ "': " ++ fault.reason
  | invalidThreshold field value => field ++ " must be between 0.0 and 1.0, got " ++ value.positional
  | emptyPunishments what => what ++ " must have at least one punishment"
  | missingName what => what ++ " must have a name"
  | zeroValue field => field ++ " must be greater than zero"
  | emptyRule name => "rule '" ++ name ++ "' has no words or patterns"

end ChatModeration
