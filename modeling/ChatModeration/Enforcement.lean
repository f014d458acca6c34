import ChatModeration.Message
import ChatModeration.Verdict

/-!
# Enforcement

What is done to carry a verdict out (`enforce`), and what is logged about it.  A message that is held back has not
reached the chat, so there is nothing to delete.
-/

namespace ChatModeration

/-- A call to the platform. -/
inductive Action where
  | ban (userId reason : String)
  | timeout (userId : String) (seconds : Nat) (reason : String)
  | deleteMessage (messageId : String)
deriving DecidableEq, Repr

/-- What is logged of an action that is only pretended. -/
def Action.pretended : Action → String
  | ban user reason => "[dry-run] Would ban " ++ user ++ ": " ++ reason
  | timeout user seconds reason =>
    "[dry-run] Would time out " ++ user ++ " for " ++ toString seconds ++ "s: " ++ reason
  | deleteMessage id => "[dry-run] Would delete message " ++ id

namespace Verdict

/-- The length of a timeout in whole seconds. -/
def seconds? (v : Verdict) : Option Nat := v.duration.map (· / 1000)

/-- The action that carries a verdict on a message out, if one is needed. -/
def enforce (v : Verdict) (m : ChatMessage) : Option Action :=
  match v.kind with
  | .none => Option.none
  | .delete => if m.heldByAutomod then Option.none else some (.deleteMessage m.id)
  | .timeout => some (.timeout m.userId (v.seconds?.getD 0) v.reason)
  | .ban => some (.ban m.userId v.reason)

/-- What is logged about a verdict on a message, if it does anything. -/
def logLine? (v : Verdict) (m : ChatMessage) : Option String :=
  if v.isNone then Option.none
  else
    let tail := match v.seconds? with
      | Option.none => ""
      | some n => " for " ++ toString n ++ "s"
    some (v.kind.name ++ " " ++ m.userLogin ++ " (" ++ m.userId ++ "): " ++ v.reason ++ tail)

end Verdict

end ChatModeration
