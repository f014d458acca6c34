import ChatModeration.Text.Blank
import ChatModeration.Text.Normalize

/-!
# Chat messages

A message of a chatter with the forms of its text that rules look at.  A message is made from its text by
`ChatMessage.ofText`, which derives the normalized text and its tokens; the functions that follow fill in what the
platform says besides.
-/

namespace ChatModeration

/-- The roles of a chatter in the channel. -/
structure Roles where
  broadcaster : Bool := false
  moderator : Bool := false
  vip : Bool := false
  subscriber : Bool := false
deriving DecidableEq, Repr

namespace Roles

/-- Adds the role that a badge shows; founders are subscribers, and other badges show no role. -/
def addBadge (roles : Roles) : String → Roles
  | "broadcaster" => { roles with broadcaster := true }
  | "moderator" => { roles with moderator := true }
  | "vip" => { roles with vip := true }
  | "subscriber" | "founder" => { roles with subscriber := true }
  | _ => roles

/-- The roles that some badges show. -/
def ofBadges (badges : List String) : Roles := badges.foldl addBadge {}

/-- The broadcaster and moderators are never moderated. -/
def isPrivileged (roles : Roles) : Bool := roles.broadcaster || roles.moderator

end Roles

/-- The message that a message replies to. -/
structure ReplyParent where
  messageId : String
  userId : String
  userLogin : String
deriving DecidableEq, Repr

/-- A chat message. -/
structure ChatMessage where
  id : String
  userId : String
  userLogin : String
  displayName : String
  roles : Roles
  /-- The text as it was sent. -/
  text : String
  normalized : String
  /-- The words of the normalized text. -/
  tokens : List String
  /-- Whether every part of the message is an emote, as the platform says. -/
  emoteOnly : Bool
  /-- The number of emotes that the platform reports. -/
  emoteCount : Nat
  replyParent : Option ReplyParent
  /-- Whether the message is held back and not visible in the chat. -/
  heldByAutomod : Bool
deriving DecidableEq, Repr

namespace ChatMessage

/-- The message of a user with the given text. -/
def ofText (id userId userLogin text : String) : ChatMessage :=
  let normalized := Text.normalize text
  { id, userId, userLogin, displayName := userLogin, roles := {}, text, normalized,
    tokens := Text.words normalized, emoteOnly := false, emoteCount := 0, replyParent := none,
    heldByAutomod := false }

/-- The message under another display name. -/
def withDisplayName (m : ChatMessage) (name : String) : ChatMessage := { m with displayName := name }

/-- The message of a chatter with the given roles. -/
def withRoles (m : ChatMessage) (roles : Roles) : ChatMessage := { m with roles }

/-- The message with what the platform says about its emotes. -/
def withEmotes (m : ChatMessage) (count : Nat) (only : Bool) : ChatMessage :=
  { m with emoteCount := count, emoteOnly := only }

/-- The message as a reply. -/
def withReplyParent (m : ChatMessage) (parent : Option ReplyParent) : ChatMessage := { m with replyParent := parent }

/-- The message held back. -/
def held (m : ChatMessage) : ChatMessage := { m with heldByAutomod := true }

/-- The words of the text as it was sent. -/
def rawTokens (m : ChatMessage) : List String := Text.words m.text

end ChatMessage

end ChatModeration
