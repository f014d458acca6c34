import ChatModeration.Feed.Frame
import ChatModeration.Message

/-!
# Events of the feed

What a frame of the event feed reports (`FeedEvent`) and how it is decoded (`FeedEvent.decode`).  Kinds of frames and
of notifications that are not known are events too.
-/

namespace ChatModeration.Feed

open Json (Decoder Fields)
open Json.Fields (required defaulted optional record)

/-- An event of the feed. -/
inductive FeedEvent where
  | sessionWelcome (sessionId : String)
  | keepalive
  | reconnect (url : Option String)
  | revocation (subscriptionType status : String)
  | chatMessage (message : ChatMessage)
  | automodHold (message : ChatMessage)
  | streamOnline
  | streamOffline
  | channelUpdate (title category : String)
  | moderatorAction (action moderator : String)
  | unknown (messageType : String)
deriving DecidableEq, Repr

/-! ### Payloads -/

/-- The session that a frame is about: its name and the address to reconnect to. -/
def session : Decoder (String × Option String) :=
  record "struct Session" (Prod.mk <$> required "id" .text <*> optional "reconnect_url" .text)

/-- The payload of a frame about a session. -/
def sessionPayload : Decoder (String × Option String) :=
  record "struct SessionPayload" (id <$> required "session" session)

/-- A subscription: its kind and its status. -/
def subscription : Decoder (String × String) :=
  record "struct Subscription" (Prod.mk <$> required "type" .text <*> defaulted "status" .text "")

/-- The payload of a notification: the subscription and the event. -/
def notificationPayload : Decoder ((String × String) × Json) :=
  record "struct NotificationPayload"
    (Prod.mk <$> required "subscription" subscription <*> defaulted "event" .any .null)

/-- A part of the text of a message. -/
structure Fragment where
  kind : String
  text : String

/-- A part of a text. -/
def fragment : Decoder Fragment :=
  record "struct Fragment" (Fragment.mk <$> required "type" .text <*> defaulted "text" .text "")

/-- The text of a message and its parts. -/
structure Body where
  text : String
  fragments : List Fragment

/-- The text of a message. -/
def body : Decoder Body :=
  record "struct MessageBody" (Body.mk <$> required "text" .text <*> defaulted "fragments" (.list fragment) [])

/-- A badge, of which only the name of its set counts. -/
def badge : Decoder String := record "struct Badge" (id <$> required "set_id" .text)

/-- The message that a message replies to. -/
def reply : Decoder ReplyParent :=
  record "struct ReplyEvent"
    (ReplyParent.mk <$> required "parent_message_id" .text <*> required "parent_user_id" .text <*>
      required "parent_user_login" .text)

/-- Whether the part is an emote. -/
def Fragment.isEmote (f : Fragment) : Bool := f.kind == "emote"

/-- The number of emotes of a text, and whether there is one and nothing else but blanks. -/
def emotes (fragments : List Fragment) : Nat × Bool :=
  let count := (fragments.filter Fragment.isEmote).length
  let others := fragments.filter fun f => !f.isEmote && !(Text.trim f.text).isEmpty
  (count, 0 < count && others.isEmpty)

/-- The name to display, which is the login if there is no other. -/
def displayName (name login : String) : String := if name.isEmpty then login else name

/-- The message with the display name and the emotes that its event tells. -/
def describe (m : ChatMessage) (name : String) (fragments : List Fragment) : ChatMessage :=
  let (count, only) := emotes fragments
  (m.withDisplayName (displayName name m.userLogin)).withEmotes count only

/-- A chat message. -/
def chatMessage : Decoder ChatMessage :=
  record "struct ChatMessageEvent"
    (make <$> required "message_id" .text <*> required "chatter_user_id" .text <*>
      required "chatter_user_login" .text <*> defaulted "chatter_user_name" .text "" <*>
      required "message" body <*> defaulted "badges" (.list badge) [] <*> optional "reply" reply)
where
  /-- The message that the fields describe. -/
  make (id userId login name : String) (text : Body) (badges : List String) (parent : Option ReplyParent) :
      ChatMessage :=
    ((describe (.ofText id userId login text.text) name text.fragments).withRoles
      (Roles.ofBadges badges)).withReplyParent parent

/-- A message that is held back. -/
def heldMessage : Decoder ChatMessage :=
  record "struct AutomodHoldEvent"
    (make <$> required "message_id" .text <*> required "user_id" .text <*> required "user_login" .text <*>
      defaulted "user_name" .text "" <*> required "message" body)
where
  /-- The message that the fields describe. -/
  make (id userId login name : String) (text : Body) : ChatMessage :=
    (describe (.ofText id userId login text.text) name text.fragments).held

/-- The title and the category of the stream. -/
def channelUpdate : Decoder (String × String) :=
  record "struct ChannelUpdateEvent"
    (Prod.mk <$> defaulted "title" .text "" <*> defaulted "category_name" .text "")

/-- An action and the moderator who took it. -/
def moderatorAction : Decoder (String × String) :=
  record "struct ModerateEvent"
    (Prod.mk <$> defaulted "action" .text "" <*> defaulted "moderator_user_login" .text "")

/-! ### Events -/

namespace FeedEvent

/-- Decodes a part of a frame. -/
def part {α : Type} (decoder : Decoder α) (v : Json) : Except DecodeError α := (decoder.decode v).mapError .shape

/-- The event of a notification for a subscription of the given kind. -/
def ofNotification (kind : String) (event : Json) : Except DecodeError FeedEvent :=
  match event with
  | .null => .error (.missing "payload.event")
  | _ =>
    match kind with
    | "channel.chat.message" => (part Feed.chatMessage event).map .chatMessage
    | "automod.message.hold" => (part heldMessage event).map .automodHold
    | "stream.online" => .ok .streamOnline
    | "stream.offline" => .ok .streamOffline
    | "channel.update" => (part Feed.channelUpdate event).map fun (title, category) => .channelUpdate title category
    | "channel.moderate" =>
      (part Feed.moderatorAction event).map fun (action, moderator) => .moderatorAction action moderator
    | _ => .ok (.unknown ("notification:" ++ kind))

/-- The event that a frame reports. -/
def ofFrame (frame : Frame) : Except DecodeError FeedEvent :=
  match frame.messageType with
  | "session_welcome" => (part sessionPayload frame.payload).map fun (id, _) => .sessionWelcome id
  | "session_keepalive" => .ok .keepalive
  | "session_reconnect" => (part sessionPayload frame.payload).map fun (_, url) => .reconnect url
  | "revocation" =>
    (part notificationPayload frame.payload).map fun ((kind, status), _) => .revocation kind status
  | "notification" => do
    let ((kind, _), event) ← part notificationPayload frame.payload
    ofNotification (frame.subscriptionType.getD kind) event
  | other => .ok (.unknown other)

/-- The event that the text of a frame reports. -/
def decode (text : String) : Except DecodeError FeedEvent := do ofFrame (← Frame.read text)

end FeedEvent

end ChatModeration.Feed
