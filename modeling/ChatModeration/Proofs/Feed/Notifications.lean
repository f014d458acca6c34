import ChatModeration.Feed.Event
import ChatModeration.Proofs.Feed.Frames
import ChatModeration.Proofs.Json.Scanning
import ChatModeration.Proofs.Text.Words

/-!
# Notifications read back

The forms of the frames that report chat messages and holds (`Reports`), and the message that each of them tells
(`Told.message`).  The frame may be written in any way: the members of its objects may stand in any order and among any
others, texts may be empty or missing where they have a default, and the kind of the subscription may be told by the
frame or by its payload.  Every such frame is decoded to what it reports (`decode_of_reports`).
-/

namespace ChatModeration.Feed

open Json (Outline IsObject IsText IsList Required Defaulted Perhaps objectOf)

/-! ### Payloads -/

/-- The subscription that a notification is for. -/
def IsSubscription (kind : String) (o : Outline) : Prop :=
  ∃ members status, IsObject members o ∧ Required IsText kind (members.lookup "type") ∧
    Defaulted IsText "" status (members.lookup "status")

/-- The payload of a notification for a subscription of the given kind. -/
def IsPayload (kind : String) (event o : Outline) : Prop :=
  ∃ members, IsObject members o ∧ Required IsSubscription kind (members.lookup "subscription") ∧
    members.lookup "event" = some event

/--
A frame that brings a notification about an event.  The kind of the subscription is the one that the frame tells, or
else that of the payload.  In the payload, numbers are in range and nothing is nested too deep.
-/
def IsNotification (kind : String) (event frame : Outline) : Prop :=
  ∃ told subscribed payload, IsFrame told payload frame ∧ IsPayload subscribed event payload ∧
    payload.Accepted (Json.depthLimit - 1) ∧ told.getD subscribed = kind

/-! ### Events -/

/-- A part of the text of a message. -/
def IsFragment (f : Fragment) (o : Outline) : Prop :=
  ∃ members, IsObject members o ∧ Required IsText f.kind (members.lookup "type") ∧
    Defaulted IsText "" f.text (members.lookup "text")

/-- The text of a message and its parts. -/
def IsBody (b : Body) (o : Outline) : Prop :=
  ∃ members, IsObject members o ∧ Required IsText b.text (members.lookup "text") ∧
    Defaulted (IsList IsFragment) [] b.fragments (members.lookup "fragments")

/-- A badge. -/
def IsBadge (id : String) (o : Outline) : Prop :=
  ∃ members, IsObject members o ∧ Required IsText id (members.lookup "set_id")

/-- The message that a message replies to. -/
def IsReply (parent : ReplyParent) (o : Outline) : Prop :=
  ∃ members, IsObject members o ∧ Required IsText parent.messageId (members.lookup "parent_message_id") ∧
    Required IsText parent.userId (members.lookup "parent_user_id") ∧
    Required IsText parent.userLogin (members.lookup "parent_user_login")

/-- What an event tells about a message. -/
structure Told where
  id : String
  userId : String
  login : String
  /-- The name to display, which is empty if it is not told. -/
  name : String
  text : String
  fragments : List Fragment
  badges : List String
  parent : Option ReplyParent

/-- An event about a chat message. -/
structure IsChatEvent (t : Told) (members : List (String × Outline)) : Prop where
  id : Required IsText t.id (members.lookup "message_id")
  userId : Required IsText t.userId (members.lookup "chatter_user_id")
  login : Required IsText t.login (members.lookup "chatter_user_login")
  name : Defaulted IsText "" t.name (members.lookup "chatter_user_name")
  message : Required IsBody ⟨t.text, t.fragments⟩ (members.lookup "message")
  badges : Defaulted (IsList IsBadge) [] t.badges (members.lookup "badges")
  reply : Perhaps IsReply t.parent (members.lookup "reply")

/-- An event about a message that is held back, which tells no badges and no reply. -/
structure IsHoldEvent (t : Told) (members : List (String × Outline)) : Prop where
  id : Required IsText t.id (members.lookup "message_id")
  userId : Required IsText t.userId (members.lookup "user_id")
  login : Required IsText t.login (members.lookup "user_login")
  name : Defaulted IsText "" t.name (members.lookup "user_name")
  message : Required IsBody ⟨t.text, t.fragments⟩ (members.lookup "message")
  badges : t.badges = []
  reply : t.parent = none

/-- The message that an event tells about, which is held back or not. -/
def Told.message (t : Told) (held : Bool) : ChatMessage where
  id := t.id
  userId := t.userId
  userLogin := t.login
  displayName := if t.name = "" then t.login else t.name
  roles :=
    { broadcaster := decide ("broadcaster" ∈ t.badges)
      moderator := decide ("moderator" ∈ t.badges)
      vip := decide ("vip" ∈ t.badges)
      subscriber := decide ("subscriber" ∈ t.badges ∨ "founder" ∈ t.badges) }
  text := t.text
  normalized := Text.normalize t.text
  tokens := Text.words (Text.normalize t.text)
  emoteOnly := t.fragments.any (·.kind == "emote") &&
    t.fragments.all fun f => f.kind == "emote" || f.text.toList.all Text.isBlank
  emoteCount := t.fragments.countP (·.kind == "emote")
  replyParent := t.parent
  heldByAutomod := held

/-- `Reports frame e`: the frame is a notification that reports the event. -/
inductive Reports (frame : Outline) : FeedEvent → Prop where
  | chat {event : Outline} {members : List (String × Outline)} {t : Told}
      (hframe : IsNotification "channel.chat.message" event frame) (hobject : IsObject members event)
      (hevent : IsChatEvent t members) : Reports frame (.chatMessage (t.message false))
  | hold {event : Outline} {members : List (String × Outline)} {t : Told}
      (hframe : IsNotification "automod.message.hold" event frame) (hobject : IsObject members event)
      (hevent : IsHoldEvent t members) : Reports frame (.automodHold (t.message true))

/-! ### Decoding -/

section Decoding

open Json.Fields (Reads decode_object reads_required reads_defaulted reads_perhaps)
open Json.Decoder (readsForm_text readsForm_list)

theorem readsForm_fragment : fragment.ReadsForm IsFragment := by
  rintro f o ⟨members, ho, hkind, htext⟩
  refine decode_object _ ho fun sorted hs => .seq (.map _ ?_) ?_
  · exact reads_required hs readsForm_text hkind
  · exact reads_defaulted hs readsForm_text htext

theorem readsForm_body : body.ReadsForm IsBody := by
  rintro b o ⟨members, ho, htext, hfragments⟩
  refine decode_object _ ho fun sorted hs => .seq (.map _ ?_) ?_
  · exact reads_required hs readsForm_text htext
  · exact reads_defaulted hs (readsForm_list readsForm_fragment) hfragments

theorem readsForm_badge : badge.ReadsForm IsBadge := by
  rintro id o ⟨members, ho, hid⟩
  exact decode_object _ ho fun sorted hs => .map _ (reads_required hs readsForm_text hid)

theorem readsForm_reply : reply.ReadsForm IsReply := by
  rintro parent o ⟨members, ho, hid, huser, hlogin⟩
  refine decode_object _ ho fun sorted hs => .seq (.seq (.map _ ?_) ?_) ?_
  · exact reads_required hs readsForm_text hid
  · exact reads_required hs readsForm_text huser
  · exact reads_required hs readsForm_text hlogin

theorem decode_chatMessage {t : Told} {members : List (String × Outline)} {o : Outline} (ho : IsObject members o)
    (h : IsChatEvent t members) :
    Feed.chatMessage.decode o.value =
      .ok (chatMessage.make t.id t.userId t.login t.name ⟨t.text, t.fragments⟩ t.badges t.parent) := by
  refine decode_object _ ho fun sorted hs => .seq (.seq (.seq (.seq (.seq (.seq (.map _ ?_) ?_) ?_) ?_) ?_) ?_) ?_
  · exact reads_required hs readsForm_text h.id
  · exact reads_required hs readsForm_text h.userId
  · exact reads_required hs readsForm_text h.login
  · exact reads_defaulted hs readsForm_text h.name
  · exact reads_required hs readsForm_body h.message
  · exact reads_defaulted hs (readsForm_list readsForm_badge) h.badges
  · refine reads_perhaps hs readsForm_reply ?_ h.reply
    rintro parent o ⟨members, ho, -⟩
    exact ho.value_ne_null

theorem decode_heldMessage {t : Told} {members : List (String × Outline)} {o : Outline} (ho : IsObject members o)
    (h : IsHoldEvent t members) :
    heldMessage.decode o.value = .ok (heldMessage.make t.id t.userId t.login t.name ⟨t.text, t.fragments⟩) := by
  refine decode_object _ ho fun sorted hs => .seq (.seq (.seq (.seq (.map _ ?_) ?_) ?_) ?_) ?_
  · exact reads_required hs readsForm_text h.id
  · exact reads_required hs readsForm_text h.userId
  · exact reads_required hs readsForm_text h.login
  · exact reads_defaulted hs readsForm_text h.name
  · exact reads_required hs readsForm_body h.message

theorem decode_subscription {kind : String} {o : Outline} (h : IsSubscription kind o) :
    ∃ status, subscription.decode o.value = .ok (kind, status) := by
  obtain ⟨members, status, ho, hkind, hstatus⟩ := h
  refine ⟨status, decode_object _ ho fun sorted hs => .seq (.map _ ?_) ?_⟩
  · exact reads_required hs readsForm_text hkind
  · exact reads_defaulted hs readsForm_text hstatus

theorem decode_notificationPayload {kind : String} {event o : Outline} (h : IsPayload kind event o) :
    ∃ status, notificationPayload.decode o.value = .ok ((kind, status), event.value) := by
  obtain ⟨members, ho, ⟨inner, hlookup, hsubscription⟩, hevent⟩ := h
  obtain ⟨status, hstatus⟩ := decode_subscription hsubscription
  refine ⟨status, decode_object _ ho fun sorted hs => .seq (.map _ ?_) ?_⟩
  · exact Json.Fields.reads_found ((hs _).trans (congrArg _ hlookup)) hstatus
  · exact Json.Fields.reads_found ((hs _).trans (congrArg _ hevent)) rfl

end Decoding

/-! ### Messages -/

theorem addBadge_eq (roles : Roles) (b : String) :
    roles.addBadge b =
      { broadcaster := roles.broadcaster || decide ("broadcaster" = b)
        moderator := roles.moderator || decide ("moderator" = b)
        vip := roles.vip || decide ("vip" = b)
        subscriber := roles.subscriber || decide ("subscriber" = b ∨ "founder" = b) } := by
  unfold Roles.addBadge
  split
  case h_6 h₁ h₂ h₃ h₄ h₅ => simp [Ne.symm h₁, Ne.symm h₂, Ne.symm h₃, Ne.symm h₄, Ne.symm h₅]
  all_goals simp

theorem foldl_addBadge (roles : Roles) (badges : List String) :
    badges.foldl Roles.addBadge roles =
      { broadcaster := roles.broadcaster || decide ("broadcaster" ∈ badges)
        moderator := roles.moderator || decide ("moderator" ∈ badges)
        vip := roles.vip || decide ("vip" ∈ badges)
        subscriber := roles.subscriber || decide ("subscriber" ∈ badges ∨ "founder" ∈ badges) } := by
  induction badges generalizing roles with
  | nil => simp
  | cons b badges ih =>
    rw [List.foldl_cons, ih, addBadge_eq]
    simp only [List.mem_cons, Bool.decide_or, Bool.or_assoc, Bool.or_left_comm]

theorem emotes_eq (fragments : List Fragment) :
    emotes fragments =
      (fragments.countP (·.kind == "emote"), fragments.any (·.kind == "emote") &&
        fragments.all fun f => f.kind == "emote" || f.text.toList.all Text.isBlank) := by
  have hcount : (fragments.filter Fragment.isEmote).length = fragments.countP (·.kind == "emote") :=
    List.countP_eq_length_filter.symm
  have hexists : decide (0 < fragments.countP (·.kind == "emote")) = fragments.any (·.kind == "emote") := by
    rw [Bool.eq_iff_iff, decide_eq_true_iff, List.countP_pos_iff, List.any_eq_true]
  have hblank : ∀ f : Fragment, (Text.trim f.text).isEmpty = f.text.toList.all Text.isBlank := by
    intro f
    rw [Bool.eq_iff_iff, String.isEmpty_iff, Text.trim_eq_empty_iff, List.all_eq_true]
  have hothers : (fragments.filter fun f => !f.isEmote && !(Text.trim f.text).isEmpty).isEmpty =
      fragments.all fun f => f.kind == "emote" || f.text.toList.all Text.isBlank := by
    rw [Bool.eq_iff_iff, List.isEmpty_iff, List.filter_eq_nil_iff, List.all_eq_true]
    refine forall₂_congr fun f _ => ?_
    rw [hblank, Fragment.isEmote]
    cases f.kind == "emote" <;> simp
  rw [emotes, hcount, hexists, hothers]

theorem displayName_eq (name login : String) : displayName name login = if name = "" then login else name := by
  simp [displayName, String.isEmpty_iff]

theorem describe_eq (m : ChatMessage) (name : String) (fragments : List Fragment) :
    describe m name fragments =
      { m with
        displayName := if name = "" then m.userLogin else name
        emoteCount := fragments.countP (·.kind == "emote")
        emoteOnly := fragments.any (·.kind == "emote") &&
          fragments.all fun f => f.kind == "emote" || f.text.toList.all Text.isBlank } := by
  rw [describe, emotes_eq, displayName_eq]
  rfl

theorem make_chatMessage (t : Told) :
    chatMessage.make t.id t.userId t.login t.name ⟨t.text, t.fragments⟩ t.badges t.parent = t.message false := by
  rw [chatMessage.make, describe_eq, Roles.ofBadges, foldl_addBadge, Told.message]
  simp only [ChatMessage.ofText, ChatMessage.withRoles, ChatMessage.withReplyParent, Bool.false_or]

theorem make_heldMessage {t : Told} (hbadges : t.badges = []) (hparent : t.parent = none) :
    heldMessage.make t.id t.userId t.login t.name ⟨t.text, t.fragments⟩ = t.message true := by
  rw [heldMessage.make, describe_eq, Told.message, hbadges, hparent]
  simp only [ChatMessage.ofText, ChatMessage.held, List.not_mem_nil, or_self, decide_false]

/-! ### Events of frames -/

/-- A frame that brings a notification is decoded by its kind and its event. -/
theorem decode_eq_ofNotification {text kind : String} {frame event : Outline} (ht : frame.Spells text)
    (h : IsNotification kind event frame) :
    FeedEvent.decode text = FeedEvent.ofNotification kind event.value := by
  obtain ⟨told, subscribed, payload, hframe, hpayload, haccepted, rfl⟩ := h
  obtain ⟨status, hdecode⟩ := decode_notificationPayload hpayload
  have hpart : FeedEvent.part notificationPayload payload.value = .ok ((subscribed, status), event.value) := by
    rw [FeedEvent.part, hdecode]
    rfl
  have hevent : FeedEvent.ofFrame ⟨"notification", told, payload.value⟩ =
      FeedEvent.part notificationPayload payload.value >>= fun x =>
        FeedEvent.ofNotification (told.getD x.1.1) x.2 := rfl
  rw [FeedEvent.decode, read_frame ht hframe haccepted]
  refine hevent.trans ?_
  rw [hpart]
  rfl

theorem ofNotification_chat {event : Json} {m : ChatMessage} (hne : event ≠ .null)
    (h : Feed.chatMessage.decode event = .ok m) :
    FeedEvent.ofNotification "channel.chat.message" event = .ok (.chatMessage m) := by
  cases event with
  | null => exact absurd rfl hne
  | _ =>
    rw [FeedEvent.ofNotification, FeedEvent.part, h]
    · rfl
    · exact hne

theorem ofNotification_hold {event : Json} {m : ChatMessage} (hne : event ≠ .null)
    (h : heldMessage.decode event = .ok m) :
    FeedEvent.ofNotification "automod.message.hold" event = .ok (.automodHold m) := by
  cases event with
  | null => exact absurd rfl hne
  | _ =>
    rw [FeedEvent.ofNotification, FeedEvent.part, h]
    · rfl
    · exact hne

/-- Every frame is decoded to what it reports, however it is written. -/
theorem decode_of_reports {text : String} {frame : Outline} {e : FeedEvent} (ht : frame.Spells text)
    (he : Reports frame e) : FeedEvent.decode text = .ok e := by
  cases he with
  | chat hframe hobject hevent =>
    rw [decode_eq_ofNotification ht hframe, ← make_chatMessage]
    exact ofNotification_chat hobject.value_ne_null (decode_chatMessage hobject hevent)
  | hold hframe hobject hevent =>
    rw [decode_eq_ofNotification ht hframe, ← make_heldMessage hevent.badges hevent.reply]
    exact ofNotification_hold hobject.value_ne_null (decode_heldMessage hobject hevent)

set_option maxRecDepth 2000 in
/-- The members stand in another order and among others, and a letter is escaped. -/
theorem decode_of_reports_reordered :
    let text := "\x7b\"payload\": \x7b
        \"event\": \x7b
          \"message\": \x7b
            \"fragments\": [\x7b\"text\": \"Hi \", \"type\": \"text\"\x7d, \x7b\"type\": \"emote\", \"id\": -25\x7d],
            \"text\": \"Hi \\u004bappa\"\x7d,
          \"badges\": [\x7b\"id\": \"1\", \"set_id\": \"founder\"\x7d], \"reply\": null,
          \"chatter_user_login\": \"ana\", \"chatter_user_id\": \"7\", \"message_id\": \"m1\"\x7d,
        \"subscription\": \x7b\"version\": \"1\", \"type\": \"channel.chat.message\"\x7d\x7d,
      \"more\": [true, []], \"metadata\": \x7b\"message_type\": \"notification\"\x7d\x7d"
    let t : Told :=
      { id := "m1", userId := "7", login := "ana", name := "", text := "Hi Kappa",
        fragments := [⟨"text", "Hi "⟩, ⟨"emote", ""⟩], badges := ["founder"], parent := none }
    ∃ frame : Outline, frame.Spells text ∧ Reports frame (.chatMessage (t.message false)) ∧
      FeedEvent.decode text = .ok (.chatMessage (t.message false)) := by
  intro text t
  let word (s : String) : Outline := .string (some s)
  let fragments : Outline := .array [objectOf [("text", word "Hi "), ("type", word "text")],
    objectOf [("type", word "emote"), ("id", .number (some (.integer (-25))))]] .closed
  let message : Outline := objectOf [("fragments", fragments), ("text", word "Hi Kappa")]
  let badges : Outline := .array [objectOf [("id", word "1"), ("set_id", word "founder")]] .closed
  let event : Outline := objectOf [("message", message), ("badges", badges), ("reply", .null),
    ("chatter_user_login", word "ana"), ("chatter_user_id", word "7"), ("message_id", word "m1")]
  let subscription : Outline := objectOf [("version", word "1"), ("type", word "channel.chat.message")]
  let payload : Outline := objectOf [("event", event), ("subscription", subscription)]
  let metadata : Outline := objectOf [("message_type", word "notification")]
  let frame : Outline := objectOf [("payload", payload), ("more", .array [.bool true, .array [] .closed] .closed),
    ("metadata", metadata)]
  have hspells : frame.Spells text := by
    have htext : text = String.ofList _ := rfl
    refine ⟨?_, Json.spelled_iff.2 ⟨?_, by decide⟩⟩
    · simp [frame, metadata, payload, subscription, event, badges, message, fragments, word, objectOf, Outline.Closed,
        Outline.ClosedMembers, Outline.ClosedItems]
    · rw [htext, String.toList_ofList]
      decide +kernel
  have hframe : IsFrame none payload frame :=
    ⟨_, ⟨rfl, by decide⟩, ⟨metadata, rfl, _, ⟨rfl, by decide⟩, ⟨_, rfl, rfl⟩, .missing⟩, rfl⟩
  have hpayload : IsPayload "channel.chat.message" event payload :=
    ⟨_, ⟨rfl, by decide⟩, ⟨subscription, rfl, _, "", ⟨rfl, by decide⟩, ⟨_, rfl, rfl⟩, .missing⟩, rfl⟩
  have hdepth : payload.Accepted (Json.depthLimit - 1) := by
    simp [payload, subscription, event, badges, message, fragments, word, objectOf, Outline.Accepted,
      Outline.AcceptedMembers, Outline.AcceptedItems, Json.depthLimit]
  have hbody : IsBody ⟨t.text, t.fragments⟩ message :=
    ⟨_, ⟨rfl, by decide⟩, ⟨_, rfl, rfl⟩, .told ⟨_, rfl, .cons ⟨_, ⟨rfl, by decide⟩, ⟨_, rfl, rfl⟩, .told rfl⟩
      (.cons ⟨_, ⟨rfl, by decide⟩, ⟨_, rfl, rfl⟩, .missing⟩ .nil)⟩⟩
  have hbadges : IsList IsBadge t.badges badges := ⟨_, rfl, .cons ⟨_, ⟨rfl, by decide⟩, ⟨_, rfl, rfl⟩⟩ .nil⟩
  have hreports : Reports frame (.chatMessage (t.message false)) :=
    .chat ⟨none, _, payload, hframe, hpayload, hdepth, rfl⟩ ⟨rfl, by decide⟩
      { id := ⟨_, rfl, rfl⟩, userId := ⟨_, rfl, rfl⟩, login := ⟨_, rfl, rfl⟩, name := .missing,
        message := ⟨_, rfl, hbody⟩, badges := .told hbadges, reply := .null }
  exact ⟨frame, hspells, hreports, decode_of_reports hspells hreports⟩

end ChatModeration.Feed
