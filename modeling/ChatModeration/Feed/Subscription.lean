import ChatModeration.Json.Value

/-!
# Requests to the platform

The bodies of the requests by which a session subscribes to events and by which a user is banned for good or for some
time.
-/

namespace ChatModeration.Feed

/-- The kinds of events that every session subscribes to, with their versions. -/
def subscriptionKinds : List (String × String) :=
  [("channel.chat.message", "1"), ("automod.message.hold", "1"), ("stream.online", "1"), ("stream.offline", "1"),
    ("channel.update", "2"), ("channel.moderate", "1")]

/-- Whose events a subscription is about, and on whose behalf. -/
def condition (kind broadcasterId moderatorId : String) : Json :=
  let broadcaster := ("broadcaster_user_id", Json.string broadcasterId)
  if kind = "channel.chat.message" then .ofMembers [broadcaster, ("user_id", .string moderatorId)]
  else if kind = "automod.message.hold" ∨ kind = "channel.moderate" then
    .ofMembers [broadcaster, ("moderator_user_id", .string moderatorId)]
  else .ofMembers [broadcaster]

/-- The requests of a session. -/
def subscriptions (broadcasterId moderatorId sessionId : String) : List Json :=
  subscriptionKinds.map fun (kind, version) =>
    .ofMembers
      [("type", .string kind), ("version", .string version),
        ("condition", condition kind broadcasterId moderatorId),
        ("transport", .ofMembers [("method", .string "websocket"), ("session_id", .string sessionId)])]

/-- The request to ban a user, for some seconds if a duration is given. -/
def banRequest (userId reason : String) (seconds : Option Nat) : Json :=
  let data := [("user_id", Json.string userId), ("reason", .string reason)]
  let duration := (seconds.map fun n => ("duration", Json.number (.integer n))).toList
  .ofMembers [("data", .ofMembers (data ++ duration))]

/-- Why no requests can be made. -/
inductive ClientError where
  /-- There is nothing that could carry the requests out. -/
  | noRuntime
  | invalidAddress (url : String)
deriving DecidableEq, Repr

/-- The message of an error. -/
def ClientError.message : ClientError → String
  | noRuntime => "HelixClient requires a tokio runtime"
  | invalidAddress url => "Invalid EventSub URL: " ++ url

end ChatModeration.Feed
