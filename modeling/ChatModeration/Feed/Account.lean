import ChatModeration.Text.Blank
import ChatModeration.Text.Case
import ChatModeration.Text.Pieces

/-!
# The account

The identity and the credentials under which the channel is moderated, read from named settings
(`Account.ofSettings`).
-/

namespace ChatModeration.Feed

/-- Identity and credentials. -/
structure Account where
  clientId : String
  /-- The bare token. -/
  accessToken : String
  broadcasterId : String
  moderatorId : String
  /-- The login of the channel in lowercase. -/
  channel : String
  /-- Set if the chat is watched for first messages. -/
  ircUsername : Option String
  feedUrl : String
deriving DecidableEq, Repr

/-- Why there is no account. -/
inductive AccountError where
  | notSet (setting : String)
  | emptyChannel
deriving DecidableEq, Repr

/-- The message of an error. -/
def AccountError.message : AccountError → String
  | notSet setting => setting ++ " environment variable not set"
  | emptyChannel => "TWITCH_CHANNEL is empty"

/-- The address of the event feed. -/
def defaultFeedUrl : String := "wss://eventsub.wss.twitch.tv/ws"

/-- The login that a setting for the channel means. -/
def channelLogin (setting : String) : String :=
  Text.lowercase (String.ofList ((Text.trim setting).toList.dropWhile (· == '#')))

namespace Account

/-- The account that some settings describe.  Without a moderator the broadcaster acts. -/
def ofSettings (setting? : String → Option String) : Except AccountError Account := do
  let required (name : String) : Except AccountError String :=
    match setting? name with
    | some value => .ok value
    | none => .error (.notSet name)
  let clientId ← required "TWITCH_CLIENT_ID"
  let accessToken ← required "TWITCH_ACCESS_TOKEN"
  let broadcasterId ← required "TWITCH_BROADCASTER_ID"
  let channel := channelLogin (← required "TWITCH_CHANNEL")
  if channel.isEmpty then throw .emptyChannel
  return {
    clientId, broadcasterId, channel
    accessToken := String.ofList (Text.stripRepeated "oauth:".toList accessToken.toList)
    moderatorId := (setting? "TWITCH_MODERATOR_ID").getD broadcasterId
    ircUsername := (setting? "TWITCH_IRC_USERNAME").filter (!·.isEmpty)
    feedUrl := (setting? "EVENTSUB_URL").getD defaultFeedUrl }

end Account

end ChatModeration.Feed
