import ChatModeration.Ingestion
import ChatModeration.Shutdown

/-!
# The bot

What the bot consists of when it starts: a station where nothing has happened yet (`Station.start`), and the components
that a shutdown asks to stop (`Bot.components`).
-/

namespace ChatModeration

/-- The station of a channel where nothing has happened yet. -/
def Station.start (login : String) (snapshot : Snapshot) (isPlatformEmote : String → Bool)
    (oracle : String → Nat → Option Bool) (assign : String → Nat) : Station :=
  let channel := Channel.ofLogin login
  { connection := .closed
    channel
    desk :=
      { surroundings := { snapshot, channel := channel.name, live := channel.live, isPlatformEmote, oracle }
        records := .empty snapshot.config.store assign
        stats := {}
        now := 0 } }

namespace Bot

/-- The components in the order in which they start.  First messages are watched only if the bot has a name for the
chat. -/
def components (chatName : Option String) : List Component :=
  [.ofTasks "store-reclaimers" (List.replicate Moderation.Records.storeCount .normal)] ++
    (chatName.map fun _ => Component.ofTasks "irc-side-channel" [.normal, .normal]).toList ++
    [.ofTasks "ingestion-pipeline" [.normal]]

end Bot

end ChatModeration
