import ChatModeration.Store.Basic
import ChatModeration.Text.Blank
import ChatModeration.Text.Phrase
import ChatModeration.Text.Pieces

/-!
# First messages of chatters

The tagged lines of the chat tell which messages are the first of their senders.  A watcher remembers the ids of such
messages for a minute.
-/

namespace ChatModeration.Feed

/-- What the tags of a line say: whether the message is a first one, and its id. -/
structure Tags where
  first : Bool := false
  id : Option String := none
deriving DecidableEq, Repr

/-- Takes a tag into account; a later one takes precedence, but an empty id counts as none. -/
def Tags.add (t : Tags) (tag : List Char) : Tags :=
  match Text.splitAtFirst '=' tag with
  | none => t
  | some (name, value) =>
    if name = "first-msg".toList then { t with first := value == ['1'] }
    else if name = "id".toList ∧ !value.isEmpty then { t with id := some (String.ofList value) }
    else t

/-- What the tags of a line, with semicolons between them, say. -/
def Tags.read (cs : List Char) : Tags := (Text.pieces ';' cs).foldl Tags.add {}

/-- What stands in a line for a message in the chat. -/
def messageCommand : List Char := " PRIVMSG ".toList

/-- The id of the message of a tagged line, if it is the first message of its sender. -/
def firstMessage? (line : String) : Option String :=
  match line.toList with
  | '@' :: tagged =>
    match Text.splitAtFirst ' ' tagged with
    | none => none
    | some (tags, rest) =>
      let said := Tags.read tags
      if Text.occursInChars messageCommand (' ' :: rest) && said.first then said.id else none
  | _ => none

/-- How long, in milliseconds, a first message is remembered. -/
def retention : Nat := 60 * 1000

/-- The time, in milliseconds, between two looks at what is remembered. -/
def pollInterval : Nat := 10

/-- The ids of the first messages that are remembered. -/
abbrev FirstMessages := Store String Unit

namespace FirstMessages

/-- The ids of first messages in the lines of a frame, in their order. -/
def idsOf (frame : String) : List String :=
  (Text.pieces '\n' frame.toList).filterMap fun line => firstMessage? (Text.trim (String.ofList line))

/-- Remembers the first messages of a frame. -/
def handleFrame (seen : FirstMessages) (frame : String) (now : Nat) : FirstMessages :=
  (idsOf frame).foldl (fun seen id => seen.push id () now retention) seen

/-- Whether a message is a first one, as far as is known when no further frame arrives: nothing is known of a message
that is not remembered. -/
def isFirst? (seen : FirstMessages) (id : String) : Option Bool := if 0 < seen.count id then some true else none

/-- Looks again and again, up to a deadline, whether a message is known to be a first one.  `seenAt` is what is
remembered at each time, and `late` is by how much a look that is due is late. -/
def ask (seenAt : Nat → FirstMessages) (late : Nat → Nat) (id : String) (deadline now : Nat) : Option Bool :=
  match (seenAt now).isFirst? id with
  | some first => some first
  | none => if deadline ≤ now then none else ask seenAt late id deadline (now + pollInterval + late now)
termination_by deadline - now
decreasing_by
  simp only [pollInterval]
  omega

end FirstMessages

end ChatModeration.Feed
