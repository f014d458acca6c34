import ChatModeration.Text.Case

/-!
# The moderated channel

What is known about the channel: its login in lowercase, whether it is live, and title and category of the stream.
-/

namespace ChatModeration

/-- The channel and the state of its stream. -/
structure Channel where
  name : String
  live : Bool := false
  title : String := ""
  category : String := ""
deriving DecidableEq, Repr

namespace Channel

/-- The channel with a login, offline. -/
def ofLogin (login : String) : Channel := { name := Text.lowercase login }

/-- The channel going online or offline. -/
def setLive (c : Channel) (live : Bool) : Channel := { c with live }

/-- The channel with another title and category. -/
def setInfo (c : Channel) (title category : String) : Channel := { c with title, category }

end Channel

end ChatModeration
