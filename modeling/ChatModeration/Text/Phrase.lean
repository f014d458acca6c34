/-!
# Phrases in texts

Whether a text occurs inside another one (`occursIn`), and whether it does so between spaces or ends
(`phraseOccursIn`), which is how phrases of several words are looked up in a text of words with single spaces between
them.
-/

namespace ChatModeration.Text

/-- Whether `needle` occurs somewhere in the list. -/
def occursInChars (needle : List Char) : List Char → Bool
  | [] => needle.isEmpty
  | c :: cs => needle.isPrefixOf (c :: cs) || occursInChars needle cs

/-- Whether a text occurs somewhere in another one. -/
def occursIn (needle text : String) : Bool := occursInChars needle.toList text.toList

/-- A text between two spaces. -/
def padded (s : String) : String := " " ++ s ++ " "

/-- Whether a phrase occurs in a text between spaces or ends. -/
def phraseOccursIn (phrase text : String) : Bool := occursIn (padded phrase) (padded text)

end ChatModeration.Text
