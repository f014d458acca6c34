import ChatModeration.Text.Blank
import ChatModeration.Text.Case
import ChatModeration.Text.Category
import ChatModeration.Text.Compatibility

/-!
# Normalized text

Messages and configured words are compared in a form that hides the differences chatters use to vary a text: letter
case, compatibility variants, punctuation and invisible characters.  `normalize` writes this form character by
character: letters and digits as they come, and a single space before the next of them for whatever else has stood in
between.
-/

namespace ChatModeration.Text

/-- Characters that are dropped before a text is divided into words: invisible ones and apostrophes. -/
def strippedCharacters : List Char :=
  ['\u200B', '\u200C', '\u200D', '\u2060', '\uFEFF', Char.ofNat 0xE0000, '\u034F', '\'', '\u2019']

/-- A normalized text while it is written. -/
structure Writing where
  written : List Char := []
  /-- Whether a space is due before the next letter or digit. -/
  pending : Bool := false
deriving DecidableEq, Repr

/-- What has been written after one more character of the text.  A space that is due at the start is left out. -/
def Writing.put (w : Writing) (c : Char) : Writing :=
  if strippedCharacters.contains c then w
  else if isAlphanumeric c then
    { written := (if w.pending && !w.written.isEmpty then w.written ++ [' '] else w.written) ++ [c], pending := false }
  else { w with pending := true }

/-- A text in compatibility form and in lowercase, with single spaces between its words. -/
def normalize (s : String) : String :=
  String.ofList ((((compatibilityForm s.toList).flatMap lowerChar).foldl Writing.put {}).written)

end ChatModeration.Text
