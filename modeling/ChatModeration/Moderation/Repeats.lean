import ChatModeration.Fingerprint

/-!
# Repeated messages

How often a message has been said before (`countRepeats`), counted along the history of its sender, oldest first, with
the message itself at the end.  A message is a repeat if it is similar enough, unless too many other messages stand
between it and the similar one before it.
-/

namespace ChatModeration.Moderation

/-- What has been counted so far: the repeats, and the messages since the last similar one. -/
structure RepeatCount where
  gap : Nat := 0
  repeats : Nat := 0
deriving DecidableEq, Repr

/-- Takes the next message into account, which is similar or not; with `minGap = 0` no gap is too long. -/
def RepeatCount.observe (minGap : Nat) (c : RepeatCount) (similar : Bool) : RepeatCount :=
  if similar then
    { gap := 0, repeats := if minGap = 0 ∨ c.gap < minGap then c.repeats + 1 else c.repeats }
  else { c with gap := c.gap + 1 }

/-- The number of repeats among messages that are similar or not. -/
def countSimilar (minGap : Nat) (similar : List Bool) : Nat := (similar.foldl (RepeatCount.observe minGap) {}).repeats

variable {κ : Type} [DecidableEq κ]

/-- Whether a message is at least as similar to the current one as the threshold asks. -/
def isSimilar (threshold : Binary64) (current previous : Fingerprint κ) : Bool :=
  threshold.le (current.similarity previous)

/-- The number of repeats in a history with the current message at its end. -/
def countRepeats (threshold : Binary64) (minGap : Nat) (current : Fingerprint κ) (history : List (Fingerprint κ)) :
    Nat :=
  countSimilar minGap ((history ++ [current]).map (isSimilar threshold current))

end ChatModeration.Moderation
