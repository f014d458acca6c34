import ChatModeration.Message
import ChatModeration.Text.Case
import ChatModeration.Text.Phrase

/-!
# Advertising of other channels

A message advertises a channel if it links to one other than the current channel and also names its sender or carries
a promotional phrase (`advertised?`).  Links are found in the text as it was sent, without regard to case
(`linkedChannels`).
-/

namespace ChatModeration.Advertising

/-- What precedes the name of a channel in a link. -/
def linkHost : List Char := "twitch.tv/".toList

/-- The least number of characters of a linked name. -/
def minNameLength : Nat := 3

/-- The greatest number of characters of a linked name; further ones do not belong to it. -/
def maxNameLength : Nat := 25

/-- Whether a character differs from one of the given ones at most in case. -/
def isVariantOf (p : Char → Bool) (c : Char) : Bool := (Text.caseVariants c).any p

/-- A character of a channel name. -/
def isNameChar (c : Char) : Bool :=
  isVariantOf (fun d => ('a' ≤ d && d ≤ 'z') || d.isDigit || d == '_') c

/-- What follows the host of a link at the start of a text. -/
def afterHost (host : List Char) (cs : List Char) : Option (List Char) :=
  match host, cs with
  | [], _ => some cs
  | _, [] => none
  | h :: hs, c :: cs => if isVariantOf (· == h) c then afterHost hs cs else none

/-- The name that a link at the start of a text has, and what follows it. -/
def linkAt? (cs : List Char) : Option (List Char × List Char) :=
  match afterHost linkHost cs with
  | none => none
  | some rest =>
    let name := (rest.take maxNameLength).takeWhile isNameChar
    if minNameLength ≤ name.length then some (name, rest.drop name.length) else none

private theorem length_afterHost_le {host cs rest : List Char} (h : afterHost host cs = some rest) :
    rest.length ≤ cs.length := by
  fun_induction afterHost host cs with
  | case1 => simp_all
  | case2 => simp at h
  | case3 h' hs c cs _ ih => have := ih h; simp only [List.length_cons]; omega
  | case4 => simp at h

private theorem length_linkAt?_lt {cs name rest : List Char} (h : linkAt? cs = some (name, rest)) :
    rest.length < cs.length := by
  unfold linkAt? at h
  split at h
  · simp at h
  · next r hr =>
    have hl := length_afterHost_le hr
    dsimp only at h
    split at h
    · next hn =>
      simp only [Option.some.injEq, Prod.mk.injEq] at h
      obtain ⟨rfl, rfl⟩ := h
      have hle : ((r.take maxNameLength).takeWhile isNameChar).length ≤ r.length :=
        Nat.le_trans (List.takeWhile_prefix _).length_le (List.length_take_le' _ _)
      simp only [List.length_drop, minNameLength] at hn ⊢
      omega
    · simp at h

/-- The names of all links of a text, from left to right. -/
def linkNames : List Char → List (List Char)
  | [] => []
  | c :: cs =>
    match _h : linkAt? (c :: cs) with
    | some (name, rest) => name :: linkNames rest
    | none => linkNames cs
termination_by cs => cs.length
decreasing_by
  · exact length_linkAt?_lt ‹_›
  · simp

/-- The channels that a text links to, in lowercase. -/
def linkedChannels (text : String) : List String :=
  (linkNames text.toList).map fun name => Text.lowercase (String.ofList name)

/-- What the links of a message that have been looked at say about other channels. -/
structure Findings where
  /-- Whether there is a link to the channel of the sender. -/
  linkedOwn : Bool := false
  /-- The first channel other than the current one. -/
  foreign : Option String := none
deriving DecidableEq, Repr

/-- What is found with one more link.  A link to the current channel is passed over. -/
def Findings.look (sender currentChannel : String) (f : Findings) (linked : String) : Findings :=
  if linked == currentChannel then f
  else { linkedOwn := f.linkedOwn || linked == sender, foreign := f.foreign.or (some linked) }

/-- The channel that a message advertises. -/
def advertised? (message : ChatMessage) (currentChannel : String) (promoPhrases : List String) : Option String :=
  let sender := Text.lowercase message.userLogin
  let hasPromo := promoPhrases.any fun phrase => Text.phraseOccursIn phrase message.normalized
  let found := (linkedChannels message.text).foldl (Findings.look sender currentChannel) {}
  match found.foreign with
  | none => none
  | some foreign =>
    let mentionsSelf := found.linkedOwn || message.tokens.contains sender
    if mentionsSelf || hasPromo then some foreign else none

end ChatModeration.Advertising
