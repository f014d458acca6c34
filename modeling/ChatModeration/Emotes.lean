/-!
# Emotes

Emotes are tokens of the text as it was sent, and their names are compared with regard to case.
-/

namespace ChatModeration

/-- The number of tokens that are emotes, and whether all tokens are; no tokens are not all emotes. -/
def emoteStats (isEmote : String → Bool) (tokens : List String) : Nat × Bool :=
  let count := (tokens.filter isEmote).length
  (count, !tokens.isEmpty && count == tokens.length)

end ChatModeration
