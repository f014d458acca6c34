import ChatModeration.Binary64.Basic

/-!
# Fingerprints

The fingerprint of a message is the set of its tokens, so neither order nor repetition counts.  Two fingerprints are
compared by the number of common tokens relative to the number of all (`similarity`); two empty ones have nothing in
common.
-/

namespace ChatModeration

/-- A set of tokens. -/
structure Fingerprint (κ : Type) where
  /-- The tokens without repetition. -/
  tokens : List κ
deriving DecidableEq, Repr

namespace Fingerprint

variable {κ : Type} [DecidableEq κ]

/-- The set of some tokens. -/
def ofTokens (tokens : List κ) : Fingerprint κ := ⟨tokens.foldr List.insert []⟩

/-- The number of different tokens. -/
def size (f : Fingerprint κ) : Nat := f.tokens.length

/-- Whether there is no token. -/
def isEmpty (f : Fingerprint κ) : Bool := f.tokens.isEmpty

/-- Whether a token belongs to the set. -/
def contains (f : Fingerprint κ) (t : κ) : Bool := f.tokens.contains t

/-- Whether two sets have the same tokens. -/
def same (f g : Fingerprint κ) : Bool := f.size == g.size && f.tokens.all g.contains

/-- The number of common tokens, counted in the smaller set. -/
def overlap (f g : Fingerprint κ) : Nat :=
  if f.size ≤ g.size then (f.tokens.filter g.contains).length else (g.tokens.filter f.contains).length

/-- The number of tokens in either set. -/
def unionSize (f g : Fingerprint κ) : Nat := f.size + g.size - f.overlap g

/-- The part of all tokens that two sets have in common; zero if there are none. -/
def similarity (f g : Fingerprint κ) : Binary64 :=
  if f.unionSize g = 0 then .zero else Binary64.ofRatio false (f.overlap g) (f.unionSize g)

end Fingerprint

end ChatModeration
