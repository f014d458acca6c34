import ChatModeration.Text.Blank
import ChatModeration.Text.Case
import ChatModeration.Text.Category

/-!
# Sets of characters

The sets that patterns are made of: ranges, properties, and what the set operations and case folding make of them.
`CharSet.mem` says which characters a set has.
-/

namespace ChatModeration.Pattern

open Text

/-- Properties of characters that patterns know by name. -/
inductive Property where
  | any
  | ascii
  | categories (kinds : List Category)
  | alphabetic | lowercase | uppercase | cased | caseIgnorable | graphemeExtend
  | blank
  | word
deriving DecidableEq, Repr

/-- Whether a character has the property. -/
def Property.holds (c : Char) : Property → Bool
  | any => true
  | ascii => c.toNat < 0x80
  | categories kinds => kinds.contains (category c)
  | alphabetic => isAlphabetic c
  | lowercase => isLowercase c
  | uppercase => isUppercase c
  | cased => isCased c
  | caseIgnorable => isCaseIgnorable c
  | graphemeExtend => extendsGrapheme c
  | blank => isBlank c
  | word => isWordCharacter c

/-- A set of characters. -/
inductive CharSet where
  | empty
  | range (first last : Char)
  | property (p : Property)
  | union (a b : CharSet)
  | inter (a b : CharSet)
  | diff (a b : CharSet)
  | symmDiff (a b : CharSet)
  | compl (a : CharSet)
  /-- The characters that differ from one of the set at most in case; `ascii` restricts this to ASCII letters. -/
  | folded (ascii : Bool) (a : CharSet)
deriving DecidableEq, Repr

namespace CharSet

/-- The characters that differ from `c` at most in case. -/
def variants (ascii : Bool) (c : Char) : List Char :=
  if ascii then [c.toLower, c.toUpper] else caseVariants c

/-- Whether the set has the character. -/
def mem : CharSet → Char → Bool
  | empty, _ => false
  | range first last, c => first ≤ c && c ≤ last
  | property p, c => p.holds c
  | union a b, c => a.mem c || b.mem c
  | inter a b, c => a.mem c && b.mem c
  | diff a b, c => a.mem c && !b.mem c
  | symmDiff a b, c => a.mem c != b.mem c
  | compl a, c => !a.mem c
  | folded ascii a, c => (variants ascii c).any a.mem

/-- The set of one character. -/
def single (c : Char) : CharSet := range c c

/-- All characters. -/
def all : CharSet := property .any

/-- The set of some characters. -/
def ofList (cs : List Char) : CharSet := cs.foldr (fun c a => union (single c) a) empty

end CharSet

end ChatModeration.Pattern
