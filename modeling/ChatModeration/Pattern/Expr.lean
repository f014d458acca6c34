import ChatModeration.Pattern.CharSet

/-!
# Pattern expressions

The expressions that patterns stand for.  An alternative that is written first is preferred, and a greedy repetition
prefers to go on.  `Matches` says which parts of a text an expression can match, whatever it prefers.
-/

namespace ChatModeration.Pattern

open Text (isWordCharacter)

/-- Places at and between words. -/
inductive Boundary where
  /-- Between a character of a word and another one. -/
  | edge
  /-- Anywhere else. -/
  | notEdge
  | wordStart
  | wordEnd
  /-- After a character of no word. -/
  | startHalf
  /-- Before a character of no word. -/
  | endHalf
deriving DecidableEq, Repr

/-- Conditions on a place in a text. -/
inductive Anchor where
  | textStart
  | textEnd
  | lineStart
  | lineEnd
  /-- The start of a line where a carriage return, a line feed or both end a line. -/
  | crlfStart
  /-- The end of a line where a carriage return, a line feed or both end a line. -/
  | crlfEnd
  /-- A place at a word; `ascii` admits ASCII characters only in words. -/
  | word (ascii : Bool) (kind : Boundary)
deriving DecidableEq, Repr

/-- A character of a word. -/
def isWord (ascii : Bool) (c : Char) : Bool :=
  if ascii then c.isAlphanum || c == '_' else isWordCharacter c

/-- Whether the condition holds between the character `before` and the character `after`. -/
def Anchor.holds (before after : Option Char) : Anchor → Bool
  | textStart => before.isNone
  | textEnd => after.isNone
  | lineStart => before.isNone || before == some '\n'
  | lineEnd => after.isNone || after == some '\n'
  | crlfStart => before.isNone || before == some '\n' || (before == some '\r' && after != some '\n')
  | crlfEnd => after.isNone || after == some '\r' || (after == some '\n' && before != some '\r')
  | word ascii kind =>
    let left := before.any (isWord ascii)
    let right := after.any (isWord ascii)
    match kind with
    | .edge => left != right
    | .notEdge => left == right
    | .wordStart => !left && right
    | .wordEnd => left && !right
    | .startHalf => !left
    | .endHalf => !right

/-- A pattern expression. -/
inductive Expr where
  | empty
  | char (set : CharSet)
  | anchor (a : Anchor)
  | cat (a b : Expr)
  | alt (a b : Expr)
  /-- At least `min` and, where there is a `max`, at most `max` times. -/
  | rep (min : Nat) (max : Option Nat) (greedy : Bool) (a : Expr)
  /-- What may follow a finished turn of an unbounded repetition: further turns. -/
  | again (greedy : Bool) (a : Expr)
deriving DecidableEq, Repr

/--
`Matches t e i j`: the expression can match the characters of `t` from position `i` up to position `j`.
-/
inductive Matches (t : List Char) : Expr → Nat → Nat → Prop where
  | empty {i : Nat} : Matches t .empty i i
  | char {set : CharSet} {c : Char} {i : Nat} (hc : t[i]? = some c) (hs : set.mem c = true) :
      Matches t (.char set) i (i + 1)
  | anchor {a : Anchor} {i : Nat} (h : a.holds (if i = 0 then none else t[i - 1]?) t[i]? = true) :
      Matches t (.anchor a) i i
  | cat {a b : Expr} {i j k : Nat} (ha : Matches t a i j) (hb : Matches t b j k) : Matches t (.cat a b) i k
  | left {a b : Expr} {i j : Nat} (h : Matches t a i j) : Matches t (.alt a b) i j
  | right {a b : Expr} {i j : Nat} (h : Matches t b i j) : Matches t (.alt a b) i j
  | stop {a : Expr} {max : Option Nat} {greedy : Bool} {i : Nat} : Matches t (.rep 0 max greedy a) i i
  | turn {a : Expr} {min : Nat} {max : Option Nat} {greedy : Bool} {i j k : Nat} (hmax : max ≠ some 0)
      (ha : Matches t a i j) (hr : Matches t (.rep (min - 1) (max.map (· - 1)) greedy a) j k) :
      Matches t (.rep min max greedy a) i k
  | further {a : Expr} {greedy : Bool} {i j : Nat} (h : Matches t (.rep 0 none greedy a) i j) :
      Matches t (.again greedy a) i j

end ChatModeration.Pattern
