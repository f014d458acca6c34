import ChatModeration.Pattern.Expr

/-!
# Searching a text for a pattern

At a place in a text an expression has a list of ways to go on, in order of preference (`Expr.ways`): it is finished,
or it takes a character of some set and goes on as another expression.  `find` follows all ways at once and finds the
match that starts leftmost and is preferred among those that start there.  A way that repeats a preferred one, and an
empty turn of a repetition, add nothing and are left out, so the ways stay few.
-/

namespace ChatModeration.Pattern

/-- A way in which an expression goes on. -/
inductive Way where
  | finished
  | take (set : CharSet) (rest : Expr)
deriving DecidableEq, Repr

/-- One expression after another, where an empty one is dropped. -/
def Expr.followedBy (a b : Expr) : Expr :=
  match a with
  | .empty => b
  | _ => .cat a b

namespace Way

/-- The ways of an expression and then, less preferred, those of another one. -/
def orElse (ways others : List Way) : List Way :=
  if ways.contains finished then ways ++ others.filter (· != finished) else ways ++ others

/-- The ways of an expression that `next` follows, whose ways are `nextWays`. -/
def followedBy (next : Expr) (nextWays : List Way) (ways : List Way) : List Way :=
  ways.flatMap fun way =>
    match way with
    | finished => nextWays
    | take set rest => [take set (rest.followedBy next)]

/-- The ways that take a character, of an expression that `next` follows. -/
def taking (next : Expr) (ways : List Way) : List Way := followedBy next [] ways

/-- The ways of at most `n` turns of an expression with the given ways. -/
def upTo (greedy : Bool) (a : Expr) (ways : List Way) : Nat → List Way
  | 0 => [finished]
  | n + 1 =>
    let turn := followedBy (.rep 0 (some n) greedy a) (upTo greedy a ways n) ways
    if greedy then orElse turn [finished] else orElse [finished] turn

/-- The ways of any number of turns, none included. -/
def anyTurns (greedy : Bool) (a : Expr) (ways : List Way) : List Way :=
  let turn := followedBy (.again greedy a) [finished] ways
  if greedy then orElse turn [finished] else orElse [finished] turn

/-- The ways of any number of turns after a first one. -/
def furtherTurns (greedy : Bool) (a : Expr) (ways : List Way) : List Way :=
  let turn := taking (.again greedy a) ways
  if greedy then turn ++ [finished] else finished :: turn

/-- The ways of at least `min` turns and at most `max` turns. -/
def turns (greedy : Bool) (a : Expr) (ways : List Way) (max : Option Nat) : Nat → List Way
  | 0 =>
    match max with
    | none => anyTurns greedy a ways
    | some n => upTo greedy a ways n
  | 1 =>
    match max with
    | none => followedBy (.again greedy a) [finished] ways
    | some n => followedBy (.rep 0 (some (n - 1)) greedy a) (upTo greedy a ways (n - 1)) ways
  | min + 2 =>
    let max' := max.map (· - 1)
    followedBy (.rep (min + 1) max' greedy a) (turns greedy a ways max' (min + 1)) ways

end Way

/-- The ways of an expression between the characters `before` and `after`. -/
def Expr.ways (before after : Option Char) : Expr → List Way
  | .empty => [.finished]
  | .char set => [.take set .empty]
  | .anchor a => if a.holds before after then [.finished] else []
  | .cat a b => Way.followedBy b (b.ways before after) (a.ways before after)
  | .alt a b => Way.orElse (a.ways before after) (b.ways before after)
  | .rep min max greedy a => Way.turns greedy a (a.ways before after) max min
  | .again greedy a => Way.furtherTurns greedy a (a.ways before after)

/-- A match that has begun: where, and what is left of the expression. -/
structure Thread where
  start : Nat
  rest : Expr
deriving DecidableEq, Repr

/-- The part of a text from position `start` up to position `stop`. -/
structure Span where
  start : Nat
  stop : Nat
deriving DecidableEq, Repr

/-- The threads that go on with a character, and the start of the match that ends here if that is preferred to them. -/
def advance (before after : Option Char) : List Thread → List Thread × Option Nat
  | [] => ([], none)
  | t :: ts =>
    let ways := t.rest.ways before after
    let preferred := ways.takeWhile (· != .finished)
    let next := preferred.filterMap fun way =>
      match way, after with
      | .take set rest, some c => if set.mem c then some ⟨t.start, rest⟩ else none
      | _, _ => none
    if ways.contains .finished then (next, some t.start)
    else
      let (others, found) := advance before after ts
      (next ++ others, found)

/-- Threads without those whose expression is that of an earlier one. -/
def distinct : List Thread → List Thread
  | [] => []
  | t :: ts => t :: (distinct ts).filter fun u => u.rest != t.rest

/-- The match found in the text that follows position `i`, given the threads there and the match found so far. -/
def findFrom (e : Expr) (before : Option Char) (i : Nat) (threads : List Thread) (found : Option Span) :
    List Char → Option Span
  | [] =>
    let threads := if found.isNone then threads ++ [⟨i, e⟩] else threads
    match (advance before none threads).2 with
    | some start => some ⟨start, i⟩
    | none => found
  | c :: cs =>
    let threads := if found.isNone then threads ++ [⟨i, e⟩] else threads
    let (next, ended) := advance before (some c) (distinct threads)
    let found := match ended with
      | some start => some ⟨start, i⟩
      | none => found
    if found.isSome ∧ next.isEmpty then found
    else findFrom e (some c) (i + 1) next found cs

/-- The leftmost match of an expression in a text, and of those that start there the preferred one. -/
def find (e : Expr) (text : String) : Option Span := findFrom e none 0 [] none text.toList

/-- Whether an expression matches somewhere in a text. -/
def isMatch (e : Expr) (text : String) : Bool := (find e text).isSome

/-- Whether the match that is found is the whole text. -/
def isWholeMatch (e : Expr) (text : String) : Bool := find e text == some ⟨0, text.length⟩

end ChatModeration.Pattern
