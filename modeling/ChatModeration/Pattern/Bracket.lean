import ChatModeration.Pattern.Escape
import ChatModeration.Text.Scan

/-!
# Bracketed classes in patterns

A class between brackets is a union of characters, ranges, named classes and nested classes, on which `&&`, `--` and
`~~` act as intersection, difference and symmetric difference, from left to right (`readBracket`).
-/

namespace ChatModeration.Pattern

open Text (isBlank scan Next)

/-- The set operations between unions. -/
inductive SetOp where
  | inter | diff | symmDiff

/-- The set that an operation makes of two sets, which disregard case if the flags say so. -/
def SetOp.apply (flags : Flags) (op : SetOp) (a b : CharSet) : CharSet :=
  let a := flags.close false a
  let b := flags.close false b
  match op with
  | inter => .inter a b
  | diff => .diff a b
  | symmDiff => .symmDiff a b

/-- A class that is not closed yet. -/
structure OpenClass where
  negated : Bool
  /-- What stands before the last operation, and the operation. -/
  left : Option (CharSet × SetOp)
  /-- The union since then. -/
  union : CharSet

/-- The set of what was read so far, without regard to negation. -/
def OpenClass.value (flags : Flags) (o : OpenClass) : CharSet :=
  match o.left with
  | none => o.union
  | some (a, op) => op.apply flags a o.union

/-- The class with a set added to its union. -/
def OpenClass.add (o : OpenClass) (set : CharSet) : OpenClass := { o with union := .union o.union set }

/-- The class after an operation. -/
def OpenClass.operate (flags : Flags) (op : SetOp) (o : OpenClass) : OpenClass :=
  { o with left := some (o.value flags, op), union := .empty }

/-- The hyphens at the start of a class, and what follows them. -/
def leadingHyphens (flags : Flags) (set : CharSet) : List Char → CharSet × List Char
  | '-' :: cs => leadingHyphens' (.union set (.single '-')) cs
  | cs => (set, cs)
where
  /-- The same after a hyphen, where blanks may come first. -/
  leadingHyphens' (set : CharSet) : List Char → CharSet × List Char
    | [] => (set, [])
    | c :: cs =>
      if c == '-' then leadingHyphens' (.union set (.single '-')) cs
      else if flags.verbose && isBlank c then leadingHyphens' set cs
      else (set, flags.skip (c :: cs))

/-- The start of a class after its opening bracket, and what follows it. -/
def openClass (flags : Flags) (cs : List Char) : Option (OpenClass × List Char) :=
  let (negated, cs) := match flags.skip cs with
    | '^' :: rest => (true, flags.skip rest)
    | rest => (false, rest)
  let (set, cs) := leadingHyphens flags .empty cs
  match cs, set with
  | [], _ => none
  | ']' :: rest, .empty =>
    match flags.skip rest with
    | [] => none
    | rest => some (⟨negated, none, .single ']'⟩, rest)
  | cs, set => some (⟨negated, none, set⟩, cs)

/-- An ASCII class after an opening bracket, and what follows it. -/
def readAsciiClass (flags : Flags) (cs : List Char) : Option (CharSet × List Char) :=
  match cs with
  | ':' :: rest =>
    let (negated, rest) := match rest with
      | '^' :: rest => (true, rest)
      | _ => (false, rest)
    match rest.dropWhile (· != ':') with
    | ':' :: ']' :: after => do
      let set ← asciiClassNamed (String.ofList (rest.takeWhile (· != ':')))
      return (flags.close negated set, after)
    | _ => none
  | _ => none

/-- A single item of a class, and what follows it. -/
def readItem (flags : Flags) : List Char → Option (Item × List Char)
  | [] => none
  | '\\' :: cs => readEscape flags cs
  | c :: cs => some (.literal c, cs)

/-- A character as an element of a class. -/
def classChar (flags : Flags) : Item → Option Char
  | .literal c => if flags.unicode || c.toNat < 0x80 then some c else none
  | _ => none

/-- The character that follows the first one and what the flags leave out. -/
def peekAfter (flags : Flags) (cs : List Char) : Option Char :=
  if flags.verbose then
    match cs.dropWhile isBlank with
    | '#' :: rest => (rest.dropWhile isBlank).head?
    | rest => rest.head?
  else cs.head?

/-- A character, range or named class of a class, and what follows it. -/
def readRange (flags : Flags) (cs : List Char) : Option (CharSet × List Char) := do
  let (item, rest) ← readItem flags cs
  let asSet : Option CharSet :=
    match item with
    | .literal _ => (classChar flags item).map .single
    | .set s => some s
    | .anchor _ => none
  match flags.skip rest with
  | [] => none
  | '-' :: rest' =>
    let next := peekAfter flags rest'
    if next = some ']' ∨ next = some '-' then return (← asSet, flags.skip rest)
    else
      let (last, rest'') ← readItem flags (flags.skip rest')
      let a ← classChar flags item
      let b ← classChar flags last
      if a ≤ b then return (.range a b, rest'') else none
  | rest => return (← asSet, rest)

/-- One step inside the given open classes, innermost first. -/
def classStep (flags : Flags) (opened : List OpenClass) (cs : List Char) :
    Option (Next (List OpenClass) CharSet × List Char) :=
  match opened with
  | [] => none
  | o :: outer =>
    match flags.skip cs with
    | [] => none
    | '[' :: rest =>
      match readAsciiClass flags rest with
      | some (set, rest) => some (.more (o.add set :: outer), rest)
      | none => (openClass flags rest).map fun (inner, rest) => (.more (inner :: o :: outer), rest)
    | ']' :: rest =>
      if o.negated && !flags.unicode then none
      else
        let set := flags.close o.negated (o.value flags)
        match outer with
        | [] => some (.done set, rest)
        | p :: ps => some (.more (p.add set :: ps), rest)
    | '&' :: '&' :: rest => some (.more (o.operate flags .inter :: outer), rest)
    | '-' :: '-' :: rest => some (.more (o.operate flags .diff :: outer), rest)
    | '~' :: '~' :: rest => some (.more (o.operate flags .symmDiff :: outer), rest)
    | cs => (readRange flags cs).map fun (set, rest) => (.more (o.add set :: outer), rest)

/-- The set of a bracketed class, given the text after its opening bracket, and what follows the class. -/
def readBracket (flags : Flags) (cs : List Char) : Option (CharSet × List Char) := do
  let (o, rest) ← openClass flags cs
  scan (classStep flags) [o] rest

end ChatModeration.Pattern
