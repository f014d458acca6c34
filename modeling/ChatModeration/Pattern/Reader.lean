import ChatModeration.Pattern.Bracket
import ChatModeration.Pattern.Escape
import ChatModeration.Pattern.Search
import ChatModeration.Text.Scan

/-!
# Reading patterns

`Expr.read?` reads the text of a pattern under given flags.  Flags that are set inside a pattern hold up to the end of
the group in which they are set.  There is no result for a text that is no pattern, nor for one that names a property
that is left out (`propertyNamed`).  Groups may be nested to any depth and expressions may have any size, so a text that
is a pattern too deep or too large for a compiler has a result.
-/

namespace ChatModeration.Pattern

open Text (isBlank isAlphabetic isAlphanumeric scan Next)

/-- A part of a sequence: an expression, or a change of flags, which cannot be repeated. -/
inductive Part where
  | expr (e : Expr)
  | setting

/-- A group that is not closed yet; the whole pattern counts as one. -/
structure Group where
  flags : Flags
  /-- The sequence that is being read, in reverse order. -/
  parts : List Part
  /-- The alternatives before it, in reverse order. -/
  branches : List Expr

/-- The sequence that was read. -/
def Group.sequence (g : Group) : Expr :=
  g.parts.foldl (fun after part =>
    match part with
    | .expr e => if after = .empty then e else e.followedBy after
    | .setting => after) .empty

/-- The expression of a finished group. -/
def Group.value (g : Group) : Expr :=
  g.branches.foldl (fun after branch => .alt branch after) g.sequence

/-- The group with one more part. -/
def Group.push (g : Group) (e : Expr) : Group := { g with parts := .expr e :: g.parts }

/-! ### Flags -/

/-- The flag with a letter, set to a value. -/
def Flags.set (flags : Flags) (value : Bool) : Char → Option Flags
  | 'i' => some { flags with ignoreCase := value }
  | 'm' => some { flags with multiLine := value }
  | 's' => some { flags with dotAll := value }
  | 'U' => some { flags with swapGreed := value }
  | 'u' => some { flags with unicode := value }
  | 'R' => some { flags with crlf := value }
  | 'x' => some { flags with verbose := value }
  | _ => none

/--
The flags of a group, what ends them (a colon or a closing parenthesis) and what follows.  `seen` holds the letters
before; a letter may stand once and a minus once, but not last.
-/
def readFlags (flags : Flags) (seen : List Char) : List Char → Option (Flags × Bool × Char × List Char)
  | [] => none
  | c :: cs =>
    if c = ':' ∨ c = ')' then
      if seen.head? = some '-' then none else some (flags, seen.isEmpty, c, cs)
    else if seen.contains c then none
    else if c = '-' then readFlags flags (c :: seen) cs
    else do
      let flags ← flags.set (!seen.contains '-') c
      readFlags flags (c :: seen) cs

/-! ### Repetitions -/

/-- A repetition of the last part of the group. -/
def Group.repeatLast (g : Group) (min : Nat) (max : Option Nat) (lazy : Bool) : Option Group :=
  match g.parts with
  | .expr e :: parts => some { g with parts := .expr (.rep min max (lazy == g.flags.swapGreed) e) :: parts }
  | _ => none

/-- Whether a question mark follows, and what follows it. -/
def readLazy : List Char → Bool × List Char
  | '?' :: cs => (true, cs)
  | cs => (false, cs)

/-- The digits of a number, between which the flags may leave out blanks. -/
def countDigits (flags : Flags) : List Char → List Char × List Char
  | [] => ([], [])
  | c :: cs =>
    if c.isDigit then let r := countDigits flags cs; (c :: r.1, r.2)
    else if flags.verbose && isBlank c then let r := countDigits flags cs; (r.1, r.2)
    else ([], c :: cs)

/-- A number of repetitions, and what follows it and the blanks around it. -/
def readCount (flags : Flags) (cs : List Char) : Option (Nat × List Char) :=
  let (digits, rest) := countDigits flags (cs.dropWhile isBlank)
  let n := Text.valueOfDigits digits
  if digits.isEmpty ∨ Nat.pow 2 32 ≤ n then none else some (n, flags.skip (rest.dropWhile isBlank))

/-- The bounds of a counted repetition, given the text after its opening brace, and what follows the closing one. -/
def readBounds (flags : Flags) (cs : List Char) : Option (Nat × Option Nat × List Char) := do
  let (min, rest) ← readCount flags (flags.skip cs)
  match rest with
  | '\x7d' :: rest => return (min, some min, rest)
  | ',' :: rest =>
    match flags.skip rest with
    | '\x7d' :: rest => return (min, none, rest)
    | rest =>
      let (max, rest) ← readCount flags rest
      match rest with
      | '\x7d' :: rest => if min ≤ max then return (min, some max, rest) else none
      | _ => none
  | _ => none

/-! ### Groups -/

/-- What is read inside a pattern: the open groups, innermost first, and the names of groups. -/
structure State where
  groups : List Group
  names : List (List Char)

/-- Whether a character can stand in the name of a group. -/
def isNameChar (first : Bool) (c : Char) : Bool :=
  c == '_' || (if first then isAlphabetic c else c == '.' || c == '[' || c == ']' || isAlphanumeric c)

/-- The name of a group, and what follows its closing bracket. -/
def readName (names : List (List Char)) (cs : List Char) : Option (List Char × List Char) :=
  let name := cs.takeWhile (· != '>')
  match name, cs.dropWhile (· != '>') with
  | c :: cs', _ :: rest =>
    if isNameChar true c && cs'.all (isNameChar false) && !names.contains name then some (name, rest) else none
  | _, _ => none

/-- The state inside a new group. -/
def State.openGroup (s : State) (flags : Flags) : State := { s with groups := ⟨flags, [], []⟩ :: s.groups }

/-- A group or change of flags, given the text after its opening parenthesis. -/
def readGroup (s : State) (g : Group) (outer : List Group) (cs : List Char) : Option (State × List Char) :=
  match g.flags.skip cs with
  | '?' :: '=' :: _ | '?' :: '!' :: _ | '?' :: '<' :: '=' :: _ | '?' :: '<' :: '!' :: _ => none
  | '?' :: 'P' :: '<' :: rest | '?' :: '<' :: rest => do
    let (name, rest) ← readName s.names rest
    return (({ s with names := name :: s.names } : State).openGroup g.flags, rest)
  | '?' :: rest => do
    let (flags, none', ending, rest) ← readFlags g.flags [] rest
    if ending = ':' then return (s.openGroup flags, rest)
    else if none' then none
    else return ({ s with groups := { g with flags, parts := .setting :: g.parts } :: outer }, rest)
  | rest => some (s.openGroup g.flags, rest)

/-- The expression for a dot. -/
def Flags.dot (flags : Flags) : Option Expr :=
  if !flags.unicode then none
  else if flags.dotAll then some (.char .all)
  else some (.char (.compl (if flags.crlf then .ofList ['\r', '\n'] else .single '\n')))

/-- The condition for a caret. -/
def Flags.caret (flags : Flags) : Anchor :=
  if !flags.multiLine then .textStart else if flags.crlf then .crlfStart else .lineStart

/-- The condition for a dollar sign. -/
def Flags.dollar (flags : Flags) : Anchor :=
  if !flags.multiLine then .textEnd else if flags.crlf then .crlfEnd else .lineEnd

/-- The expression of an item. -/
def Flags.itemExpr (flags : Flags) : Item → Expr
  | .literal c => .char (flags.literal c)
  | .set s => .char s
  | .anchor a => .anchor a

/-- One step inside the innermost open group. -/
def patternStep (s : State) (cs : List Char) : Option (Next State Expr × List Char) :=
  match s.groups with
  | [] => none
  | g :: outer =>
    let go (g : Group) (rest : List Char) : Option (Next State Expr × List Char) :=
      some (.more { s with groups := g :: outer }, rest)
    let turns (min : Nat) (max : Option Nat) (rest : List Char) : Option (Next State Expr × List Char) := do
      let (lazy, rest) := readLazy rest
      go (← g.repeatLast min max lazy) rest
    match g.flags.skip cs with
    | [] => if outer.isEmpty then some (.done g.value, []) else none
    | '(' :: rest => (readGroup s g outer rest).map fun (s, rest) => (.more s, rest)
    | ')' :: rest =>
      match outer with
      | [] => none
      | p :: ps => some (.more { s with groups := p.push g.value :: ps }, rest)
    | '|' :: rest => go { g with parts := [], branches := g.sequence :: g.branches } rest
    | '[' :: rest => do
      let (set, rest) ← readBracket g.flags rest
      go (g.push (.char set)) rest
    | '?' :: rest => turns 0 (some 1) rest
    | '*' :: rest => turns 0 none rest
    | '+' :: rest => turns 1 none rest
    | '\x7b' :: rest => do
      let (min, max, rest) ← readBounds g.flags rest
      turns min max (g.flags.skip rest)
    | '\\' :: rest => do
      let (item, rest) ← readEscape g.flags rest
      go (g.push (g.flags.itemExpr item)) rest
    | '.' :: rest => do go (g.push (← g.flags.dot)) rest
    | '^' :: rest => go (g.push (.anchor g.flags.caret)) rest
    | '$' :: rest => go (g.push (.anchor g.flags.dollar)) rest
    | c :: rest => go (g.push (.char (g.flags.literal c))) rest

/-- The expression that a text stands for. -/
def Expr.read? (flags : Flags) (s : String) : Option Expr :=
  (scan patternStep ⟨[⟨flags, [], []⟩], []⟩ s.toList).map Prod.fst

end ChatModeration.Pattern
