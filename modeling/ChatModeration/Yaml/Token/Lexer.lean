import ChatModeration.Yaml.Property

/-!
# Splitting a YAML text into tokens

`Token.read?` splits a text into tokens.  A `Lexer` is a text that has been split up to some place; each of its
functions reads one kind of token, and `Lexer.step` the next token whatever it is.
-/

namespace ChatModeration.Yaml

open Text (Next)

/-- The beginning of what may turn out to be a key. -/
structure KeyStart where
  /-- How many tokens there are before it. -/
  position : Nat
  place : Cursor
  /-- Whether nothing else than a key may stand there. -/
  isRequired : Bool

/-- The most characters that a key without a mark of its own may have. -/
def keyLimit : Nat := 1024

/-- A text that has been split into tokens up to some place. -/
structure Lexer where
  place : Cursor
  tokens : List Token
  /-- The columns of the block collections around the place, innermost first. -/
  columns : List Nat
  /-- What may be a key, in the block and in each pair of brackets around the place, innermost first. -/
  keys : List (Option KeyStart)
  /-- Whether a key may start here. -/
  keyAllowed : Bool

namespace Lexer

/-- A text of which nothing has been read. -/
def start (text : List Char) : Lexer :=
  ⟨.start (if text.head? == some byteOrderMark then text.drop 1 else text), [], [], [none], true⟩

/-- Whether the place is between brackets. -/
def inFlow (x : Lexer) : Bool := 1 < x.keys.length

/-- The least column of the lines of a scalar. -/
def indent (x : Lexer) : Nat := x.columns.head?.elim 0 (· + 1)

/-- Adds a token. -/
def push (t : Token) (x : Lexer) : Lexer := { x with tokens := x.tokens ++ [t] }

/-- Goes to a place. -/
def goTo (place : Cursor) (x : Lexer) : Lexer := { x with place }

/-- Says whether a key may start. -/
def allowKey (keyAllowed : Bool) (x : Lexer) : Lexer := { x with keyAllowed }

/-- Gives up what might have been a key, which is an error if it has to be one. -/
def dropKey? (x : Lexer) : Option Lexer :=
  match x.keys with
  | some k :: outer => if k.isRequired then none else some { x with keys := none :: outer }
  | _ => some x

/-- Notes that a key may start here. -/
def noteKey? (x : Lexer) : Option Lexer :=
  if x.keyAllowed then do
    let x ← x.dropKey?
    let isRequired := !x.inFlow && x.columns.head? == some x.place.column
    return { x with keys := some ⟨x.tokens.length, x.place, isRequired⟩ :: x.keys.drop 1 }
  else some x

/-- Gives up keys that began on an earlier line or too far back. -/
def dropOldKeys? (x : Lexer) : Option Lexer := do
  return { x with keys := ← x.keys.mapM age }
where
  /-- What becomes of one of them. -/
  age : Option KeyStart → Option (Option KeyStart)
    | none => some none
    | some k =>
      if k.place.line < x.place.line || k.place.index + keyLimit < x.place.index then
        if k.isRequired then none else some none
      else some (some k)

/-- Opens a block collection at a column, unless one is open there; its token goes to the given position. -/
def openBlock (column position : Nat) (t : Token) (x : Lexer) : Lexer :=
  if x.inFlow || x.columns.head?.any (column ≤ ·) then x
  else { x with columns := column :: x.columns, tokens := x.tokens.insertIdx position t }

/-- Closes the block collections that are further right than `column`. -/
def closeBlocks (column : Nat) (x : Lexer) : Lexer :=
  if x.inFlow then x
  else
    { x with
      columns := x.columns.dropWhile (column < ·)
      tokens := x.tokens ++ (x.columns.takeWhile (column < ·)).map fun _ => .blockEnd }

/-- Closes all block collections. -/
def closeAllBlocks (x : Lexer) : Lexer :=
  if x.inFlow then x else { x with columns := [], tokens := x.tokens ++ x.columns.map fun _ => .blockEnd }

/-- Goes over blanks, comments and line breaks.  In a block a key may start after a line break, and a tab may not stand
where a key may start. -/
def skipGap? (x : Lexer) : Option Lexer :=
  (x.place.scan step x.keyAllowed).map fun (keyAllowed, place) => { x with place, keyAllowed }
where
  /-- Takes the rest of one line. -/
  step (allowed : Bool) (c : Cursor) : Option (Next Bool Bool × Cursor) :=
    let c := c.skipWhile fun ch => ch == ' ' || ((x.inFlow || !allowed) && ch == '\t')
    let c := if c.sees (· == '#') 0 then c.skipWhile (!isBreak ·) else c
    if c.sees isBreak 0 then some (.more (allowed || !x.inFlow), c.takeBreak.2) else some (.done allowed, c)

/-! ### Single tokens -/

/-- A mark of `n` characters. -/
def mark (t : Token) (n : Nat) (x : Lexer) : Lexer := (x.goTo (x.place.skip n)).push t

/-- A mark between documents. -/
def documentMark? (t : Token) (x : Lexer) : Option Lexer := do
  return ((← x.closeAllBlocks.dropKey?).allowKey false).mark t 3

/-- A directive. -/
def directive? (x : Lexer) : Option Lexer := do
  let x := (← x.closeAllBlocks.dropKey?).allowKey false
  let (t, after) ← takeDirective? (x.place.skip 1)
  return (x.goTo after).push t

/-- An opening bracket. -/
def openFlow? (t : Token) (x : Lexer) : Option Lexer := do
  let x ← x.noteKey?
  return ({ x with keys := none :: x.keys, keyAllowed := true }).mark t 1

/-- A closing bracket. -/
def closeFlow? (t : Token) (x : Lexer) : Option Lexer := do
  let x ← x.dropKey?
  return ({ x with keys := if x.inFlow then x.keys.drop 1 else x.keys, keyAllowed := false }).mark t 1

/-- A comma. -/
def flowEntry? (x : Lexer) : Option Lexer := do
  return ((← x.dropKey?).allowKey true).mark .flowEntry 1

/-- Opens a block collection here, which is an error where no key may start. -/
def openBlockHere? (t : Token) (x : Lexer) : Option Lexer :=
  if x.inFlow then some x
  else if x.keyAllowed then some (x.openBlock x.place.column x.tokens.length t)
  else none

/-- The dash before an item. -/
def blockEntry? (x : Lexer) : Option Lexer := do
  return ((← (← x.openBlockHere? .blockSequenceStart).dropKey?).allowKey true).mark .blockEntry 1

/-- The mark before a key. -/
def key? (x : Lexer) : Option Lexer := do
  let x ← (← x.openBlockHere? .blockMappingStart).dropKey?
  return (x.allowKey !x.inFlow).mark .key 1

/-- The colon before a value.  What stands before it becomes its key, if it can be one. -/
def value? (x : Lexer) : Option Lexer := do
  match x.keys with
  | some k :: outer =>
    let x := { x with tokens := x.tokens.insertIdx k.position .key, keys := none :: outer, keyAllowed := false }
    return (x.openBlock k.place.column k.position .blockMappingStart).mark .value 1
  | _ =>
    let x ← x.openBlockHere? .blockMappingStart
    return (x.allowKey !x.inFlow).mark .value 1

/-- A token that may begin a key. -/
def content? (take : Lexer → Option (Token × Cursor)) (x : Lexer) : Option Lexer := do
  let x ← x.noteKey?
  let (t, after) ← take x
  return ((x.allowKey false).goTo after).push t

/-- A block scalar. -/
def block? (style : Style) (x : Lexer) : Option Lexer := do
  let x := (← x.dropKey?).allowKey true
  let (text, after) ← takeBlock? (style == .folded) x.columns.head? (x.place.skip 1)
  return (x.goTo after).push (.scalar style text)

/-- A scalar between quotes. -/
def quoted? (isDouble : Bool) : Lexer → Option Lexer :=
  content? fun x => (takeQuoted? isDouble (x.place.skip 1)).map fun (text, after) => (.scalar .quoted text, after)

/-- A plain scalar.  If it ends with a line, a key may start after it. -/
def plain? (x : Lexer) : Option Lexer := do
  let x ← x.noteKey?
  let ((text, gap), after) ← takePlain? x.inFlow x.indent x.place
  return ((x.allowKey gap.isBroken).goTo after).push (.scalar .plain text)

/-- The characters that no plain scalar starts with, a few exceptions apart. -/
def indicators : List Char :=
  ['-', '?', ':', ',', '[', ']', '\x7b', '\x7d', '#', '&', '*', '!', '|', '>', '\'', '"', '%', '@', '\x60']

/-- Whether a plain scalar may start here. -/
def startsPlain (x : Lexer) : Bool :=
  let c := x.place
  c.sees (!indicators.contains ·) 0 || (c.sees (· == '-') 0 && !c.sees isBlank 1) ||
    (!x.inFlow && c.sees (fun ch => ch == '?' || ch == ':') 0 && !c.isFreeAt 1)

/-- Reads the token that starts with the character `c` here. -/
def token? (c : Char) (x : Lexer) : Option Lexer :=
  let isMark := x.inFlow || x.place.isFreeAt 1
  if c == '%' && x.place.column == 0 then x.directive?
  else if x.place.atDocumentMark then x.documentMark? (if c == '-' then .documentStart else .documentEnd)
  else
    match c with
    | '[' => x.openFlow? .flowSequenceStart
    | ']' => x.closeFlow? .flowSequenceEnd
    | '\x7b' => x.openFlow? .flowMappingStart
    | '\x7d' => x.closeFlow? .flowMappingEnd
    | ',' => x.flowEntry?
    | '*' => x.content? fun x => (takeAnchor? (x.place.skip 1)).map fun (name, after) => (.alias name, after)
    | '&' => x.content? fun x => (takeAnchor? (x.place.skip 1)).map fun (name, after) => (.anchor name, after)
    | '!' => x.content? fun x => (takeTag? x.inFlow x.place).map fun (tag, after) => (.tag tag, after)
    | '\'' => x.quoted? false
    | '"' => x.quoted? true
    | _ =>
      if c == '-' && x.place.isFreeAt 1 then x.blockEntry?
      else if c == '?' && isMark then x.key?
      else if c == ':' && isMark then x.value?
      else if c == '|' && !x.inFlow then x.block? .literal
      else if c == '>' && !x.inFlow then x.block? .folded
      else if x.startsPlain then x.plain?
      else none

/-- Reads the next token with the gap before it, or the end of the text. -/
def step (x : Lexer) (c : Cursor) : Option (Next Lexer (List Token) × Cursor) := do
  let x ← (← x.skipGap?).dropOldKeys?
  match x.place.rest with
  | [] => return (.done (← x.closeAllBlocks.dropKey?).tokens, c)
  | ch :: _ =>
    let x ← (x.closeBlocks x.place.column).token? ch
    return (.more x, x.place)

end Lexer

/-- The tokens of a text. -/
def Token.read? (text : List Char) : Option (List Token) :=
  let start := Lexer.start text
  if text.all isAllowed then (start.place.scan Lexer.step start).map (·.1) else none

end ChatModeration.Yaml
