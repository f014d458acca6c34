import ChatModeration.Text.Scan

/-!
# Places in a YAML text

A `Cursor` is a place in a text, with the line and the column that it is in; `Cursor.scan` repeats a step that takes
some of the text.  A `Gap` is the blanks and line breaks between two parts of a scalar, which count as the text
`Gap.folded`.
-/

namespace ChatModeration.Yaml

/-- A character that a YAML text may hold. -/
def isAllowed (c : Char) : Bool :=
  let n := c.toNat
  n == 0x09 || n == 0x0A || n == 0x0D || (0x20 ≤ n && n ≤ 0x7E) || n == 0x85 || (0xA0 ≤ n && n ≤ 0xFFFD) ||
    0x10000 ≤ n

/-- The mark that may stand before the first character of a text. -/
def byteOrderMark : Char := '\uFEFF'

/-- A character that ends a line. -/
def isBreak (c : Char) : Bool :=
  c == '\n' || c == '\r' || c == '\u0085' || c == '\u2028' || c == '\u2029'

/-- A blank within a line. -/
def isBlank (c : Char) : Bool := c == ' ' || c == '\t'

/-- A character of names. -/
def isWordChar (c : Char) : Bool := c.isAlphanum || c == '_' || c == '-'

/-- A place in a text: what is left of it, how many characters, lines and characters of the line are before it. -/
structure Cursor where
  rest : List Char
  index : Nat
  line : Nat
  column : Nat

namespace Cursor

/-- The place where a text starts. -/
def start (text : List Char) : Cursor := ⟨text, 0, 0, 0⟩

/-- The place `n` characters further in the line. -/
def skip (n : Nat) (c : Cursor) : Cursor := ⟨c.rest.drop n, c.index + n, c.line, c.column + n⟩

/-- The characters from here on that satisfy `p`, and the place after them. -/
def takeWhile (p : Char → Bool) (c : Cursor) : List Char × Cursor :=
  let taken := c.rest.takeWhile p
  (taken, c.skip taken.length)

/-- The place after the characters that satisfy `p`. -/
def skipWhile (p : Char → Bool) (c : Cursor) : Cursor := (c.takeWhile p).2

/-- The place at the start of the next line, if `n` characters make the line break here. -/
def newLine (n : Nat) (c : Cursor) : Cursor := ⟨c.rest.drop n, c.index + n, c.line + 1, 0⟩

/-- The line break that stands here, as it counts in a scalar, and the place after it. -/
def takeBreak (c : Cursor) : List Char × Cursor :=
  match c.rest with
  | '\r' :: '\n' :: _ => (['\n'], c.newLine 2)
  | '\r' :: _ | '\n' :: _ | '\u0085' :: _ => (['\n'], c.newLine 1)
  | '\u2028' :: _ => (['\u2028'], c.newLine 1)
  | '\u2029' :: _ => (['\u2029'], c.newLine 1)
  | _ => ([], c)

/-- The character `n` places further. -/
def peek (n : Nat) (c : Cursor) : Option Char := c.rest[n]?

/-- Whether the character `n` places further, if there is one, satisfies `p`. -/
def sees (p : Char → Bool) (n : Nat) (c : Cursor) : Bool := (c.peek n).any p

/-- Whether a blank, a line break or the end of the text is `n` places further. -/
def isFreeAt (n : Nat) (c : Cursor) : Bool := (c.peek n).all fun ch => isBlank ch || isBreak ch

/-- Whether a line starts here with one of the marks between documents. -/
def atDocumentMark (c : Cursor) : Bool :=
  c.column == 0 && (c.rest.take 3 == ['-', '-', '-'] || c.rest.take 3 == ['.', '.', '.']) && c.isFreeAt 3

/-- Repeats a step and returns its result and the place after it. -/
def scan {σ α : Type} (step : σ → Cursor → Option (Text.Next σ α × Cursor)) (state : σ) (c : Cursor) :
    Option (α × Cursor) :=
  match step state c with
  | none => none
  | some (.done a, after) => some (a, after)
  | some (.more state, after) => if after.rest.length < c.rest.length then scan step state after else none
termination_by c.rest.length

end Cursor

/-! ### Gaps in scalars -/

/-- Blanks and line breaks between two parts of a scalar. -/
structure Gap where
  /-- The blanks before the first line break. -/
  blanks : List Char
  /-- The first line break, if there is one; an escaped one is empty. -/
  first : Option (List Char)
  /-- The line breaks after the first one. -/
  further : List Char

namespace Gap

/-- Nothing. -/
def empty : Gap := ⟨[], none, []⟩

/-- An escaped line break. -/
def escapedBreak : Gap := ⟨[], some [], []⟩

/-- Whether there is a line break. -/
def isBroken (g : Gap) : Bool := g.first.isSome

/-- The text that a gap counts as.  A single line break is a space, and of several the first one does not count. -/
def folded (g : Gap) : List Char :=
  match g.first with
  | none => g.blanks
  | some ['\n'] => if g.further.isEmpty then [' '] else g.further
  | some b => b ++ g.further

/-- Adds the line break `b`. -/
def addBreak (b : List Char) (g : Gap) : Gap :=
  match g.first with
  | none => { g with first := some b }
  | some _ => { g with further := g.further ++ b }

/-- Takes a gap, after the part of it that is known.  A tab before the column `indent` of a later line is an error. -/
def take? (indent : Nat) (known : Gap) (c : Cursor) : Option (Gap × Cursor) :=
  c.scan step known
where
  /-- Takes one blank or line break. -/
  step (g : Gap) (c : Cursor) : Option (Text.Next Gap Gap × Cursor) :=
    match c.rest with
    | [] => some (.done g, c)
    | ch :: _ =>
      if isBlank ch then
        if !g.isBroken then some (.more { g with blanks := g.blanks ++ [ch] }, c.skip 1)
        else if ch == '\t' && c.column < indent then none
        else some (.more g, c.skip 1)
      else if isBreak ch then
        let (b, after) := c.takeBreak
        some (.more (g.addBreak b), after)
      else some (.done g, c)

end Gap

end ChatModeration.Yaml
