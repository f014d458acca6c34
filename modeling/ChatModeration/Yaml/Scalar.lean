import ChatModeration.Text.Digits
import ChatModeration.Yaml.Cursor

/-!
# Scalars of a YAML text

The text of a scalar in each of the ways it may be written: plain, between quotes, or as a block of lines.
-/

namespace ChatModeration.Yaml

open Text (Next hexDigit? hexValue? charOf?)

/-- How a scalar is written. -/
inductive Style where
  | plain | quoted | literal | folded
deriving DecidableEq, Repr

/-- The characters that separate the parts of a collection between brackets. -/
def isFlowMark (c : Char) : Bool :=
  c == ',' || c == '[' || c == ']' || c == '\x7b' || c == '\x7d'

/-! ### Plain scalars -/

/-- The part of a plain scalar up to a blank or to what ends the scalar.  In a collection between brackets a colon must
not stand right before one of its marks. -/
def plainWord? (inFlow : Bool) : List Char → Option (List Char)
  | [] => some []
  | c :: rest =>
    if isBlank c || isBreak c then some []
    else if inFlow && c == ':' && rest.head?.any (fun d => isFlowMark d || d == '?') then none
    else if c == ':' && rest.head?.all (fun d => isBlank d || isBreak d) then some []
    else if inFlow && isFlowMark c then some []
    else (plainWord? inFlow rest).map (c :: ·)

/-- Takes a plain scalar whose lines are indented to at least the column `indent`.  The gap is the one after it. -/
def takePlain? (inFlow : Bool) (indent : Nat) (c : Cursor) : Option ((List Char × Gap) × Cursor) :=
  c.scan step ([], Gap.empty)
where
  /-- Takes one part and the gap after it. -/
  step (s : List Char × Gap) (c : Cursor) : Option (Next (List Char × Gap) (List Char × Gap) × Cursor) := do
    if c.atDocumentMark || c.sees (· == '#') 0 then
      return (.done s, c)
    let word ← plainWord? inFlow c.rest
    if word.isEmpty then
      return (.done s, c)
    let text := s.1 ++ s.2.folded ++ word
    let (gap, after) ← Gap.take? indent Gap.empty (c.skip word.length)
    if after.index == c.index + word.length || (!inFlow && after.column < indent) then
      return (.done (text, gap), after)
    return (.more (text, gap), after)

/-! ### Quoted scalars -/

/-- The characters that are written as a backslash and another character. -/
def escapes : List (Char × Char) :=
  [('0', '\x00'), ('a', '\x07'), ('b', '\x08'), ('t', '\t'), ('\t', '\t'), ('n', '\n'), ('v', '\x0b'), ('f', '\x0c'),
    ('r', '\r'), ('e', '\x1b'), (' ', ' '), ('"', '"'), ('/', '/'), ('\\', '\\'), ('N', '\u0085'), ('_', '\u00a0'),
    ('L', '\u2028'), ('P', '\u2029')]

/-- The character of an escape and how many characters it takes after the backslash. -/
def escape? (rest : List Char) : Option (Char × Nat) :=
  match rest with
  | [] => none
  | 'x' :: digits => numbered 2 digits
  | 'u' :: digits => numbered 4 digits
  | 'U' :: digits => numbered 8 digits
  | c :: _ => (escapes.lookup c).map (·, 1)
where
  /-- A character that is given by `n` hexadecimal digits. -/
  numbered (n : Nat) (digits : List Char) : Option (Char × Nat) := do
    let taken := digits.take n
    if taken.length == n then return (← charOf? (← hexValue? taken), n + 1)
    none

/-- Takes a scalar between quotes, from the place after the first one.  Only between double quotes there are
escapes. -/
def takeQuoted? (isDouble : Bool) (c : Cursor) : Option (List Char × Cursor) :=
  c.scan step []
where
  /-- Takes one character or one gap. -/
  step (text : List Char) (c : Cursor) : Option (Next (List Char) (List Char) × Cursor) := do
    if c.atDocumentMark then
      none
    match c.rest with
    | [] => none
    | ch :: rest =>
      if isBlank ch || isBreak ch then
        let (gap, after) ← Gap.take? 0 Gap.empty c
        return (.more (text ++ gap.folded), after)
      else if !isDouble && ch == '\'' then
        if rest.head? == some '\'' then return (.more (text ++ ['\'']), c.skip 2)
        return (.done text, c.skip 1)
      else if isDouble && ch == '"' then
        return (.done text, c.skip 1)
      else if isDouble && ch == '\\' then
        if rest.head?.any isBreak then
          let (gap, after) ← Gap.take? 0 Gap.escapedBreak (c.skip 1).takeBreak.2
          return (.more (text ++ gap.folded), after)
        let (e, n) ← escape? rest
        return (.more (text ++ [e]), c.skip (n + 1))
      else
        return (.more (text ++ [ch]), c.skip 1)

/-! ### Block scalars -/

/-- What becomes of the line breaks at the end of a block. -/
inductive Chomping where
  | strip | clip | keep
deriving DecidableEq, Repr

/-- The header of a block: what becomes of its last line breaks, and its indentation where it is given. -/
structure BlockHeader where
  chomping : Chomping
  indent : Option Nat

/-- The mark for a chomping. -/
def chomping? (c : Char) : Option Chomping :=
  if c == '+' then some .keep else if c == '-' then some .strip else none

/-- Takes the header of a block with the rest of its line.  An indentation of zero is an error. -/
def takeHeader? (c : Cursor) : Option (BlockHeader × Cursor) := do
  let (header, n) := marks (c.peek 0) (c.peek 1)
  if header.indent == some 0 then
    none
  let c := (c.skip n).skipWhile isBlank
  let c := if c.sees (· == '#') 0 then c.skipWhile (!isBreak ·) else c
  if c.rest.isEmpty then return (header, c)
  if c.sees isBreak 0 then return (header, c.takeBreak.2)
  none
where
  /-- The value of a digit. -/
  digit (c : Option Char) : Option Nat := c.bind fun c => if c.isDigit then hexDigit? c else none
  /-- The header that two characters make, and how many of them belong to it. -/
  marks (first second : Option Char) : BlockHeader × Nat :=
    match first.bind chomping?, digit first with
    | some chomping, _ => (⟨chomping, digit second⟩, if (digit second).isSome then 2 else 1)
    | none, some n =>
      match second.bind chomping? with
      | some chomping => (⟨chomping, some n⟩, 2)
      | none => (⟨.clip, some n⟩, 1)
    | none, none => (⟨.clip, none⟩, 0)

/-- Takes the empty lines before a line of a block and the indentation of this line.  Returns the widest indentation
seen and the line breaks.  Where the indentation is known, no more than that is taken. -/
def takeEmptyLines? (indent : Option Nat) (c : Cursor) : Option ((Nat × List Char) × Cursor) :=
  c.scan step (0, [])
where
  /-- Takes one empty line, or the indentation of a line that is not empty. -/
  step (s : Nat × List Char) (c : Cursor) : Option (Next (Nat × List Char) (Nat × List Char) × Cursor) := do
    let spaces := (c.rest.takeWhile (· == ' ')).length
    let after := c.skip ((indent.map fun i => min spaces (i - c.column)).getD spaces)
    let widest := max s.1 after.column
    if indent.all (after.column < ·) && after.sees (· == '\t') 0 then
      none
    if after.sees isBreak 0 then
      let (b, next) := after.takeBreak
      return (.more (widest, s.2 ++ b), next)
    return (.done (widest, s.2), after)

/-- The lines of a block that have been taken. -/
structure BlockLines where
  text : List Char
  /-- The line break after the last line, and those of the empty lines after it. -/
  ending : List Char
  further : List Char
  /-- Whether the last line starts with a blank. -/
  startsBlank : Bool

/-- The line breaks between the lines so far and the next one.  In a folded block a single line break between lines
that do not start with a blank is a space. -/
def BlockLines.joint (isFolded nextBlank : Bool) (b : BlockLines) : List Char :=
  if isFolded && b.ending.head? == some '\n' && !b.startsBlank && !nextBlank then
    if b.further.isEmpty then [' '] else b.further
  else b.ending ++ b.further

/-- Takes a block of lines, from the place after its mark.  `outer` is the column of the collection around it. -/
def takeBlock? (isFolded : Bool) (outer : Option Nat) (c : Cursor) : Option (List Char × Cursor) := do
  let (header, c) ← takeHeader? c
  let given := header.indent.map (outer.getD 0 + ·)
  let ((widest, breaks), c) ← takeEmptyLines? given c
  let indent := given.getD (max widest (max 1 (outer.elim 0 (· + 1))))
  let (lines, c) ← c.scan (step indent) ⟨[], [], breaks, false⟩
  let text := match header.chomping with
    | .strip => lines.text
    | .clip => lines.text ++ lines.ending
    | .keep => lines.text ++ lines.ending ++ lines.further
  return (text, c)
where
  /-- Takes one line and the empty lines after it. -/
  step (indent : Nat) (b : BlockLines) (c : Cursor) : Option (Next BlockLines BlockLines × Cursor) := do
    if c.column ≠ indent || c.rest.isEmpty then
      return (.done b, c)
    let startsBlank := c.sees isBlank 0
    let (line, afterLine) := c.takeWhile (!isBreak ·)
    let (ending, next) := afterLine.takeBreak
    let ((_, further), next) ← takeEmptyLines? (some indent) next
    return (.more ⟨b.text ++ b.joint isFolded startsBlank ++ line, ending, further, startsBlank⟩, next)

end ChatModeration.Yaml
