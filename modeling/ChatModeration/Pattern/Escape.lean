import ChatModeration.Pattern.Expr
import ChatModeration.Pattern.Names
import ChatModeration.Text.Blank
import ChatModeration.Text.Digits

/-!
# Escapes in patterns

What a backslash and the characters after it stand for: a character, a set of characters or a condition on the place
(`readEscape`).  The flags decide about letter case and about the meaning of classes.
-/

namespace ChatModeration.Pattern

open Text (isBlank isAlphabetic isAlphanumeric)

/-- The settings under which a part of a pattern is read. -/
structure Flags where
  /-- Letters match without regard to case. -/
  ignoreCase : Bool := false
  /-- `^` and `$` match at the ends of lines. -/
  multiLine : Bool := false
  /-- `.` matches a line feed too. -/
  dotAll : Bool := false
  /-- Repetitions are lazy unless marked. -/
  swapGreed : Bool := false
  /-- Classes have all characters, not the ASCII ones only. -/
  unicode : Bool := true
  /-- A carriage return ends a line too. -/
  crlf : Bool := false
  /-- Blank characters and comments are left out. -/
  verbose : Bool := false
deriving DecidableEq, Repr

/-- The set of one character. -/
def Flags.literal (flags : Flags) (c : Char) : CharSet :=
  if flags.ignoreCase then .folded (!flags.unicode) (.single c) else .single c

/-- A set that regards or disregards case, and its complement if it is negated. -/
def Flags.close (flags : Flags) (negated : Bool) (set : CharSet) : CharSet :=
  let folded := if flags.ignoreCase then CharSet.folded (!flags.unicode) set else set
  if negated then .compl folded else folded

/-- What a pattern writes as one item without parts. -/
inductive Item where
  | literal (c : Char)
  | set (s : CharSet)
  | anchor (a : Anchor)

/-- Leaves out blank characters and comments; `inComment` says whether a comment has begun. -/
def skipVerbose (inComment : Bool) : List Char → List Char
  | [] => []
  | c :: cs =>
    if inComment then skipVerbose (c != '\n') cs
    else if isBlank c then skipVerbose false cs
    else if c == '#' then skipVerbose true cs
    else c :: cs

/-- Leaves out what the flags let a pattern leave out. -/
def Flags.skip (flags : Flags) (cs : List Char) : List Char :=
  if flags.verbose then skipVerbose false cs else cs

/-- The characters with a meaning of their own. -/
def isMeta (c : Char) : Bool := "\\.+*?()|[]\x7b\x7d^$#&-~".toList.contains c

/-- Whether a backslash before the character makes it stand for itself. -/
def isEscapable (c : Char) : Bool :=
  isMeta c || (c.toNat < 0x80 && !c.isAlphanum && c != '<' && c != '>')

/-- A number of hexadecimal digits, and what follows them. -/
def hexDigits (flags : Flags) (value : Nat) : Nat → List Char → Option (Nat × List Char)
  | 0, cs => some (value, cs)
  | _, [] => none
  | n + 1, c :: cs => do
    let d ← Text.hexDigit? c
    hexDigits flags (value * 16 + d) n (flags.skip cs)

/-- The text up to a closing brace, where blanks are left out as the flags say, and what follows the brace. -/
def untilBrace (flags : Flags) (cs : List Char) : Option (List Char × List Char) :=
  let body := cs.takeWhile (· != '\x7d')
  match cs.dropWhile (· != '\x7d') with
  | [] => none
  | _ :: rest => some (if flags.verbose then stripped false body else body, rest)
where
  /-- The text without blank characters and comments. -/
  stripped (inComment : Bool) : List Char → List Char
    | [] => []
    | c :: cs =>
      if inComment then stripped (c != '\n') cs
      else if isBlank c then stripped false cs
      else if c == '#' then stripped true cs
      else c :: stripped false cs

/-- The character written by its code point in braces. -/
def bracedCode (flags : Flags) (cs : List Char) : Option (Char × List Char) := do
  let (digits, rest) ← untilBrace flags cs
  if digits.isEmpty then none
  let value ← Text.hexValue? digits
  return (← Text.charOf? value, rest)

/-- The character written by its code point, after the letter that says how many digits it has. -/
def readCode (flags : Flags) (letter : Char) (cs : List Char) : Option (Char × List Char) :=
  match flags.skip cs with
  | '\x7b' :: rest => bracedCode flags rest
  | cs => do
    let (n, rest) ← hexDigits flags 0 (if letter = 'x' then 2 else if letter = 'u' then 4 else 8) cs
    if letter = 'x' ∧ !flags.unicode ∧ 0x7F < n then none
    return (← Text.charOf? n, rest)

/-- A property class, after the letter that begins it. -/
def readProperty (flags : Flags) (negated : Bool) (cs : List Char) : Option (CharSet × List Char) :=
  if !flags.unicode then none
  else
    match flags.skip cs with
    | [] => none
    | '\x7b' :: rest => do
      let (name, rest) ← untilBrace flags rest
      return (flags.close negated (← propertyNamed name), rest)
    | c :: rest => do
      if c = '\\' then none
      return (flags.close negated (← binaryNamed [c]), rest)

/-- The class of a letter such as `d`, negated if the letter is a capital one. -/
def readClass (flags : Flags) (letter : Char) : Option CharSet := do
  let set ←
    match letter.toLower, flags.unicode with
    | 'd', true => some (CharSet.property (.categories [.decimalNumber]))
    | 's', true => some (.property .blank)
    | 'w', true => some (.property .word)
    | 'd', false => asciiClassNamed "digit"
    | 's', false => asciiClassNamed "space"
    | 'w', false => asciiClassNamed "word"
    | _, _ => none
  if letter.isUpper then
    if flags.unicode then some (.compl set) else none
  else some set

/-- The condition with a name in braces after `b`, if the braces hold a name at all. -/
def readBoundary (flags : Flags) (cs : List Char) : Option (Boundary × List Char) :=
  match cs with
  | '\x7b' :: rest =>
    match flags.skip rest with
    | [] => none
    | c :: _ =>
      if c.isAlpha || c == '-' then do
        let (name, rest) ← untilBrace flags rest
        match String.ofList name with
        | "start" => some (.wordStart, rest)
        | "end" => some (.wordEnd, rest)
        | "start-half" => some (.startHalf, rest)
        | "end-half" => some (.endHalf, rest)
        | _ => none
      else some (.edge, cs)
  | _ => some (.edge, cs)

/-- What an escape stands for, given the text after its backslash, and what follows it. -/
def readEscape (flags : Flags) : List Char → Option (Item × List Char)
  | [] => none
  | c :: cs =>
    if c = 'x' ∨ c = 'u' ∨ c = 'U' then (readCode flags c cs).map fun (d, rest) => (.literal d, rest)
    else if c = 'p' ∨ c = 'P' then (readProperty flags (c = 'P') cs).map fun (s, rest) => (.set s, rest)
    else if "dswDSW".toList.contains c then (readClass flags c).map fun s => (.set s, cs)
    else if isEscapable c then some (.literal c, cs)
    else
      match c with
      | 'a' => some (.literal '\x07', cs)
      | 'f' => some (.literal '\x0C', cs)
      | 't' => some (.literal '\t', cs)
      | 'n' => some (.literal '\n', cs)
      | 'r' => some (.literal '\r', cs)
      | 'v' => some (.literal '\x0B', cs)
      | 'A' => some (.anchor .textStart, cs)
      | 'z' => some (.anchor .textEnd, cs)
      | 'b' => (readBoundary flags cs).map fun (b, rest) => (.anchor (.word (!flags.unicode) b), rest)
      | 'B' => some (.anchor (.word (!flags.unicode) .notEdge), cs)
      | '<' => some (.anchor (.word (!flags.unicode) .wordStart), cs)
      | '>' => some (.anchor (.word (!flags.unicode) .wordEnd), cs)
      | _ => none

end ChatModeration.Pattern
