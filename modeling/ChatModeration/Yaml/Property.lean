import ChatModeration.Yaml.Token

/-!
# Tags, anchors and directives

How a tag, the name of an anchor, and a directive are taken from a YAML text.
-/

namespace ChatModeration.Yaml

open Text (Next hexValue?)

/-- A character that may stand in a tag; `wide` allows those that separate the parts of collections too. -/
def isTagChar (wide : Bool) (c : Char) : Bool :=
  isWordChar c || ";/?:@&=+$.!~*'()".contains c || (wide && (c == ',' || c == '[' || c == ']'))

/-- The octets of percent escapes at the beginning of a text, and how many escapes there are. -/
def percentOctets : List Char → List UInt8
  | '%' :: a :: b :: rest =>
    match hexValue? [a, b] with
    | some n => n.toUInt8 :: percentOctets rest
    | none => []
  | _ => []

/-- Takes the characters of a tag, where escapes stand for the octets of a text. -/
def takeTagChars? (wide : Bool) (c : Cursor) : Option (List Char × Cursor) :=
  c.scan step []
where
  /-- Takes some characters or a row of escapes. -/
  step (text : List Char) (c : Cursor) : Option (Next (List Char) (List Char) × Cursor) := do
    if c.sees (· == '%') 0 then
      let octets := percentOctets c.rest
      if octets.isEmpty then
        none
      let s ← String.fromUTF8? ⟨octets.toArray⟩
      return (.more (text ++ s.toList), c.skip (3 * octets.length))
    let (taken, after) := c.takeWhile (isTagChar wide)
    if taken.isEmpty then return (.done text, c)
    return (.more (text ++ taken), after)

/-- Takes the handle of a tag: a mark, or a name between two marks.  Without the second mark it is no handle, but the
beginning of a tag. -/
def takeHandle? (c : Cursor) : Option (List Char × Cursor) :=
  if c.sees (· == '!') 0 then
    let (name, after) := (c.skip 1).takeWhile isWordChar
    if after.sees (· == '!') 0 then some ('!' :: name ++ ['!'], after.skip 1) else some ('!' :: name, after)
  else none

/-- Takes a tag. -/
def takeTag? (inFlow : Bool) (c : Cursor) : Option (TagText × Cursor) := do
  let (tag, after) ← if c.sees (· == '<') 1 then whole (c.skip 2) else shortened c
  if after.isFreeAt 0 || (inFlow && after.sees (· == ',') 0) then return (tag, after)
  none
where
  /-- A tag that is written out between angle brackets. -/
  whole (c : Cursor) : Option (TagText × Cursor) := do
    let (suffix, after) ← takeTagChars? true c
    if suffix.isEmpty || !after.sees (· == '>') 0 then
      none
    return (⟨[], suffix⟩, after.skip 1)
  /-- A tag with a handle. -/
  shortened (c : Cursor) : Option (TagText × Cursor) := do
    let (handle, after) ← takeHandle? c
    let (suffix, after) ← takeTagChars? false after
    if 1 < handle.length && handle.getLast? == some '!' then
      if suffix.isEmpty then
        none
      return (⟨handle, suffix⟩, after)
    let suffix := handle.drop 1 ++ suffix
    return (if suffix.isEmpty then ⟨[], ['!']⟩ else ⟨['!'], suffix⟩, after)

/-- The largest number of digits of a part of a version. -/
def versionDigits : Nat := 9

/-- Takes a number of a version. -/
def takeVersionPart? (c : Cursor) : Option (Nat × Cursor) :=
  let (digits, after) := c.takeWhile Char.isDigit
  if digits.isEmpty || versionDigits < digits.length then none
  else some (Text.valueOfDigits digits, after)

/-- Takes a directive, from the place after its mark, with the rest of its line.  Only versions 1.1 and 1.2 are
known. -/
def takeDirective? (c : Cursor) : Option (Token × Cursor) := do
  let (name, c) := c.takeWhile isWordChar
  if !c.isFreeAt 0 then
    none
  let c := c.skipWhile isBlank
  let (token, c) ← match String.ofList name with
    | "YAML" => version c
    | "TAG" => handle c
    | _ => none
  let c := c.skipWhile isBlank
  let c := if c.sees (· == '#') 0 then c.skipWhile (!isBreak ·) else c
  if c.rest.isEmpty then return (token, c)
  if c.sees isBreak 0 then return (token, c.takeBreak.2)
  none
where
  /-- The directive for a version. -/
  version (c : Cursor) : Option (Token × Cursor) := do
    let (major, c) ← takeVersionPart? c
    if !c.sees (· == '.') 0 then
      none
    let (minor, c) ← takeVersionPart? (c.skip 1)
    if major == 1 && (minor == 1 || minor == 2) then return (.versionDirective, c)
    none
  /-- The directive for a handle. -/
  handle (c : Cursor) : Option (Token × Cursor) := do
    let (handle, c) ← takeHandle? c
    if handle ≠ ['!'] && handle.getLast? ≠ some '!' then
      none
    if !c.sees isBlank 0 then
      none
    let (start, c) ← takeTagChars? true (c.skipWhile isBlank)
    if start.isEmpty || !c.isFreeAt 0 then
      none
    return (.tagDirective handle start, c)

/-- The characters that may follow the name of an anchor. -/
def anchorEnds : List Char := ['?', ':', ',', ']', '\x7d', '%', '@', '\x60']

/-- Takes the name of an anchor. -/
def takeAnchor? (c : Cursor) : Option (List Char × Cursor) :=
  let (name, after) := c.takeWhile isWordChar
  if name.isEmpty then none
  else if after.isFreeAt 0 || after.sees anchorEnds.contains 0 then some (name, after)
  else none

end ChatModeration.Yaml
