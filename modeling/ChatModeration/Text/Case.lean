import ChatModeration.Text.CaseTable
import ChatModeration.Text.Category
import ChatModeration.Text.CodeTable

/-!
# Letter case

The lowercase form of a character (`lowerChar`) and of a text (`lowercase`), and case folding, which says when two
characters differ in case only (`caseFold`, `caseVariants`).  Of all characters only U+0130 has a lowercase form of
two characters.  In a text, a capital sigma at the end of a word becomes the final sigma.
-/

namespace ChatModeration.Text

/-- The image of the first character of a range and the distance between the characters mapped. -/
structure CaseShift where
  image : Nat
  step : Nat
deriving Repr

/-- A row of three groups of six digits and one digit: the range, the image of its first character, the distance. -/
def CaseShift.ofRow (row : Nat) : CodeRange CaseShift :=
  ⟨row / 0x10000000000000, row / 0x10000000 % 0x1000000, ⟨row / 0x10 % 0x1000000, row % 0x10⟩⟩

/-- The image of a code point of the range, if it is one of those mapped. -/
def CodeRange.mapped? (r : CodeRange CaseShift) (c : Nat) : Option Nat :=
  if r.first ≤ c ∧ c ≤ r.last ∧ (c - r.first) % r.value.step = 0 then some (r.value.image + (c - r.first)) else none

/-- The code point of the range whose image is `d`. -/
def CodeRange.preimage? (r : CodeRange CaseShift) (d : Nat) : Option Nat :=
  if r.value.image ≤ d ∧ d - r.value.image ≤ r.last - r.first ∧ (d - r.value.image) % r.value.step = 0 then
    some (r.first + (d - r.value.image))
  else none

/-- The lowercase mappings to a single character. -/
def lowerTable : CodeTable CaseShift := (lowerRows.map CaseShift.ofRow).toArray

/-- Simple case folding. -/
def foldTable : CodeTable CaseShift := (foldRows.map CaseShift.ofRow).toArray

/-- The image of `c` under a table of case mappings; a character that the table does not map is its own image. -/
def CodeTable.image (t : CodeTable CaseShift) (c : Char) : Char :=
  match (t.find? c.toNat).bind (·.mapped? c.toNat) with
  | some n => Char.ofNat n
  | none => c

/-- The lowercase form of a character. -/
def lowerChar (c : Char) : List Char :=
  if c.toNat < 0x80 then [c.toLower]
  else if c = '\u0130' then ['i', '\u0307']
  else [lowerTable.image c]

/-- The representative of the characters that differ from `c` in case only. -/
def caseFold (c : Char) : Char := foldTable.image c

/-- All characters that differ from `c` at most in case. -/
def caseVariants (c : Char) : List Char :=
  if c.toNat < 0x80 then
    match c.toLower with
    | 'k' => ['k', 'K', '\u212A']
    | 's' => ['s', 'S', '\u017F']
    | d => if c.isAlpha then [d, c.toUpper] else [c]
  else
    let d := caseFold c
    d :: (foldTable.toList.filterMap (·.preimage? d.toNat)).map Char.ofNat

/-- Whether the first character that case mapping does not look through has case. -/
def startsCased (cs : List Char) : Bool :=
  match cs.dropWhile isCaseIgnorable with
  | [] => false
  | c :: _ => isCased c

/-- The lowercase form of the characters after `before`, which is given in reverse order. -/
def lowercaseFrom (before : List Char) : List Char → List Char
  | [] => []
  | c :: cs =>
    let lower :=
      if c = 'Σ' then [if startsCased before && !startsCased cs then 'ς' else 'σ'] else lowerChar c
    lower ++ lowercaseFrom (c :: before) cs

/-- The lowercase form of a text. -/
def lowercase (s : String) : String := String.ofList (lowercaseFrom [] s.toList)

end ChatModeration.Text
