import ChatModeration.Text.CodeTable
import ChatModeration.Text.CompositionTable
import ChatModeration.Text.Decomposition.Ideographs
import ChatModeration.Text.Decomposition.Letters
import ChatModeration.Text.Decomposition.Presentation
import ChatModeration.Text.Decomposition.Shifts
import ChatModeration.Text.Decomposition.Supplement
import ChatModeration.Text.Decomposition.SupplementaryIdeographs
import ChatModeration.Text.Decomposition.Symbols
import ChatModeration.Text.MarkTable

/-!
# Compatibility composition

The Unicode normal form in which every character is replaced by its compatibility decomposition (`decompose`),
combining marks are put into canonical order (`order`) and characters are composed again (`compose`).  The three steps
together are `compatibilityForm`.  Hangul syllables are taken apart and put together by arithmetic.
-/

namespace ChatModeration.Text

/-- The canonical combining class of a character; zero for a character that is no mark. -/
def combiningClass (c : Char) : Nat :=
  if c.toNat < 0x300 then 0
  else
    match markTable.find? c.toNat with
    | some r => r.value
    | none => 0
where
  /-- The ranges with a class other than zero. -/
  markTable : CodeTable Nat := (combiningRows.map CodeRange.ofValueRow).toArray

/-! ### Decomposition -/

/-- The ranges that decompose into ranges of single characters. -/
def shiftTable : CodeTable Nat := (Decomposition.shiftRows.map CodeRange.ofShiftRow).toArray

/-- One character and its decomposition, from the groups of a row. -/
def expansionOfRow (row : Nat) : CodeRange (List Char) :=
  match groups row with
  | [] => ⟨0, 0, []⟩
  | c :: ds => ⟨c, c, ds.map Char.ofNat⟩

/-- The characters with a decomposition of their own. -/
def expansionTable : CodeTable (List Char) :=
  ((Decomposition.latinRows ++ Decomposition.southernRows ++ Decomposition.additionalLatinRows ++
    Decomposition.extendedGreekRows ++ Decomposition.symbolRows ++ Decomposition.radicalRows ++
    Decomposition.enclosedRows ++ Decomposition.squaredRows ++ Decomposition.modifierRows ++
    Decomposition.compatibilityRows ++ Decomposition.furtherRows ++ Decomposition.ligatureRows ++
    Decomposition.arabicRows ++ Decomposition.contextualRows ++ Decomposition.scriptRows ++
    Decomposition.mathematicalRows ++ Decomposition.firstRows ++
    Decomposition.secondRows).map expansionOfRow).toArray

/-- The code point of the first Hangul syllable. -/
def syllableBase : Nat := 0xAC00
/-- The code point of the first leading consonant. -/
def leadBase : Nat := 0x1100
/-- The code point of the first vowel. -/
def vowelBase : Nat := 0x1161
/-- The code point before the first trailing consonant. -/
def trailBase : Nat := 0x11A7
/-- The number of leading consonants. -/
def leadCount : Nat := 19
/-- The number of vowels. -/
def vowelCount : Nat := 21
/-- The number of trailing consonants, and one for none. -/
def trailCount : Nat := 28

/-- The number of Hangul syllables. -/
def syllableCount : Nat := leadCount * vowelCount * trailCount

/-- The full compatibility decomposition of a character. -/
def decompose (c : Char) : List Char :=
  let n := c.toNat
  if n < 0xA0 then [c]
  else if syllableBase ≤ n ∧ n < syllableBase + syllableCount then
    let i := n - syllableBase
    let lead := Char.ofNat (leadBase + i / (vowelCount * trailCount))
    let vowel := Char.ofNat (vowelBase + i / trailCount % vowelCount)
    if i % trailCount = 0 then [lead, vowel] else [lead, vowel, Char.ofNat (trailBase + i % trailCount)]
  else
    match shiftTable.find? n with
    | some r => [Char.ofNat (r.value + (n - r.first))]
    | none =>
      match expansionTable.find? n with
      | some r => r.value
      | none => [c]

/-! ### Canonical order -/

/-- Puts a character in front of an ordered text, behind the marks that come before it. -/
def orderInsert (c : Char) : List Char → List Char
  | [] => [c]
  | d :: ds =>
    if 0 < combiningClass d ∧ combiningClass d < combiningClass c then d :: orderInsert c ds else c :: d :: ds

/-- Sorts every run of combining marks by class and keeps the order of marks of one class. -/
def order : List Char → List Char
  | [] => []
  | c :: cs => orderInsert c (order cs)

/-! ### Composition -/

/-- A pair of characters and what they compose into, from the groups of a row. -/
def pairOfRow (row : Nat) : CodeRange Nat :=
  ⟨row / 0x1000000, row / 0x1000000, row % 0x1000000⟩

/-- The pairs that compose; a pair is looked up as one number. -/
def pairTable : CodeTable Nat := ((asciiPairs ++ latinPairs ++ greekPairs ++ furtherPairs).map pairOfRow).toArray

/-- The character that two characters compose into. -/
def composePair (a b : Char) : Option Char :=
  let m := a.toNat
  let n := b.toNat
  if n < 0x300 then none
  else if leadBase ≤ m ∧ m < leadBase + leadCount ∧ vowelBase ≤ n ∧ n < vowelBase + vowelCount then
    some (Char.ofNat (syllableBase + ((m - leadBase) * vowelCount + (n - vowelBase)) * trailCount))
  else if syllableBase ≤ m ∧ m < syllableBase + syllableCount ∧ (m - syllableBase) % trailCount = 0 ∧
      trailBase < n ∧ n < trailBase + trailCount then
    some (Char.ofNat (m + (n - trailBase)))
  else (pairTable.find? (m * 0x1000000 + n)).map fun r => Char.ofNat r.value

/--
Composes the text that follows a starter.  The marks that follow the starter without composing with it are given in
reverse order; a character composes with the starter unless one of these marks is in between with no smaller class.
-/
def composeFrom (starter : Char) (marks : List Char) : List Char → List Char
  | [] => starter :: marks.reverse
  | c :: cs =>
    let blocked := match marks with
      | [] => false
      | m :: _ => combiningClass c ≤ combiningClass m
    match if blocked then none else composePair starter c with
    | some d => composeFrom d marks cs
    | none =>
      if combiningClass c = 0 then (starter :: marks.reverse) ++ composeFrom c [] cs
      else composeFrom starter (c :: marks) cs

/-- Composes an ordered text.  Marks before the first starter stay as they are. -/
def compose : List Char → List Char
  | [] => []
  | c :: cs => if combiningClass c = 0 then composeFrom c [] cs else c :: compose cs

/-- The compatibility composition of a text. -/
def compatibilityForm (cs : List Char) : List Char := compose (order (cs.flatMap decompose))

end ChatModeration.Text
