import ChatModeration.Text.CodeTable
import ChatModeration.Text.Category.Contributory
import ChatModeration.Text.Category.Table

/-!
# Character classes

The general category of every character (`category`) and the classes derived from it: letters and digits
(`isAlphanumeric`), characters with case (`isCased`, `isCaseIgnorable`) and the characters of words
(`isWordCharacter`).  Each is the Unicode property of that name; below U+0080 letters and digits are the ASCII ones.
-/

namespace ChatModeration.Text

/-- The general categories, in the order in which the tables number them. -/
inductive Category where
  | uppercaseLetter | lowercaseLetter | titlecaseLetter | modifierLetter | otherLetter
  | nonspacingMark | spacingMark | enclosingMark
  | decimalNumber | letterNumber | otherNumber
  | connectorPunctuation | dashPunctuation | openPunctuation | closePunctuation
  | initialPunctuation | finalPunctuation | otherPunctuation
  | mathSymbol | currencySymbol | modifierSymbol | otherSymbol
  | spaceSeparator | lineSeparator | paragraphSeparator
  | control | format | privateUse | unassigned
deriving DecidableEq, Repr

namespace Category

/-- The categories that the tables number, from zero. -/
def numbered : Array Category := #[
  uppercaseLetter, lowercaseLetter, titlecaseLetter, modifierLetter, otherLetter,
  nonspacingMark, spacingMark, enclosingMark, decimalNumber, letterNumber, otherNumber,
  connectorPunctuation, dashPunctuation, openPunctuation, closePunctuation,
  initialPunctuation, finalPunctuation, otherPunctuation,
  mathSymbol, currencySymbol, modifierSymbol, otherSymbol,
  spaceSeparator, lineSeparator, paragraphSeparator, control, format, privateUse]

/-- The number of a range in which uppercase and lowercase letters alternate. -/
def alternating : Nat := 0x1C

/-- Whether the category is one of the five kinds of letters. -/
def isLetter : Category → Bool
  | uppercaseLetter | lowercaseLetter | titlecaseLetter | modifierLetter | otherLetter => true
  | _ => false

/-- Whether the category is one of the three kinds of marks. -/
def isMark : Category → Bool
  | nonspacingMark | spacingMark | enclosingMark => true
  | _ => false

/-- Whether the category is one of the three kinds of numbers. -/
def isNumber : Category → Bool
  | decimalNumber | letterNumber | otherNumber => true
  | _ => false

end Category

/-- The ranges of all categories. -/
def categoryTable : CodeTable Nat :=
  ((CategoryTable.europeanRows ++ CategoryTable.semiticRows ++ CategoryTable.southernRows ++
    CategoryTable.easternRows ++ CategoryTable.symbolRows ++ CategoryTable.ideographRows ++
    CategoryTable.ancientRows ++ CategoryTable.brahmicRows ++ CategoryTable.upperRows ++
    CategoryTable.outerRows).map CodeRange.ofValueRow).toArray

/-- Characters that are alphabetic without being letters. -/
def alphabeticTable : CodeTable Unit := (ContributoryTable.alphabeticRows.map CodeRange.ofRow).toArray

/-- Characters that are lowercase without being lowercase letters. -/
def lowercaseTable : CodeTable Unit := (ContributoryTable.lowercaseRows.map CodeRange.ofRow).toArray

/-- Characters that are uppercase without being uppercase letters. -/
def uppercaseTable : CodeTable Unit := (ContributoryTable.uppercaseRows.map CodeRange.ofRow).toArray

/-- Characters that extend the one before them without being nonspacing or enclosing marks. -/
def graphemeTable : CodeTable Unit := (ContributoryTable.graphemeRows.map CodeRange.ofRow).toArray

/-- The general category of a character; a character in no range is unassigned. -/
def category (c : Char) : Category :=
  match categoryTable.find? c.toNat with
  | none => .unassigned
  | some r =>
    if r.value = Category.alternating then
      if (c.toNat - r.first) % 2 = 0 then .uppercaseLetter else .lowercaseLetter
    else Category.numbered[r.value]?.getD .unassigned

/-- The property `Alphabetic`. -/
def isAlphabetic (c : Char) : Bool :=
  if c.toNat < 0x80 then c.isAlpha
  else (category c).isLetter || category c == .letterNumber || alphabeticTable.covers c.toNat

/-- A letter, another alphabetic character, or a number. -/
def isAlphanumeric (c : Char) : Bool :=
  if c.toNat < 0x80 then c.isAlphanum
  else (category c).isLetter || (category c).isNumber || alphabeticTable.covers c.toNat

/-- The property `Lowercase`. -/
def isLowercase (c : Char) : Bool := category c == .lowercaseLetter || lowercaseTable.covers c.toNat

/-- The property `Uppercase`. -/
def isUppercase (c : Char) : Bool := category c == .uppercaseLetter || uppercaseTable.covers c.toNat

/-- The property `Cased`: uppercase, lowercase or titlecase. -/
def isCased (c : Char) : Bool := isLowercase c || isUppercase c || category c == .titlecaseLetter

/-- The punctuation that may stand inside a word and that case mapping therefore looks through. -/
def midWordPunctuation : List Char :=
  ['\'', '.', ':', '·', '\u0387', '\u055F', '\u05F4', '\u2018', '\u2019', '\u2024', '\u2027', '\uFE13', '\uFE52',
    '\uFE55', '\uFF07', '\uFF0E', '\uFF1A']

/-- The property `Case_Ignorable`. -/
def isCaseIgnorable (c : Char) : Bool :=
  midWordPunctuation.contains c ||
    match category c with
    | .nonspacingMark | .enclosingMark | .format | .modifierLetter | .modifierSymbol => true
    | _ => false

/-- The property `Grapheme_Extend`. -/
def extendsGrapheme (c : Char) : Bool :=
  category c == .nonspacingMark || category c == .enclosingMark || graphemeTable.covers c.toNat

/-- Whether a character shows as something: an assigned character that is no control and no separator but the space. -/
def isPrintable (c : Char) : Bool :=
  c == ' ' ||
    match category c with
    | .control | .format | .privateUse | .unassigned | .lineSeparator | .paragraphSeparator | .spaceSeparator => false
    | _ => true

/-- A character of a word: alphabetic, a mark, a decimal digit, a connector or a joiner. -/
def isWordCharacter (c : Char) : Bool :=
  if c.toNat < 0x80 then c.isAlphanum || c == '_'
  else
    isAlphabetic c || (category c).isMark || category c == .decimalNumber ||
      category c == .connectorPunctuation || c == '\u200C' || c == '\u200D'

end ChatModeration.Text
