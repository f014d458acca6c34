import ChatModeration.Pattern.CharSet

/-!
# Names of character classes

The names by which patterns refer to properties of characters (`propertyNamed`) and to ASCII classes
(`asciiClassNamed`).  Property names are compared without regard to case, spaces, hyphens and underscores, and may
begin with `is`.

Properties besides the general category are those of `propertyNames`.  Scripts, the age of a character, emoji,
characters of identifiers and the breaks of clusters, words and sentences are left out: a name of that kind counts as
unknown.
-/

namespace ChatModeration.Pattern

open Text Category

/-- The names of general categories and of groups of them, in compared form. -/
def categoryNames : List (List String × List Category) := [
  (["l", "letter"], [uppercaseLetter, lowercaseLetter, titlecaseLetter, modifierLetter, otherLetter]),
  (["lu", "uppercaseletter"], [uppercaseLetter]),
  (["ll", "lowercaseletter"], [lowercaseLetter]),
  (["lt", "titlecaseletter"], [titlecaseLetter]),
  (["lc", "casedletter"], [uppercaseLetter, lowercaseLetter, titlecaseLetter]),
  (["lm", "modifierletter"], [modifierLetter]),
  (["lo", "otherletter"], [otherLetter]),
  (["m", "mark", "combiningmark"], [nonspacingMark, spacingMark, enclosingMark]),
  (["mn", "nonspacingmark"], [nonspacingMark]),
  (["mc", "spacingmark"], [spacingMark]),
  (["me", "enclosingmark"], [enclosingMark]),
  (["n", "number"], [decimalNumber, letterNumber, otherNumber]),
  (["nd", "decimalnumber", "digit"], [decimalNumber]),
  (["nl", "letternumber"], [letterNumber]),
  (["no", "othernumber"], [otherNumber]),
  (["p", "punctuation", "punct"], [connectorPunctuation, dashPunctuation, openPunctuation, closePunctuation,
    initialPunctuation, finalPunctuation, otherPunctuation]),
  (["pc", "connectorpunctuation"], [connectorPunctuation]),
  (["pd", "dashpunctuation"], [dashPunctuation]),
  (["ps", "openpunctuation"], [openPunctuation]),
  (["pe", "closepunctuation"], [closePunctuation]),
  (["pi", "initialpunctuation"], [initialPunctuation]),
  (["pf", "finalpunctuation"], [finalPunctuation]),
  (["po", "otherpunctuation"], [otherPunctuation]),
  (["s", "symbol"], [mathSymbol, currencySymbol, modifierSymbol, otherSymbol]),
  (["sm", "mathsymbol"], [mathSymbol]),
  (["sc", "currencysymbol"], [currencySymbol]),
  (["sk", "modifiersymbol"], [modifierSymbol]),
  (["so", "othersymbol"], [otherSymbol]),
  (["z", "separator"], [spaceSeparator, lineSeparator, paragraphSeparator]),
  (["zs", "spaceseparator"], [spaceSeparator]),
  (["zl", "lineseparator"], [lineSeparator]),
  (["zp", "paragraphseparator"], [paragraphSeparator]),
  (["c", "other"], [control, format, privateUse, unassigned]),
  (["cc", "control", "cntrl"], [control]),
  (["cf", "format"], [format]),
  (["co", "privateuse"], [privateUse]),
  (["cn", "unassigned"], [unassigned])]

/-- The names of other properties, in compared form. -/
def propertyNames : List (List String × Property) := [
  (["any"], .any),
  (["ascii"], .ascii),
  (["alphabetic", "alpha"], .alphabetic),
  (["lowercase", "lower"], .lowercase),
  (["uppercase", "upper"], .uppercase),
  (["cased"], .cased),
  (["caseignorable", "ci"], .caseIgnorable),
  (["graphemeextend", "grext"], .graphemeExtend),
  (["whitespace", "wspace", "space"], .blank)]

/-- The compared form of a name. -/
def comparedName (name : List Char) : String :=
  let lower := name.map Char.toLower
  let (prefixed, rest) := match lower with
    | 'i' :: 's' :: rest => (true, rest)
    | _ => (false, lower)
  let kept := rest.filter fun c => c.toNat < 0x80 && c != ' ' && c != '_' && c != '-'
  if prefixed && kept == ['c'] then "isc" else String.ofList kept

/-- The set of the general category, or group of categories, with a name in compared form. -/
def categoryNamed (name : String) : Option CharSet :=
  match name with
  | "any" => some .all
  | "ascii" => some (.property .ascii)
  | "assigned" => some (.compl (.property (.categories [unassigned])))
  | _ => (categoryNames.find? fun entry => entry.1.contains name).map fun entry => .property (.categories entry.2)

/-- The set of a property with a name of its own. -/
def binaryNamed (name : List Char) : Option CharSet :=
  let compared := comparedName name
  match propertyNames.find? fun entry => entry.1.contains compared with
  | some entry => some (.property entry.2)
  | none => categoryNamed compared

/-- The part of a list before the first place where `mark` stands, and the part after it. -/
def splitAtMark (mark : List Char) : List Char → Option (List Char × List Char)
  | [] => none
  | c :: cs =>
    if mark.isPrefixOf (c :: cs) then some ([], (c :: cs).drop mark.length)
    else (splitAtMark mark cs).map fun (before, after) => (c :: before, after)

/-- The set of the characters for which a property has a value. -/
def valueNamed (property value : List Char) : Option CharSet :=
  if ["gc", "generalcategory"].contains (comparedName property) then categoryNamed (comparedName value) else none

/-- The set that the text between the braces of a property class stands for. -/
def propertyNamed (name : List Char) : Option CharSet :=
  match splitAtMark ['!', '='] name with
  | some (p, v) => (valueNamed p v).map .compl
  | none =>
    match splitAtMark [':'] name with
    | some (p, v) => valueNamed p v
    | none =>
      match splitAtMark ['='] name with
      | some (p, v) => valueNamed p v
      | none => binaryNamed name

/-- The set of some ranges. -/
def ranges (rs : List (Char × Char)) : CharSet := rs.foldr (fun r a => .union (.range r.1 r.2) a) .empty

/-- The ASCII classes by name. -/
def asciiClassNamed (name : String) : Option CharSet :=
  match name with
  | "alnum" => some (ranges [('0', '9'), ('A', 'Z'), ('a', 'z')])
  | "alpha" => some (ranges [('A', 'Z'), ('a', 'z')])
  | "ascii" => some (ranges [('\x00', '\x7F')])
  | "blank" => some (ranges [('\t', '\t'), (' ', ' ')])
  | "cntrl" => some (ranges [('\x00', '\x1F'), ('\x7F', '\x7F')])
  | "digit" => some (ranges [('0', '9')])
  | "graph" => some (ranges [('!', '~')])
  | "lower" => some (ranges [('a', 'z')])
  | "print" => some (ranges [(' ', '~')])
  | "punct" => some (ranges [('!', '/'), (':', '@'), ('[', '\x60'), ('\x7b', '~')])
  | "space" => some (ranges [('\t', '\r'), (' ', ' ')])
  | "upper" => some (ranges [('A', 'Z')])
  | "word" => some (ranges [('0', '9'), ('A', 'Z'), ('_', '_'), ('a', 'z')])
  | "xdigit" => some (ranges [('0', '9'), ('A', 'F'), ('a', 'f')])
  | _ => none

end ChatModeration.Pattern
