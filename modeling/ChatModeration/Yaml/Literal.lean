import ChatModeration.Json.Number
import ChatModeration.Yaml.Scalar

/-!
# What scalars stand for

The truth value or the number that the text of a scalar stands for, if it stands for one.
-/

namespace ChatModeration.Yaml

open Text (digitsValue?)

/-- The tag of the values of one of the basic types. -/
def basicTag (name : String) : String := "tag:yaml.org,2002:" ++ name

/-- The truth value that a scalar stands for. -/
def flag? (s : String) : Option Bool :=
  if ["true", "True", "TRUE"].contains s then some true
  else if ["false", "False", "FALSE"].contains s then some false
  else none

/-- Whether a scalar stands for no value, where it is not left out. -/
def isNullText (s : String) : Bool := ["~", "null", "Null", "NULL"].contains s

/-- A text without a plus sign at its beginning. -/
def withoutPlus : List Char → List Char
  | '+' :: cs => cs
  | cs => cs

/-- Digits in one of the bases other than ten, after the letter for the base. -/
def prefixedValue? : List Char → Option Nat
  | '0' :: 'x' :: cs => digitsValue? 16 cs
  | '0' :: 'o' :: cs => digitsValue? 8 cs
  | '0' :: 'b' :: cs => digitsValue? 2 cs
  | _ => none

/-- The natural number below `2 ^ 64` that a scalar stands for.  A decimal number does not start with a zero. -/
def natural? (s : String) : Option Nat := do
  let cs := withoutPlus s.toList
  let inWord (n : Nat) : Bool := n < Json.wordLimit
  match (prefixedValue? cs).filter inWord with
  | some n => some n
  | none => if cs.head? == some '0' && 1 < cs.length then none else (digitsValue? 10 cs).filter inWord

/-- The number that is written with decimal digits, a point and an exponent, each of which may be missing. -/
def decimal? (negative : Bool) (cs : List Char) : Option Binary64 := do
  let whole := cs.takeWhile Char.isDigit
  let (fraction, rest) := match cs.dropWhile Char.isDigit with
    | '.' :: cs => (cs.takeWhile Char.isDigit, cs.dropWhile Char.isDigit)
    | cs => ([], cs)
  let exponent ← match rest with
    | [] => some (0 : Int)
    | c :: cs =>
      if c == 'e' || c == 'E' then
        match cs with
        | '-' :: cs => (digitsValue? 10 cs).map fun n => -(n : Int)
        | cs => (digitsValue? 10 (withoutPlus cs)).map Int.ofNat
      else none
  let digits := whole ++ fraction
  let n ← digitsValue? 10 digits
  let scale := exponent - fraction.length
  if n = 0 then return .ofRatio negative 0 1
  if 400 < scale then none
  if scale < -(400 + digits.length : Int) then return .ofRatio negative 0 1
  let x := if 0 ≤ scale then Binary64.ofRatio negative (n * Nat.pow 10 scale.toNat) 1
    else Binary64.ofRatio negative n (Nat.pow 10 (-scale).toNat)
  if x.isFinite then some x else none

/-- The floating point number that a scalar stands for. -/
def real? (s : String) : Option Binary64 :=
  let infinities := [".inf", ".Inf", ".INF"]
  if infinities.any fun w => s == w || s == "+" ++ w then some (.infinity false)
  else if infinities.any fun w => s == "-" ++ w then some (.infinity true)
  else if [".nan", ".NaN", ".NAN"].contains s then some .nan
  else
    match s.toList with
    | '-' :: cs => decimal? true cs
    | cs => decimal? false (withoutPlus cs)

/-- Whether a scalar may be something else than a text: it is plain, or a block with the tag of the type. -/
def isOpen (type : String) (tag : Option String) (style : Style) : Bool :=
  match style with
  | .plain => true
  | .literal => tag == some (basicTag type)
  | _ => false

end ChatModeration.Yaml
