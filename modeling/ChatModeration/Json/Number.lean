import ChatModeration.Binary64.Basic
import ChatModeration.Text.Digits

/-!
# Numbers in JSON texts

A number without fraction and exponent is an integer if it fits 64 bits.  Every other number is a `Binary64`: the
digits that fit 64 bits, rounded once, are multiplied or divided by a power of ten, which rounds again
(`Number.ofScaled`).  A number beyond the greatest finite one is refused.
-/

namespace ChatModeration.Json

/-- A number of a JSON text. -/
inductive Number where
  | integer (value : Int)
  | float (value : Binary64)
deriving DecidableEq, Repr

/-- The least number that does not fit 64 bits. -/
def wordLimit : Nat := Nat.pow 2 64

/-- Appends digits to a significand as long as it fits 64 bits; the digits that are left come second. -/
def absorb (significand : Nat) : List Char → Nat × List Char
  | [] => (significand, [])
  | c :: cs =>
    let next := significand * 10 + Text.digitValue c
    if next < wordLimit then absorb next cs else (significand, c :: cs)

namespace Number

/-- The power of ten as the nearest number; `n` is at most 308. -/
def powerOfTen (n : Nat) : Binary64 := Binary64.ofNat (Nat.pow 10 n)

/-- Divides a number by `10 ^ n` in steps of at most `10 ^ 308`. -/
def divideByPowerOfTen (x : Binary64) (n : Nat) : Binary64 :=
  if n ≤ 308 then x.div (powerOfTen n)
  else if x.magnitude = 0 then x
  else divideByPowerOfTen (x.div (powerOfTen 308)) (n - 308)
termination_by n

/-- The number `significand * 10 ^ exponent`, or nothing if it is out of range. -/
def ofScaled (negative : Bool) (significand : Nat) (exponent : Int) : Option Binary64 :=
  let x := Binary64.ofNat significand
  let scaled :=
    if exponent < 0 then some (divideByPowerOfTen x exponent.natAbs)
    else if exponent ≤ 308 then some (x.mul (powerOfTen exponent.toNat))
    else if significand = 0 then some x
    else none
  match scaled with
  | some y => if y.isInfinite then none else some (if negative then y.neg else y)
  | none => none

/-- An integer, or the nearest float if it does not fit a signed word or is a negative zero. -/
def ofInteger (negative : Bool) (n : Nat) : Number :=
  if !negative then .integer n
  else if 0 < n ∧ n ≤ Nat.pow 2 63 then .integer (-n)
  else .float (Binary64.ofNat n).neg

/-- The written exponent of a number: its sign and its digits. -/
structure Exponent where
  negative : Bool
  digits : List Char

/-- The greatest exponent that is not out of range by its digits alone. -/
def exponentLimit : Nat := Nat.pow 2 31 - 1

/--
The number with the given sign, digits before the point, digits after the point and exponent.  There is none if the
number is out of range.
-/
def ofParts (negative : Bool) (whole : List Char) (fraction : Option (List Char)) (exponent : Option Exponent) :
    Option Number :=
  let (significand, dropped) := absorb 0 whole
  match fraction, exponent, dropped with
  | none, none, [] => some (ofInteger negative significand)
  | _, _, _ =>
    let fractionDigits := fraction.getD []
    let (significand, ignored) := absorb significand fractionDigits
    let scale : Int := dropped.length - (fractionDigits.length - ignored.length : Nat)
    match exponent with
    | none => (ofScaled negative significand scale).map .float
    | some e =>
      let n := Text.valueOfDigits e.digits
      if exponentLimit < n then
        if significand ≠ 0 ∧ !e.negative then none
        else some (.float (if negative then Binary64.zero.neg else Binary64.zero))
      else (ofScaled negative significand (if e.negative then scale - n else scale + n)).map .float

end Number

end ChatModeration.Json
