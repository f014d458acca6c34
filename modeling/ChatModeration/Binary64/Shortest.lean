import ChatModeration.Binary64.Basic
import ChatModeration.Binary64.Decimal

/-!
# Shortest decimal digits

The shortest decimal that rounds to a given number, and of those of this length the nearest (`shortest`), and two ways
to write a number with these digits: `positional` never uses an exponent, `scientific` uses one for very large and
very small numbers.
-/

namespace ChatModeration.Binary64

/-- The ends of the interval of the values that round to `x`, in quarters of the smallest positive number. -/
def roundingInterval (x : Binary64) : Nat × Nat :=
  let step := Nat.pow 2 x.scale
  let below := if x.significand = exponentUnit ∧ 0 < x.scale then step else 2 * step
  (4 * x.units - below, 4 * x.units + 2 * step)

/-- Whether `d * 10 ^ e` rounds to `x`, a positive finite number. -/
def roundsTo (x : Binary64) (d : Nat) (e : Int) : Bool :=
  let (low, high) := x.roundingInterval
  let num := d * Nat.pow 10 e.toNat * (4 * commonDenominator)
  let den := Nat.pow 10 (-e).toNat
  if x.significand % 2 = 0 then low * den ≤ num && num ≤ high * den else low * den < num && num < high * den

/-- The greatest whole number of units `10 ^ e` that is at most the positive finite number `x`. -/
def floorAt (x : Binary64) (e : Int) : Nat :=
  x.units * Nat.pow 10 (-e).toNat / (commonDenominator * Nat.pow 10 e.toNat)

/-- Whether `x` lies in the lower half between `d` and `d + 1` units of `10 ^ e`. -/
def nearerBelow (x : Binary64) (d : Nat) (e : Int) : Bool :=
  2 * (x.units * Nat.pow 10 (-e).toNat) ≤ (2 * d + 1) * (commonDenominator * Nat.pow 10 e.toNat)

/-- The decimal with the unit `10 ^ e` that rounds to `x` and is nearest to it, if there is one. -/
def decimalAt? (x : Binary64) (e : Int) : Option Decimal :=
  let d := x.floorAt e
  let below := x.roundsTo d e
  let above := x.roundsTo (d + 1) e
  if below && (x.nearerBelow d e || !above) then some ⟨d, e⟩
  else if above then some ⟨d + 1, e⟩
  else none

/-- The exponent of the first decimal digit of a positive finite number. -/
def leadingExponent (x : Binary64) : Int :=
  let whole := x.floorAt 0
  if 0 < whole then (Decimal.digitsOf whole).length - 1
  else (Decimal.digitsOf (x.floorAt (-400))).length - 401

/--
The shortest decimal that rounds to the positive finite number `x`.  Seventeen digits are always enough, and only the
coarsest unit can need a second digit.
-/
def shortest (x : Binary64) : Decimal :=
  let top := x.leadingExponent
  match (List.range 17).findSome? fun (n : Nat) => x.decimalAt? (top - n) with
  | some ⟨10, e⟩ => ⟨1, e + 1⟩
  | some d => d
  | none => ⟨x.floorAt (top - 16), top - 16⟩

/-- The shortest text of a number, always without an exponent. -/
def positional (x : Binary64) : String :=
  if x.isNaN then "NaN"
  else
    let body := if x.isInfinite then "inf" else if x.magnitude = 0 then "0" else x.shortest.positional
    if x.isNegative then "-" ++ body else body

/--
The shortest text of a finite number with a point or an exponent in it: positional if the point falls among the first
sixteen digits or at most four zeros follow it, with an exponent otherwise.
-/
def scientific (x : Binary64) : String :=
  let d := x.shortest
  let body :=
    if x.magnitude = 0 then "0.0"
    else if 0 ≤ d.exponent ∧ d.point ≤ 16 then d.positional ++ ".0"
    else if -5 < d.point ∧ d.point ≤ 16 then d.positional
    else d.exponential
  if x.isNegative then "-" ++ body else body

/-- The sixteen hexadecimal digits of the bits. -/
def hex (x : Binary64) : String :=
  let digits := Nat.toDigits 16 x.bits.toNat
  Decimal.zeros (16 - digits.length) ++ String.ofList digits

end ChatModeration.Binary64
