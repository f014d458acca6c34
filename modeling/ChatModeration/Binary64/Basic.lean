/-!
# Binary floating point numbers of 64 bits

A number is kept as its 64 bits in the IEEE-754 layout.  A finite number is a whole significand times a power of two
(`significand`, `scale`); `ofRatio` rounds a quotient to the nearest number, a tie to the even significand.  The order
of numbers is the order of their bits read as sign and magnitude (`rank`), so it is a linear order on all numbers that
are not NaN.
-/

namespace ChatModeration

/-- A binary floating point number, given by its bits. -/
structure Binary64 where
  bits : UInt64
deriving DecidableEq, Repr

namespace Binary64

/-- The bits of infinity; greater magnitudes are NaN. -/
def infinityBits : Nat := 0x7FF0000000000000

/-- The weight of the lowest bit of the exponent field. -/
def exponentUnit : Nat := 0x10000000000000

/-- The weight of the sign bit. -/
def signUnit : Nat := 0x8000000000000000

/-- The number with the given sign and the magnitude that the lower 63 bits encode. -/
def ofMagnitude (negative : Bool) (magnitude : Nat) : Binary64 :=
  ⟨UInt64.ofNat (if negative then signUnit + magnitude else magnitude)⟩

/-- Whether the sign bit is set. -/
def isNegative (x : Binary64) : Bool := signUnit ≤ x.bits.toNat

/-- The bits below the sign bit. -/
def magnitude (x : Binary64) : Nat := x.bits.toNat % signUnit

/-- Whether the number is NaN. -/
def isNaN (x : Binary64) : Bool := infinityBits < x.magnitude

/-- Whether the number is an infinity. -/
def isInfinite (x : Binary64) : Bool := x.magnitude == infinityBits

/-- Whether the number is neither NaN nor an infinity. -/
def isFinite (x : Binary64) : Bool := x.magnitude < infinityBits

/-- Zero. -/
def zero : Binary64 := ofMagnitude false 0

/-- One. -/
def one : Binary64 := ⟨0x3FF0000000000000⟩

/-- Infinity with a sign. -/
def infinity (negative : Bool) : Binary64 := ofMagnitude negative infinityBits

/-- The NaN with an empty payload. -/
def nan : Binary64 := ofMagnitude false 0x7FF8000000000000

/-- The number with the opposite sign. -/
def neg (x : Binary64) : Binary64 := ofMagnitude (!x.isNegative) x.magnitude

/-- The significand of a finite number; the number is `significand * 2 ^ scale / 2 ^ 1074` up to its sign. -/
def significand (x : Binary64) : Nat :=
  if x.magnitude < exponentUnit then x.magnitude else x.magnitude % exponentUnit + exponentUnit

/-- The power of two that belongs to `significand`. -/
def scale (x : Binary64) : Nat := x.magnitude / exponentUnit - 1

/-- The denominator common to all finite numbers. -/
def commonDenominator : Nat := Nat.pow 2 1074

/-- The magnitude of a finite number in units of the smallest positive number. -/
def units (x : Binary64) : Nat := x.significand * Nat.pow 2 x.scale

/-- The quotient of `num` by `den` rounded to a whole number, a tie to the even one. -/
def roundDiv (num den : Nat) : Nat :=
  let q := num / den
  let r := num % den
  if 2 * r < den ∨ (2 * r = den ∧ q % 2 = 0) then q else q + 1

/-- The number nearest to the quotient `num / den`, with a sign; it is infinite if that is out of range. -/
def ofRatio (negative : Bool) (num den : Nat) : Binary64 :=
  let total := num * commonDenominator
  let scale := (total / den).log2 - 52
  ofMagnitude negative (min infinityBits (scale * exponentUnit + roundDiv total (den * Nat.pow 2 scale)))

/-- The number nearest to a natural number. -/
def ofNat (n : Nat) : Binary64 := ofRatio false n 1

/-- The product, where neither number is NaN or infinite. -/
def mul (x y : Binary64) : Binary64 :=
  ofRatio (x.isNegative != y.isNegative) (x.units * y.units) (commonDenominator * commonDenominator)

/-- The quotient, where neither number is NaN or infinite and the divisor is not zero. -/
def div (x y : Binary64) : Binary64 := ofRatio (x.isNegative != y.isNegative) x.units y.units

/-- The place of a number in the order; the two zeros have the same place. -/
def rank (x : Binary64) : Int := if x.isNegative then -(x.magnitude : Int) else x.magnitude

/-- Whether `x` is at most `y`.  Nothing is comparable with NaN. -/
def le (x y : Binary64) : Bool := !x.isNaN && !y.isNaN && x.rank ≤ y.rank

theorem le_trans {x y z : Binary64} (hxy : x.le y = true) (hyz : y.le z = true) : x.le z = true := by
  simp only [le, Bool.and_eq_true, Bool.not_eq_true', decide_eq_true_eq] at *
  exact ⟨⟨hxy.1.1, hyz.1.2⟩, Int.le_trans hxy.2 hyz.2⟩

end Binary64

end ChatModeration
