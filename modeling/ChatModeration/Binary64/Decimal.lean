/-!
# Decimals

A decimal is a whole number of units of some power of ten.  It is written positionally (`Decimal.positional`) or with
one digit before the point and an exponent (`Decimal.exponential`).
-/

namespace ChatModeration

/-- The decimal `digits * 10 ^ exponent`. -/
structure Decimal where
  digits : Nat
  exponent : Int
deriving DecidableEq, Repr

namespace Decimal

/-- A text of `n` zeros. -/
def zeros (n : Nat) : String := String.ofList (List.replicate n '0')

/-- The digits of a natural number. -/
def digitsOf (n : Nat) : List Char := Nat.toDigits 10 n

/-- How many digits stand before the point; at most zero if the decimal is less than one tenth. -/
def point (d : Decimal) : Int := d.exponent + (digitsOf d.digits).length

/-- The digits with the point in its place and no exponent. -/
def positional (d : Decimal) : String :=
  let digits := digitsOf d.digits
  if 0 ≤ d.exponent then String.ofList digits ++ zeros d.exponent.toNat
  else if 0 < d.point then
    String.ofList (digits.take d.point.toNat ++ '.' :: digits.drop d.point.toNat)
  else "0." ++ zeros (-d.point).toNat ++ String.ofList digits

/-- One digit, the others after a point, and the exponent of the first. -/
def exponential (d : Decimal) : String :=
  let exponent := toString (d.point - 1)
  match digitsOf d.digits with
  | [] => ""
  | [c] => String.ofList [c] ++ "e" ++ exponent
  | c :: cs => String.ofList (c :: '.' :: cs) ++ "e" ++ exponent

end Decimal

end ChatModeration
