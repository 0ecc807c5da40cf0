import MonitorIntake.Text.Basic

/-!
# Decimals

A decimal is a number of the form `digits · 10 ^ exponent`. `Decimal.reduced` takes the trailing zeros off the digits,
which leaves the value as it is and makes it the only written form of that value.
-/

namespace MonitorIntake

/-- A power of two. -/
def twoTo (n : Nat) : Nat := Nat.pow 2 n

/-- A power of ten. -/
def tenTo (n : Nat) : Nat := Nat.pow 10 n

/-- The number of decimal digits of a natural number; zero has one. -/
def digitCount (n : Nat) : Nat := (Nat.toDigits 10 n).length

/-- The number `digits · 10 ^ exponent`. -/
structure Decimal where
  digits : Nat
  exponent : Int
  deriving DecidableEq

namespace Decimal

/-- At most `fuel` trailing zeros moved from the digits into the exponent. -/
def dropZeros : (fuel : Nat) → Decimal → Decimal
  | 0, d => d
  | fuel + 1, d => if d.digits % 10 = 0 then dropZeros fuel ⟨d.digits / 10, d.exponent + 1⟩ else d

/-- The decimal of the same value whose digits do not end in zero; the value zero has no digits left. -/
def reduced (d : Decimal) : Decimal :=
  if d.digits = 0 then ⟨0, 0⟩ else dropZeros (d.digits.log2 + 1) d

/-- The order of the leading digit: the value is at least `10 ^ order` and below `10 ^ (order + 1)`, unless it is
zero. -/
def order (d : Decimal) : Int := d.exponent + digitCount d.digits - 1

end Decimal

end MonitorIntake
