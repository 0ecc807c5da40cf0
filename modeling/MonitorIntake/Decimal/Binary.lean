import MonitorIntake.Decimal.Basic

/-!
# Binary floating-point numbers

A `Double` is a number of the 64-bit binary format: a sign and a magnitude, an infinity, or the one value `nan`. Every
finite magnitude is a whole number of units of `2 ^ -1074` (`Magnitude.units`), so all arithmetic is exact on natural
numbers and rounds once at the end (`Magnitude.nearest?`): to the nearest magnitude, from a tie to the one with the even
mantissa, and to none beyond the largest. `Double.ofDecimal` reads a decimal that way.
-/

namespace MonitorIntake

/-- A finite magnitude: `mantissa · 2 ^ scale` units of `2 ^ -1074`, in the form with the largest mantissa. -/
structure Magnitude where
  mantissa : Nat
  scale : Nat
  canonical : mantissa < 0x20000000000000 ∧ scale ≤ 2045 ∧ (scale = 0 ∨ 0x10000000000000 ≤ mantissa)
  deriving DecidableEq

namespace Magnitude

/-- Nothing. -/
def zero : Magnitude := ⟨0, 0, by decide⟩

/-- The magnitude in units of `2 ^ -1074`. -/
def units (m : Magnitude) : Nat := m.mantissa * twoTo m.scale

/-- The magnitude of a mantissa and a scale, unless it is too large. -/
def ofScaled? (mantissa scale : Nat) : Option Magnitude :=
  if h : mantissa < 0x20000000000000 ∧ scale ≤ 2045 ∧ (scale = 0 ∨ 0x10000000000000 ≤ mantissa) then
    some ⟨mantissa, scale, h⟩
  else none

/-- The whole number nearest to a quotient, the even one of two equally near. -/
def roundHalfEven (num den : Nat) : Nat :=
  if 2 * (num % den) < den ∨ (2 * (num % den) = den ∧ num / den % 2 = 0) then num / den else num / den + 1

/-- The magnitude nearest to `num / den` units, or none when that lies beyond the largest. -/
def nearest? (num den : Nat) : Option Magnitude :=
  let scale := (num / den).log2 - 52
  let mantissa := roundHalfEven num (den * twoTo scale)
  if mantissa < 0x20000000000000 then ofScaled? mantissa scale else ofScaled? 0x10000000000000 (scale + 1)

/-- The magnitude nearest to a decimal. Orders far outside the range are decided without computing the power. -/
def ofDecimal? (d : Decimal) : Option Magnitude :=
  let d := d.reduced
  if d.digits = 0 ∨ d.order < -340 then some zero
  else if 320 < d.order then none
  else nearest? (d.digits * tenTo d.exponent.toNat * twoTo 1074) (tenTo (-d.exponent).toNat)

end Magnitude

/-- A number of the 64-bit binary format, all values that are not numbers taken as one. -/
inductive Double
  | nan
  | infinite (negative : Bool)
  | finite (negative : Bool) (magnitude : Magnitude)
  deriving DecidableEq

namespace Double

/-- A sign and a magnitude, where none stands for one that is too large. -/
def ofMagnitude? (negative : Bool) : Option Magnitude → Double
  | some m => .finite negative m
  | none => .infinite negative

/-- The double nearest to a decimal with a sign. -/
def ofDecimal (negative : Bool) (d : Decimal) : Double := ofMagnitude? negative (Magnitude.ofDecimal? d)

/-- The double is a number and not an infinity. -/
def isFinite : Double → Bool
  | .finite _ _ => true
  | _ => false

/-- The double is zero, of either sign. -/
def isZero : Double → Bool
  | .finite _ m => m.mantissa == 0
  | _ => false

/-- The same magnitude with the other sign. -/
def negate : Double → Double
  | .nan => .nan
  | .infinite negative => .infinite !negative
  | .finite negative m => .finite (!negative) m

/-- A finite double in units of `2 ^ -1074`, with its sign. -/
def signedUnits? : Double → Option Int
  | .finite negative m => some (if negative then -(m.units : Int) else m.units)
  | _ => none

/-- The double nearest to a whole number of units divided by `den`; an exact zero takes the given sign. -/
def ofUnits (zeroNegative : Bool) (units : Int) (den : Nat) : Double :=
  let negative := if units = 0 then zeroNegative else decide (units < 0)
  ofMagnitude? negative (Magnitude.nearest? units.natAbs den)

/-- The double nearest to an integer. -/
def ofInt (i : Int) : Double := ofUnits false (i * twoTo 1074) 1

/-- The sum, rounded. A sum of zeros is negative only if both are. -/
def add : Double → Double → Double
  | .finite s m, .finite t n =>
    let units (negative : Bool) (k : Magnitude) : Int := if negative then -(k.units : Int) else k.units
    ofUnits (s && t) (units s m + units t n) 1
  | .nan, _ => .nan
  | _, .nan => .nan
  | .infinite s, .infinite t => if s = t then .infinite s else .nan
  | .infinite s, .finite _ _ => .infinite s
  | .finite _ _, .infinite t => .infinite t

/-- The product, rounded. -/
def mul : Double → Double → Double
  | .finite s m, .finite t n => ofMagnitude? (s != t) (Magnitude.nearest? (m.units * n.units) (twoTo 1074))
  | .nan, _ => .nan
  | _, .nan => .nan
  | .infinite s, .infinite t => .infinite (s != t)
  | .infinite s, .finite t n => if n.mantissa = 0 then .nan else .infinite (s != t)
  | .finite s m, .infinite t => if m.mantissa = 0 then .nan else .infinite (s != t)

/-- The double is the given integer. -/
def equalsInt (d : Double) (i : Int) : Bool := d.signedUnits? == some (i * twoTo 1074)

/-- The two doubles are the same number; `nan` is not the same number as itself, and the two zeros are one. -/
def equalsNumber : Double → Double → Bool
  | .finite s m, .finite t n => (m == n) && (s == t || m.mantissa == 0)
  | .infinite s, .infinite t => s == t
  | _, _ => false

end Double

end MonitorIntake
