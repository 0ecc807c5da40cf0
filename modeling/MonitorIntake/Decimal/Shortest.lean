import MonitorIntake.Decimal.Binary

/-!
# Shortest decimals

The decimal that a magnitude is written as: of those that read back as the magnitude, the ones with the fewest digits,
of these the nearest, and of two equally near the one with the even last digit. Each grid of decimals, of one digit, of
two, up to seventeen, has two points next to the value, and `Magnitude.onGrid?` tries them by reading them back, the
nearer first.
-/

namespace MonitorIntake.Magnitude

/-- The decimal reads back as the magnitude. -/
def readsAs (m : Magnitude) (d : Decimal) : Bool := ofDecimal? d == some m

/-- The order of the leading decimal digit of a magnitude other than zero. -/
def decimalOrder (m : Magnitude) : Int := (digitCount (m.units * tenTo 324 / twoTo 1074) : Int) - 325

/-- Of the two multiples of `10 ^ exponent` next to the magnitude, the nearest that reads back. -/
def onGrid? (m : Magnitude) (exponent : Int) : Option Decimal :=
  let num := m.units * tenTo (-exponent).toNat
  let den := twoTo 1074 * tenTo exponent.toNat
  let low : Decimal := ⟨num / den, exponent⟩
  let high : Decimal := ⟨num / den + 1, exponent⟩
  let nearerFirst := if roundHalfEven num den = num / den then [low, high] else [high, low]
  nearerFirst.find? m.readsAs

/-- The exact value of the magnitude, which is a multiple of `10 ^ -1074`. -/
def exactDecimal (m : Magnitude) : Decimal := ⟨m.units * Nat.pow 5 1074, -1074⟩

/-- The decimal that the magnitude is written as. -/
def shortest (m : Magnitude) : Decimal :=
  if m.mantissa = 0 then ⟨0, 0⟩
  else (((List.range 17).findSome? fun (k : Nat) => m.onGrid? (m.decimalOrder - k)).getD m.exactDecimal).reduced

end MonitorIntake.Magnitude
