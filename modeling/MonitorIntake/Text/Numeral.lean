import MonitorIntake.Text.Blank

/-!
# Numerals of all scripts

The decimal digits of Unicode 14 come in runs of ten, from zero to nine. `Text.numeralForm` gives a text in which a
number may be written the form in which it is read: without white space at its ends, and with ASCII digits.
`Text.dropSign` takes the sign off a number.
-/

namespace MonitorIntake

/-- The zeros of the decimal digits of all scripts. -/
def decimalZeros : List Nat :=
  [0x30, 0x660, 0x6F0, 0x7C0, 0x966, 0x9E6, 0xA66, 0xAE6, 0xB66, 0xBE6, 0xC66, 0xCE6, 0xD66, 0xDE6, 0xE50, 0xED0,
   0xF20, 0x1040, 0x1090, 0x17E0, 0x1810, 0x1946, 0x19D0, 0x1A80, 0x1A90, 0x1B50, 0x1BB0, 0x1C40, 0x1C50, 0xA620,
   0xA8D0, 0xA900, 0xA9D0, 0xA9F0, 0xAA50, 0xABF0, 0xFF10, 0x104A0, 0x10D30, 0x11066, 0x110F0, 0x11136, 0x111D0,
   0x112F0, 0x11450, 0x114D0, 0x11650, 0x116C0, 0x11730, 0x118E0, 0x11950, 0x11C50, 0x11D50, 0x11DA0, 0x16A60,
   0x16AC0, 0x16B50, 0x1D7CE, 0x1D7D8, 0x1D7E2, 0x1D7EC, 0x1D7F6, 0x1E140, 0x1E2F0, 0x1E950, 0x1FBF0]

/-- The ASCII digit of the same value for a decimal digit of any script; anything else is kept. -/
def CodePoint.asciiDigit (c : CodePoint) : CodePoint :=
  match decimalZeros.find? fun z => z ≤ c.val && c.val < z + 10 with
  | some z => CodePoint.ofDigit (c.val - z)
  | none => c

namespace Text

/-- A sign stands at the front, and it is a minus sign. -/
def isNegative (t : Text) : Bool := t.head? == some ('-' : CodePoint)

/-- The text without a sign at its front. -/
def dropSign : Text → Text
  | c :: rest => if c = '-' ∨ c = '+' then rest else c :: rest
  | [] => []

/-- White space around a number: all but the information separators. -/
def isNumeralSpace (c : CodePoint) : Bool := c.isSpace && !(0x1C ≤ c.val && c.val ≤ 0x1F)

/-- The text without white space at its ends and with ASCII digits. -/
def numeralForm (t : Text) : Text :=
  (((t.dropWhile isNumeralSpace).reverse.dropWhile isNumeralSpace).reverse).map CodePoint.asciiDigit

end Text

end MonitorIntake
