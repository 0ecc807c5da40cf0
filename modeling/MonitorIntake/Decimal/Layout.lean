import MonitorIntake.Decimal.Shortest

/-!
# Layouts of decimal numbers

How the digits of a double are set: with a point in their middle, or as one digit, a fraction and an exponent. A
`Layout` says from which order on numbers are positional, and how many digits an exponent has at least; from `10 ^ 16`
on all layouts use an exponent. A positional number has at least one digit on either side of its point.
-/

namespace MonitorIntake

/-- The choices in setting the digits of a number. -/
structure Layout where
  /-- The least order of a leading digit that is set positionally. -/
  leastOrder : Int
  /-- The least number of digits of an exponent. -/
  exponentDigits : Nat

namespace Layout

/-- The order from which on every layout uses an exponent. -/
def exponentOrder : Int := 16

/-- The layout of values and of compact JSON: `0.0001`, `1e-05`. -/
def plain : Layout := ⟨-4, 2⟩

/-- The layout of reports: `0.00001`, `1e-6`. -/
def report : Layout := ⟨-5, 1⟩

/-- Digits with a point after the first `whole` of them, zeros filled in where there are none. -/
def positional (digits : Text) (whole : Int) : Text :=
  if whole ≤ 0 then "0.".toText ++ List.replicate (-whole).toNat ('0' : CodePoint) ++ digits
  else if digits.length ≤ whole.toNat then
    digits ++ List.replicate (whole.toNat - digits.length) ('0' : CodePoint) ++ ".0".toText
  else digits.take whole.toNat ++ ".".toText ++ digits.drop whole.toNat

/-- An exponent with its sign and at least `least` digits. -/
def exponent (least : Nat) (e : Int) : Text :=
  let digits := Text.ofNat e.natAbs
  (if e < 0 then '-' else '+') :: (List.replicate (least - digits.length) ('0' : CodePoint) ++ digits)

/-- The leading digit, the others as a fraction, and the order as an exponent. -/
def scientific (l : Layout) (digits : Text) (order : Int) : Text :=
  let fraction : Text := if digits.length ≤ 1 then [] else '.' :: digits.drop 1
  digits.take 1 ++ fraction ++ "e".toText ++ exponent l.exponentDigits order

/-- The text of a decimal. -/
def write (l : Layout) (d : Decimal) : Text :=
  let digits := Text.ofNat d.digits
  if l.leastOrder ≤ d.order ∧ d.order < exponentOrder then positional digits (d.order + 1)
  else l.scientific digits d.order

end Layout

/-- The words for the doubles that have no digits. -/
structure NumberWords where
  nan : Text
  infinite : Text

/-- The text of a double. -/
def Double.write (l : Layout) (words : NumberWords) : Double → Text
  | .nan => words.nan
  | .infinite negative => if negative then '-' :: words.infinite else words.infinite
  | .finite negative m => if negative then '-' :: l.write m.shortest else l.write m.shortest

end MonitorIntake
