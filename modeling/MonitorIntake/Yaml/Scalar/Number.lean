import MonitorIntake.Text.Lowercase
import MonitorIntake.Text.Numeral
import MonitorIntake.Yaml.Scalar

/-!
# Numbers of scalars

The text of an integer is binary after `0b`, hexadecimal after `0x`, octal after any other zero, a sum of powers of
sixty with colons in it, and decimal otherwise; that of a number is decimal or in base sixty. Low lines are passed
over. A part of a number may have digits of any script, white space around it and a sign of its own.
-/

namespace MonitorIntake.Yaml

/-- The text without the mark of its base. -/
def dropRadix (base : Nat) : Text → Text
  | c :: d :: rest =>
    let letter := d.asciiLower
    if c = '0' ∧ (base = 2 ∧ letter = 'b' ∨ base = 8 ∧ letter = 'o' ∨ base = 16 ∧ letter = 'x') then rest
    else c :: d :: rest
  | t => t

/-- The value of digits in a base, if all are such digits. -/
def digitsValue? (base : Nat) (t : Text) : Option Nat :=
  t.foldl (fun n c => do
    let d ← c.hexValue?
    if d < base then return (← n) * base + d else none) (some 0)

/-- An integer in a base, with an optional sign and an optional mark of the base. -/
def readInteger (base : Nat) (t : Text) : Except ScalarFault Int :=
  let form := t.numeralForm
  let digits := dropRadix base form.dropSign
  let count := (digits.takeWhile CodePoint.isDigit).length
  if base = 10 ∧ Json.digitLimit < count then .error (.tooManyDigits count)
  else if digits.isEmpty then .error (.integer base t)
  else
    match digitsValue? base digits with
    | some n => .ok (if form.isNegative then -(n : Int) else n)
    | none => .error (.integer base t)

/-- The sum of parts in base sixty. -/
def sixtieths (parts : List Int) : Int := parts.foldl (fun n part => n * 60 + part) 0

/-- The value of the parts of an integer between its colons. -/
def readSixtieths (t : Text) : Except ScalarFault Int :=
  ((Text.splitAt ':' t).mapM (readInteger 10)).map sixtieths

/-- The text without low lines. -/
def dropLowLines (t : Text) : Text := t.filter (· ≠ ('_' : CodePoint))

/-- The integer of a scalar whose sign is taken off. -/
def integerBody (t : Text) : Except ScalarFault Int :=
  match t with
  | [] => .error .noCharacter
  | c :: rest =>
    if c = '0' then
      if rest.isEmpty then .ok 0
      else if rest.head? = some ('b' : CodePoint) then readInteger 2 (rest.drop 1)
      else if rest.head? = some ('x' : CodePoint) then readInteger 16 (rest.drop 1)
      else readInteger 8 t
    else if t.contains (':' : CodePoint) then readSixtieths t
    else readInteger 10 t

/-- The integer of a scalar. -/
def integerOfText (t : Text) : Except ScalarFault Int :=
  let digits := dropLowLines t
  if digits.isEmpty then .error .noCharacter
  else (integerBody digits.dropSign).map fun n => if digits.isNegative then -n else n

/-! ## Numbers with a fraction -/

/-- The words for doubles without digits, as they are read. -/
def numberWord? (t : Text) : Option Double :=
  let word := t.map CodePoint.asciiLower
  if word = "inf".toText ∨ word = "infinity".toText then some (.infinite false)
  else if word = "nan".toText then some .nan
  else none

/-- The exponent at the end of a number; there may be none. -/
def readExponent? (t : Text) : Option Int :=
  match t with
  | [] => some 0
  | e :: rest =>
    let digits := Text.dropSign rest
    if e.asciiLower = 'e' ∧ ¬digits.isEmpty ∧ digits.all CodePoint.isDigit then
      some (if Text.isNegative rest then -(Text.readDigits digits : Int) else Text.readDigits digits)
    else none

/-- The double of digits with an optional point and an optional exponent. -/
def readDigitsNumber? (negative : Bool) (t : Text) : Option Double :=
  let whole := t.takeWhile CodePoint.isDigit
  let afterWhole := t.drop whole.length
  let (fraction, rest) : Text × Text := match afterWhole with
    | c :: more =>
      if c = '.' then (more.takeWhile CodePoint.isDigit, more.dropWhile CodePoint.isDigit) else ([], afterWhole)
    | [] => ([], [])
  if whole.isEmpty && fraction.isEmpty then none
  else (readExponent? rest).map fun e =>
    Double.ofDecimal negative ⟨Text.readDigits (whole ++ fraction), e - fraction.length⟩

/-- A double, with an optional sign. -/
def readNumber (t : Text) : Except ScalarFault Double :=
  let form := t.numeralForm
  let word := (numberWord? form.dropSign).map fun d => if form.isNegative then d.negate else d
  match word.or (readDigitsNumber? form.isNegative form.dropSign) with
  | some d => .ok d
  | none => .error (.number t)

/-- The sum of parts in base sixty, the last first, where the first is to be multiplied by `place`. -/
def addSixtieths (sum : Double) (place : Nat) : List Double → Except ScalarFault Double
  | [] => .ok sum
  | part :: rest =>
    match Double.ofInt place with
    | .finite negative m => addSixtieths (sum.add (part.mul (.finite negative m))) (place * 60) rest
    | _ => .error .placeSize

/-- The number of a scalar whose sign is taken off. -/
def numberBody (t : Text) : Except ScalarFault Double :=
  if t = ".inf".toText then .ok (.infinite false)
  else if t = ".nan".toText then .ok .nan
  else if t.contains (':' : CodePoint) then do
    let parts ← (Text.splitAt ':' t).mapM readNumber
    addSixtieths (.finite false .zero) 1 parts.reverse
  else readNumber t

/-- The text of a number as it is read: in lower case and without low lines. -/
def numberForm (t : Text) : Text := (dropLowLines t).lowercase

/-- The text is the word for the value that is no number. -/
def isNotNumberWord (t : Text) : Bool := (numberForm t).dropSign == ".nan".toText

/-- The number of a scalar. -/
def numberOfText (t : Text) : Except ScalarFault Double :=
  let word := numberForm t
  if word.isEmpty then .error .noCharacter
  else (numberBody word.dropSign).map fun d => if word.isNegative then d.negate else d

/-- The truth value of a scalar. -/
def truthOfText (t : Text) : Except ScalarFault Bool :=
  let word := t.lowercase
  if ["yes", "true", "on"].any fun w => word == w.toText then .ok true
  else if ["no", "false", "off"].any fun w => word == w.toText then .ok false
  else .error (.truth word)

end MonitorIntake.Yaml
