import MonitorIntake.Text.Numeral
import MonitorIntake.Yaml.Tag
import MonitorIntake.Yaml.Timestamp

/-!
# Tags of plain scalars

A plain scalar without a tag has the tag of the pattern that it matches (`Tag.implicit`): a truth value, a number, an
integer, a merge key, nothing, a timestamp or the value key; any other scalar is text. A line feed at the end does not
count.
-/

namespace MonitorIntake.Yaml

/-- A digit or a low line. -/
def isNumeral (c : CodePoint) : Bool := c.isDigit || c = '_'

/-- The text that is left after a digit and any digits and low lines. -/
def afterNumeral? : Text → Option Text
  | c :: rest => if c.isDigit then some (rest.dropWhile isNumeral) else none
  | [] => none

/-- A part of a number in base sixty at the front: a colon and one or two digits below sixty; and the text after it. -/
def afterSixtieth? : Text → Option Text
  | c :: d :: rest =>
    if c ≠ ':' ∨ ¬d.isDigit then none
    else
      match rest with
      | e :: rest' => if d.digitValue ≤ 5 && e.isDigit then some rest' else some rest
      | [] => some []
  | _ => none

/-- The text after all parts in base sixty at its front. -/
def dropSixtieths : (fuel : Nat) → Text → Text
  | 0, t => t
  | fuel + 1, t =>
    match afterSixtieth? t with
    | some rest => dropSixtieths fuel rest
    | none => t

/-- The text after one part in base sixty or more. -/
def afterSixtieths? (t : Text) : Option Text := (afterSixtieth? t).map (dropSixtieths t.length)

/-- An exponent with its sign, or nothing. -/
def isExponent : Text → Bool
  | [] => true
  | e :: s :: digits =>
    (e = 'e' || e = 'E') && (s = '-' || s = '+') && !digits.isEmpty && digits.all CodePoint.isDigit
  | _ => false

/-- A point, digits and low lines, and an exponent or nothing. -/
def isFraction : Text → Bool
  | c :: rest => c = '.' && isExponent (rest.dropWhile isNumeral)
  | [] => false

/-- A part in base sixty or more, and a fraction without an exponent. -/
def isSixtiethFraction (t : Text) : Bool :=
  match afterSixtieths? t with
  | some (c :: rest) => c = '.' && rest.all isNumeral
  | _ => false

/-- A number with a fraction, or one that is infinite or none at all. -/
def isNumber (t : Text) : Bool :=
  let body := t.dropSign
  (match afterNumeral? body with
    | some rest => isFraction rest || isSixtiethFraction rest
    | none => false) ||
    (match t with
      | c :: d :: _ => c = '.' && d.isDigit && isFraction t
      | _ => false) ||
    [".inf".toText, ".Inf".toText, ".INF".toText].contains body ||
    [".nan".toText, ".NaN".toText, ".NAN".toText].contains t

/-- An integer: in base two, eight, ten, sixteen or sixty. -/
def isInteger (t : Text) : Bool :=
  match t.dropSign with
  | [] => false
  | c :: rest =>
    if c = '0' then
      rest.isEmpty || rest.all (fun d => ('0' : CodePoint).val ≤ d.val && d.val ≤ ('7' : CodePoint).val || d = '_') ||
        (match rest with
          | x :: digits =>
            !digits.isEmpty &&
              (x = 'b' && digits.all (fun d => d = '0' || d = '1' || d = '_') ||
                x = 'x' && digits.all fun d => d.hexValue?.isSome || d = '_')
          | [] => false)
    else if c.isDigit then
      match rest.dropWhile isNumeral with
      | [] => true
      | more => afterSixtieths? more == some []
    else false

/-- A truth value in one of three forms of writing. -/
def isTruth (t : Text) : Bool :=
  [("yes", "Yes", "YES"), ("no", "No", "NO"), ("true", "True", "TRUE"), ("false", "False", "FALSE"),
    ("on", "On", "ON"), ("off", "Off", "OFF")].any
    fun w => t == w.1.toText || t == w.2.1.toText || t == w.2.2.toText

/-- Nothing, or a word for it. -/
def isNull (t : Text) : Bool := ["", "~", "null", "Null", "NULL"].any fun w => t == w.toText

namespace Tag

/-- The tag of a text without the line feed at its end. -/
def ofPattern (t : Text) : Tag :=
  if isTruth t then truth
  else if isNumber t then number
  else if isInteger t then integer
  else if t = "<<".toText then merge
  else if isNull t then null
  else if Timestamp.isPattern t then timestamp
  else if t = "=".toText then value
  else if t = "!".toText ∨ t = "&".toText ∨ t = "*".toText then other (standardStart ++ "yaml".toText)
  else text

/-- The tag of a plain scalar without a tag. -/
def implicit (t : Text) : Tag :=
  if t = "\n".toText then text
  else if t.getLast? = some ('\n' : CodePoint) then ofPattern t.dropLast
  else ofPattern t

end Tag

end MonitorIntake.Yaml
