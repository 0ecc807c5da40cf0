/-!
# Texts

A text is a list of code points. Surrogates are code points too: an escape in a JSON string may name half of a pair,
and such a half stays a single element of the text (`CodePoint.IsHigh`, `CodePoint.IsLow`), so texts are lists of
`CodePoint` and not of `Char`. A string literal becomes a text by `String.toText`.
-/

namespace MonitorIntake

/-- A code point, surrogates included. -/
structure CodePoint where
  val : Nat
  isLt : val < 0x110000
  deriving DecidableEq

/-- A text: code points in reading order. -/
abbrev Text := List CodePoint

namespace CodePoint

theorem toNat_lt (c : Char) : c.toNat < 0x110000 := by
  have h := c.valid
  unfold UInt32.isValidChar Nat.isValidChar at h
  show c.val.toNat < _
  omega

/-- The code point of a character. -/
def ofChar (c : Char) : CodePoint := ⟨c.toNat, toNat_lt c⟩

instance : Coe Char CodePoint := ⟨ofChar⟩

instance : Inhabited CodePoint := ⟨ofChar 'A'⟩

/-- The code point with a given number, if there is one. -/
def ofNat? (n : Nat) : Option CodePoint :=
  if h : n < 0x110000 then some ⟨n, h⟩ else none

/-- The first half of a surrogate pair. -/
def isHigh (c : CodePoint) : Bool := 0xD800 ≤ c.val && c.val ≤ 0xDBFF

/-- The second half of a surrogate pair. -/
def isLow (c : CodePoint) : Bool := 0xDC00 ≤ c.val && c.val ≤ 0xDFFF

/-- Half of a surrogate pair. -/
def isSurrogate (c : CodePoint) : Bool := 0xD800 ≤ c.val && c.val ≤ 0xDFFF

/-- The code point that a high and a low surrogate stand for together. -/
def join (high low : CodePoint) : CodePoint :=
  let n := 0x10000 + (high.val - 0xD800) * 0x400 + (low.val - 0xDC00)
  if h : n < 0x110000 then ⟨n, h⟩ else low

/-- The character of a code point; a surrogate has none and becomes U+FFFD. -/
def toChar (c : CodePoint) : Char := if c.isSurrogate then '\uFFFD' else Char.ofNat c.val

/-- An ASCII decimal digit. -/
def isDigit (c : CodePoint) : Bool := 0x30 ≤ c.val && c.val ≤ 0x39

/-- The value of a decimal digit. -/
def digitValue (c : CodePoint) : Nat := c.val - 0x30

/-- The value of a hexadecimal digit of either case. -/
def hexValue? (c : CodePoint) : Option Nat :=
  if 0x30 ≤ c.val && c.val ≤ 0x39 then some (c.val - 0x30)
  else if 0x41 ≤ c.val && c.val ≤ 0x46 then some (c.val - 0x37)
  else if 0x61 ≤ c.val && c.val ≤ 0x66 then some (c.val - 0x57)
  else none

/-- The lower-case form of an ASCII letter; anything else is kept. -/
def asciiLower (c : CodePoint) : CodePoint :=
  if h : 0x41 ≤ c.val ∧ c.val ≤ 0x5A then ⟨c.val + 0x20, by omega⟩ else c

/-- The decimal digit of a number below ten. -/
def ofDigit (d : Nat) : CodePoint := ⟨0x30 + d % 10, by omega⟩

/-- The lower-case hexadecimal digit of a number below sixteen. -/
def ofHexDigit (d : Nat) : CodePoint :=
  if d % 16 < 10 then ⟨0x30 + d % 16, by omega⟩ else ⟨0x57 + d % 16, by omega⟩

end CodePoint

end MonitorIntake

/-- The text of a string. -/
def String.toText (s : String) : MonitorIntake.Text := s.toList.map MonitorIntake.CodePoint.ofChar

namespace MonitorIntake.Text

/-- The string of a text, with U+FFFD in the place of a surrogate. -/
def toString (t : Text) : String := String.ofList (t.map CodePoint.toChar)

/-- The number written by decimal digits, read from the left. -/
def readDigits (t : Text) : Nat := t.foldl (fun n c => 10 * n + c.digitValue) 0

/-- A natural number in decimal digits. -/
def ofNat (n : Nat) : Text := (Nat.toDigits 10 n).map CodePoint.ofChar

/-- An integer in decimal digits, with a minus sign when it is negative. -/
def ofInt : Int → Text
  | .ofNat n => ofNat n
  | .negSucc n => '-' :: ofNat (n + 1)

/-- The lowest `width` hexadecimal digits of a number, in lower case. -/
def hex : (width : Nat) → Nat → Text
  | 0, _ => []
  | width + 1, n => hex width (n / 16) ++ [CodePoint.ofHexDigit n]

/-- A text of `n` spaces. -/
def spaces (n : Nat) : Text := List.replicate n (' ' : CodePoint)

/-- The parts of a text between the occurrences of a separator; a text without it is one part. -/
def splitAt (separator : CodePoint) : Text → List Text
  | [] => [[]]
  | c :: rest =>
    if c = separator then [] :: splitAt separator rest
    else
      match splitAt separator rest with
      | part :: parts => (c :: part) :: parts
      | [] => [[c]]

/-- Texts put together with a separator between each two. -/
def joinWith (separator : Text) : List Text → Text
  | [] => []
  | [t] => t
  | t :: ts => t ++ separator ++ joinWith separator ts

/-- A text between two code points. -/
def between (left right : CodePoint) (t : Text) : Text := left :: (t ++ [right])

/-- Comparison of texts by code points, the shorter of two first where one continues the other. -/
def le : Text → Text → Bool
  | [], _ => true
  | _ :: _, [] => false
  | c :: s, d :: t => c.val < d.val || (c = d && le s t)

/-- The text has a given beginning. -/
def startsWith (t start : Text) : Bool := start.isPrefixOf t

/-- The text has half of a surrogate pair in it. -/
def hasSurrogate (t : Text) : Bool := t.any CodePoint.isSurrogate

end MonitorIntake.Text
