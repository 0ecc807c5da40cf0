import MonitorIntake.Decimal.Layout
import MonitorIntake.Yaml.Timestamp

/-!
# Values of scalars

What a scalar can denote. Two values are the same key of a mapping when they are equal (`Scalar.same`): truth values and
numbers by their numerical value, timestamps by their time. A value that is no number is the same key only as itself, so
it is told where it comes from.
-/

namespace MonitorIntake.Yaml

/-- The value of a scalar. -/
inductive Scalar
  | null
  | truth (b : Bool)
  | integer (i : Int)
  | number (d : Double)
  /-- The value that is no number: the one that has a word of its own, or that of the node with a number. -/
  | notNumber (origin : Option Nat)
  | text (t : Text)
  | bytes (bs : List UInt8)
  | timestamp (s : Timestamp)
  deriving DecidableEq

namespace Scalar

/-- The value counts for nothing: null, the truth value false, zero, and what is empty. -/
def isVoid : Scalar → Bool
  | null => true
  | truth b => !b
  | integer i => i == 0
  | number d => d.isZero
  | notNumber _ => false
  | text t => t.isEmpty
  | bytes bs => bs.isEmpty
  | timestamp _ => false

/-- The value of a double that comes from a given place. -/
def ofDouble (origin : Option Nat) : Double → Scalar
  | .nan => notNumber origin
  | d => number d

/-- The integer of a truth value or an integer. -/
def integer? : Scalar → Option Int
  | truth b => some (if b then 1 else 0)
  | integer i => some i
  | _ => none

/-- The two values are the same key. -/
def same (s u : Scalar) : Bool :=
  match s, u with
  | null, null => true
  | number d, number e => d.equalsNumber e
  | number d, u => (u.integer?.map d.equalsInt).getD false
  | s, number e => (s.integer?.map e.equalsInt).getD false
  | notNumber o, notNumber p => o == p
  | text t, text v => t == v
  | bytes bs, bytes cs => bs == cs
  | timestamp s, timestamp u => s.same u
  | s, u => s.integer?.isSome && s.integer? == u.integer?

/-- The text of a byte between quotation marks. -/
def byteText (mark : CodePoint) (b : UInt8) : Text :=
  let n := b.toNat
  if n = mark.val ∨ n = 0x5C then '\\' :: (CodePoint.ofNat? n).toList
  else if n = 0x09 then "\\t".toText
  else if n = 0x0A then "\\n".toText
  else if n = 0x0D then "\\r".toText
  else if n < 0x20 ∨ 0x7F ≤ n then '\\' :: 'x' :: Text.hex 2 n
  else (CodePoint.ofNat? n).toList

/-- The text of bytes: quotation marks around them and a letter before. -/
def bytesText (bs : List UInt8) : Text :=
  let mark : CodePoint := if bs.contains 0x27 && !bs.contains 0x22 then '"' else '\''
  'b' :: Text.between mark mark (bs.flatMap (byteText mark))

/-- The words for doubles without digits. -/
def words : NumberWords := ⟨"nan".toText, "inf".toText⟩

/-- What stands in a report for an integer of more digits than are written. -/
def longInteger : Text := "<unprintable int object>".toText

/-- The text of an integer in a report. -/
def integerText (i : Int) : Text :=
  let digits := Text.ofNat i.natAbs
  if Json.digitLimit < digits.length then longInteger else if i < 0 then '-' :: digits else digits

/-- The text of a value in a report. -/
def shown : Scalar → Text
  | null => "None".toText
  | truth b => if b then "True".toText else "False".toText
  | integer i => integerText i
  | number d => d.write .plain words
  | notNumber _ => words.nan
  | text t => t
  | bytes bs => bytesText bs
  | timestamp s => s.text

end Scalar

end MonitorIntake.Yaml
