import MonitorIntake.Text.Blocks
import MonitorIntake.Yaml.Fault

/-!
# Sources of YAML documents

A document is read from a file while it is scanned, the first two blocks at once and then block by block. So a fault
of a block, bytes that are no text or a code point that may not stand in a document, counts only for a reader who
comes to that block. A `Source` is the text of the blocks that are sound, and the fault behind them.
-/

namespace MonitorIntake.Yaml

/-- A text that is read bit by bit. -/
structure Source where
  text : Text
  /-- What is found behind the text, if that is not its end. -/
  broken : Option Error

/-- A code point that may stand in a YAML text. -/
def isAcceptable (c : CodePoint) : Bool :=
  let n := c.val
  n = 0x09 || n = 0x0A || n = 0x0D || (0x20 ≤ n && n ≤ 0x7E) || n = 0x85 || (0xA0 ≤ n && n ≤ 0xD7FF) ||
    (0xE000 ≤ n && n ≤ 0xFFFD) || 0x10000 ≤ n

namespace Source

/-- The number of code points that are read at first. -/
def firstLength : Nat := 2 * blockLength

/-- The place where the block of a place begins; the first two blocks are one. -/
def blockStart (place : Nat) : Nat := if place < firstLength then 0 else place / blockLength * blockLength

/-- The source of a text and what is found behind it. -/
def ofText (t : Text) (broken : Option Error) : Source :=
  let sound := t.takeWhile isAcceptable
  match t.drop sound.length with
  | c :: _ => ⟨t.take (blockStart sound.length), some (.malformed (.unprintable c))⟩
  | [] => ⟨t, broken⟩

/-- The source of the bytes of a file. -/
def ofBytes (bytes : List UInt8) : Source :=
  match Text.ofUtf8 bytes with
  | .ok t => ofText t.foldNewlines none
  | .error _ =>
    match Feed.untilFault bytes with
    | (t, none) => ofText t none
    | (t, some e) => if t.length < firstLength then ⟨[], some (.undecodable e)⟩ else ofText t (some (.undecodable e))

end Source

end MonitorIntake.Yaml
