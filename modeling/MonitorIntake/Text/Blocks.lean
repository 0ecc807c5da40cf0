import MonitorIntake.Decimal.Binary
import MonitorIntake.Text.Newline
import MonitorIntake.Text.Utf8

/-!
# Files read in blocks

A text in a file is read block by block (`Feed.block`), and the bytes of the file chunk by chunk, whenever the code
points of the chunks before do not fill a block. A fault in the bytes shows only when its chunk is read, and its place
is counted in that chunk and the sequence that was cut off before it. `Feed.untilFault` gives the blocks up to the
first that cannot be read. A chunk has 8192 bytes, or as many as a block needs by the length that the code points of
the last chunk had.
-/

namespace MonitorIntake

/-- The number of code points of a block. -/
def blockLength : Nat := 4096

/-- The least number of bytes that are asked for at once. -/
def chunkLength : Nat := 8192

/-- A file in the course of reading. -/
structure Feed where
  /-- The bytes that have not been read. -/
  left : List UInt8
  /-- The beginning of a sequence that the end of the last chunk cut off. -/
  cut : List UInt8
  /-- The last chunk ended with a carriage return, which is kept until the next is read. -/
  held : Bool
  /-- The code points that are in no block yet. -/
  ready : Text
  /-- The numbers of bytes and of code points of the last chunk. -/
  bytes : Nat
  points : Nat

namespace Feed

/-- A file before it is read. -/
def start (bytes : List UInt8) : Feed := ⟨bytes, [], false, [], 0, 0⟩

/-- The number of bytes of the next chunk, where so many code points are needed. The length of a code point is a double,
and so is its product with the number of them. -/
def chunkSize (need : Nat) (f : Feed) : Nat :=
  if f.points = 0 then chunkLength
  else
    let length := Double.ofUnits false (f.bytes * twoTo 1074) f.points
    match (length.mul (Double.ofInt need)).signedUnits? with
    | some units => max chunkLength (units.toNat / twoTo 1074)
    | none => chunkLength

/-- The text of a chunk with its line ends folded, and whether a carriage return is kept back from its end. -/
def folded (final held : Bool) (t : Text) : Text × Bool :=
  let joins := held && (final || !t.isEmpty)
  let t : Text := if joins then '\r' :: t else t
  if !final && t.getLast? == some ('\r' : CodePoint) then (Text.foldNewlines t.dropLast, true)
  else (t.foldNewlines, held && !joins)

/-- The next chunk read, and whether there was anything more to read. -/
def chunk (need : Nat) (f : Feed) : Except Utf8Error (Bool × Feed) := do
  let size := f.chunkSize need
  let chunk := f.left.take size
  let (t, cut) ← Utf8.decode (f.cut ++ chunk)
  if chunk.isEmpty then Utf8.finish cut
  let (t, held) := folded chunk.isEmpty f.held t
  return (!chunk.isEmpty || !t.isEmpty, ⟨f.left.drop size, cut, held, t, chunk.length, t.length⟩)

/-- The rest of a block, of which `done` has been read and so many code points are missing. -/
def fill : (fuel : Nat) → (need : Nat) → (done : Text) → Feed → Except Utf8Error (Text × Feed)
  | 0, _, done, f => .ok (done, f)
  | fuel + 1, need, done, f => do
    let taken := f.ready.take need
    let done := done ++ taken
    let need := need - taken.length
    let f := { f with ready := f.ready.drop taken.length }
    if need = 0 then return (done, f)
    let (more, f) ← f.chunk need
    if more then fill fuel need done f else return (done, f)

/-- The next block; it is empty at the end of the file. -/
def block (f : Feed) : Except Utf8Error (Text × Feed) := fill (f.left.length + 3) blockLength [] f

/-- The blocks up to the end of the file or to the first that cannot be read, and why it cannot. -/
def blocks : (fuel : Nat) → (done : Text) → Feed → Text × Option Utf8Error
  | 0, done, _ => (done, none)
  | fuel + 1, done, f =>
    match f.block with
    | .error e => (done, some e)
    | .ok (t, f) => if t.isEmpty then (done, none) else blocks fuel (done ++ t) f

/-- The blocks of a file up to the first that cannot be read, and why it cannot. -/
def untilFault (bytes : List UInt8) : Text × Option Utf8Error := blocks (bytes.length + 1) [] (start bytes)

end Feed

end MonitorIntake
