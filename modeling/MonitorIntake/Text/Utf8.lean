import MonitorIntake.Text.Basic

/-!
# UTF-8

Bytes are read strictly: no surrogates, no overlong forms, nothing above U+10FFFF. `Text.ofUtf8` gives the text of the
bytes or a `Utf8Error`, which names the bytes at fault and what is wrong with them. A sequence that the end of the bytes
cuts off may go on in later bytes, so `Utf8.decode` gives it back beside the text. Where no more bytes follow it is
looked at on its own, and its place is counted from its own first byte.
-/

namespace MonitorIntake

/-- What is wrong with a sequence of bytes. -/
inductive Utf8Fault
  | startByte
  | continuationByte
  | unexpectedEnd
  deriving DecidableEq

/-- A fault in the bytes from `start` up to `stop`; `first` is the byte at `start`. -/
structure Utf8Error where
  fault : Utf8Fault
  first : UInt8
  start : Nat
  stop : Nat
  deriving DecidableEq

namespace Utf8Fault

/-- The wording of a fault. -/
def message : Utf8Fault → Text
  | startByte => "invalid start byte".toText
  | continuationByte => "invalid continuation byte".toText
  | unexpectedEnd => "unexpected end of data".toText

end Utf8Fault

/-- The wording of an error: one byte by its value, several by their places. -/
def Utf8Error.message (e : Utf8Error) : Text :=
  if e.stop = e.start + 1 then
    "'utf-8' codec can't decode byte 0x".toText ++ Text.hex 2 e.first.toNat ++ " in position ".toText ++
      Text.ofNat e.start ++ ": ".toText ++ e.fault.message
  else
    "'utf-8' codec can't decode bytes in position ".toText ++ Text.ofNat e.start ++ "-".toText ++
      Text.ofNat (e.stop - 1) ++ ": ".toText ++ e.fault.message

namespace Utf8

/-- What stands at the front of some bytes. -/
inductive Front
  /-- A whole sequence of `length` bytes. -/
  | point (c : CodePoint) (length : Nat)
  /-- A fault in the first `length` bytes. -/
  | fault (what : Utf8Fault) (length : Nat)
  /-- The beginning of a sequence, and no more bytes. -/
  | cut

/-- A continuation byte. -/
def isContinuation (b : UInt8) : Bool := 0x80 ≤ b && b < 0xC0

/-- The low six bits of a continuation byte. -/
def payload (b : UInt8) : Nat := b.toNat % 0x40

/-- A code point of a given number, as a front of `length` bytes. -/
def Front.ofNat (n length : Nat) : Front :=
  match CodePoint.ofNat? n with
  | some c => .point c length
  | none => .fault .startByte 1

/-- The byte may follow the first byte of a sequence of three or four: this is where overlong forms, surrogates and
numbers above U+10FFFF are refused. -/
def isSecond (first second : UInt8) : Bool :=
  isContinuation second &&
    (if first = 0xE0 then 0xA0 ≤ second
     else if first = 0xED then second < 0xA0
     else if first = 0xF0 then 0x90 ≤ second
     else if first = 0xF4 then second < 0x90
     else true)

/-- The front of some bytes, of which there is at least one. -/
def front (b : UInt8) (rest : List UInt8) : Front :=
  if b < 0x80 then Front.ofNat b.toNat 1
  else if b < 0xC2 then .fault .startByte 1
  else if b < 0xE0 then
    match rest with
    | [] => .cut
    | b₁ :: _ =>
      if isContinuation b₁ then Front.ofNat ((b.toNat % 0x20) * 0x40 + payload b₁) 2
      else .fault .continuationByte 1
  else if b < 0xF0 then
    match rest with
    | [] => .cut
    | [b₁] =>
      if isSecond b b₁ || (b = 0xED && isContinuation b₁) then .cut else .fault .continuationByte 1
    | b₁ :: b₂ :: _ =>
      if !isSecond b b₁ then .fault .continuationByte 1
      else if !isContinuation b₂ then .fault .continuationByte 2
      else Front.ofNat ((b.toNat % 0x10) * 0x1000 + payload b₁ * 0x40 + payload b₂) 3
  else if b < 0xF5 then
    match rest with
    | [] => .cut
    | [b₁] => if isSecond b b₁ then .cut else .fault .continuationByte 1
    | [b₁, b₂] =>
      if !isSecond b b₁ then .fault .continuationByte 1
      else if isContinuation b₂ then .cut else .fault .continuationByte 2
    | b₁ :: b₂ :: b₃ :: _ =>
      if !isSecond b b₁ then .fault .continuationByte 1
      else if !isContinuation b₂ then .fault .continuationByte 2
      else if !isContinuation b₃ then .fault .continuationByte 3
      else Front.ofNat ((b.toNat % 8) * 0x40000 + payload b₁ * 0x1000 + payload b₂ * 0x40 + payload b₃) 4
  else .fault .startByte 1

/-- The fault of a sequence that the end of the bytes cuts off; the beginning of a surrogate is refused as such. -/
def cutFault (b : UInt8) (rest : List UInt8) : Utf8Error :=
  if b = 0xED ∧ rest.any (0xA0 ≤ ·) then ⟨.continuationByte, b, 0, 1⟩
  else ⟨.unexpectedEnd, b, 0, rest.length + 1⟩

/-- The text of bytes, and the beginning of a sequence that their end cuts off. Of the bytes `skip` belong to a sequence
already read, and the first has the given place. -/
def decodeFrom (place skip : Nat) (done : Text) : List UInt8 → Except Utf8Error (Text × List UInt8)
  | [] => .ok (done.reverse, [])
  | b :: rest =>
    match skip with
    | skip + 1 => decodeFrom (place + 1) skip done rest
    | 0 =>
      match front b rest with
      | .point c length => decodeFrom (place + 1) (length - 1) (c :: done) rest
      | .fault what length => .error ⟨what, b, place, place + length⟩
      | .cut => .ok (done.reverse, b :: rest)

/-- The text of bytes, and the beginning of a sequence that their end cuts off. -/
def decode (bytes : List UInt8) : Except Utf8Error (Text × List UInt8) := decodeFrom 0 0 [] bytes

/-- No sequence is cut off for good. -/
def finish : List UInt8 → Except Utf8Error Unit
  | [] => .ok ()
  | b :: rest => .error (cutFault b rest)

end Utf8

/-- The text that bytes encode. -/
def Text.ofUtf8 (bytes : List UInt8) : Except Utf8Error Text := do
  let (t, cut) ← Utf8.decode bytes
  Utf8.finish cut
  return t

namespace CodePoint

/-- The bytes of a code point; a surrogate gets the three bytes its number would have. -/
def utf8 (c : CodePoint) : List UInt8 :=
  let n := c.val
  if n < 0x80 then [n.toUInt8]
  else if n < 0x800 then [(0xC0 + n / 0x40).toUInt8, (0x80 + n % 0x40).toUInt8]
  else if n < 0x10000 then
    [(0xE0 + n / 0x1000).toUInt8, (0x80 + n / 0x40 % 0x40).toUInt8, (0x80 + n % 0x40).toUInt8]
  else
    [(0xF0 + n / 0x40000).toUInt8, (0x80 + n / 0x1000 % 0x40).toUInt8, (0x80 + n / 0x40 % 0x40).toUInt8,
      (0x80 + n % 0x40).toUInt8]

end CodePoint

/-- The bytes of a text. -/
def Text.toUtf8 (t : Text) : List UInt8 := t.flatMap CodePoint.utf8

end MonitorIntake
