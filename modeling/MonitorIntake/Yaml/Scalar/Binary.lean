import MonitorIntake.Text.Basic

/-!
# Base 64

Bytes written in base 64, four digits for three bytes (`Base64.decode?`). Anything that is no digit is passed over, and
enough padding ends the text wherever it stands; a group that neither is whole nor ends in padding is refused.
-/

namespace MonitorIntake.Base64

/-- The value of a digit. -/
def digit? (c : CodePoint) : Option Nat :=
  let n := c.val
  if 0x41 ≤ n ∧ n ≤ 0x5A then some (n - 0x41)
  else if 0x61 ≤ n ∧ n ≤ 0x7A then some (n - 0x61 + 26)
  else if c.isDigit then some (n - 0x30 + 52)
  else if n = 0x2B then some 62
  else if n = 0x2F then some 63
  else none

/-- A group of up to four digits, not all read yet: how many, the bits left of the last, and the padding after it. -/
structure Group where
  digits : Nat
  bits : Nat
  padding : Nat

/-- One more digit of a group: the group with it, and the byte that it completes. -/
def Group.push (g : Group) (d : Nat) : Group × List UInt8 :=
  match g.digits with
  | 0 => (⟨1, d, 0⟩, [])
  | 1 => (⟨2, d % 16, 0⟩, [(g.bits * 4 + d / 16).toUInt8])
  | 2 => (⟨3, d % 4, 0⟩, [(g.bits * 16 + d / 4).toUInt8])
  | _ => (⟨0, 0, 0⟩, [(g.bits * 64 + d).toUInt8])

/-- The bytes of a text after those of `done`, which are given last first. -/
def decodeFrom (g : Group) (done : List UInt8) : Text → Option (List UInt8)
  | [] => if g.digits = 0 then some done.reverse else none
  | c :: rest =>
    if c = '=' then
      if g.digits < 2 then decodeFrom g done rest
      else if 4 ≤ g.digits + g.padding + 1 then some done.reverse
      else decodeFrom { g with padding := g.padding + 1 } done rest
    else
      match digit? c with
      | none => decodeFrom g done rest
      | some d =>
        let (g, bytes) := g.push d
        decodeFrom g (bytes ++ done) rest

/-- The bytes of a text of ASCII characters. -/
def decode? (t : Text) : Option (List UInt8) :=
  if t.all (·.val < 0x80) then decodeFrom ⟨0, 0, 0⟩ [] t else none

end MonitorIntake.Base64
