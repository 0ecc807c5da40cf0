import MonitorIntake.Text.Basic

/-!
# Texts on a console

What a text becomes when it is printed. Control sequences, which set colours and move the cursor, are left out
(`Text.withoutControls`). The two outputs are kept in one of two ways (`Medium`): as bytes, where half a surrogate pair
cannot be written to the output and is written to the error stream as an escape, and where a line end of two characters
is read back as one; or just as they are written.
-/

namespace MonitorIntake

namespace Text

/-- A parameter of a control sequence: a digit or a sign in the row of the digits. -/
def isControlParameter (c : CodePoint) : Bool := 0x30 ≤ c.val && c.val ≤ 0x3F

/-- A sign between the parameters of a control sequence and its end. -/
def isControlIntermediate (c : CodePoint) : Bool := 0x20 ≤ c.val && c.val ≤ 0x2F

/-- The last character of a control sequence. -/
def isControlEnd (c : CodePoint) : Bool := 0x40 ≤ c.val && c.val ≤ 0x7E

/-- The number of code points of the control sequence at the front; zero if there is none. -/
def controlLength : Text → Nat
  | escape :: bracket :: rest =>
    if escape.val = 0x1B ∧ bracket = '[' then
      let afterParameters := rest.dropWhile isControlParameter
      match afterParameters.dropWhile isControlIntermediate with
      | c :: after => if isControlEnd c then rest.length - after.length + 2 else 0
      | [] => 0
    else 0
  | _ => 0

/-- The text without control sequences, where `skip` code points of one are still to be left out. -/
def withoutControlsFrom (skip : Nat) : Text → Text
  | [] => []
  | c :: rest =>
    match skip with
    | skip + 1 => withoutControlsFrom skip rest
    | 0 =>
      match controlLength (c :: rest) with
      | length + 1 => withoutControlsFrom length rest
      | 0 => c :: withoutControlsFrom 0 rest

/-- The text without control sequences. -/
def withoutControls (t : Text) : Text := withoutControlsFrom 0 t

/-- The text with half pairs of surrogates written as escapes. -/
def escapeHalves (t : Text) : Text :=
  t.flatMap fun c => if c.isSurrogate then '\\' :: 'u' :: hex 4 c.val else [c]

/-- The text with each pair of a carriage return and a line feed written as the line feed alone. -/
def joinLineEnds : Text → Text
  | [] => []
  | c :: rest =>
    if c.val = 0x0D ∧ (rest.head?.map CodePoint.val) = some 0x0A then joinLineEnds rest else c :: joinLineEnds rest

end Text

/-- How the outputs are kept. -/
inductive Medium
  /-- As bytes, which are read back later. -/
  | bytes
  /-- As text. -/
  | text
  deriving DecidableEq

namespace Medium

/-- The text can be written to the output. -/
def canWrite (m : Medium) (t : Text) : Bool := m = text || !t.hasSurrogate

/-- The text as it is written to the error stream. -/
def errorText (m : Medium) (t : Text) : Text := if m = bytes then t.escapeHalves else t

/-- What is read of the text that was written. -/
def readBack (m : Medium) (t : Text) : Text := if m = bytes then t.joinLineEnds else t

end Medium

end MonitorIntake
