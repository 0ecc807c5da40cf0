import MonitorIntake.Text.Basic

/-!
# Blank texts

The white space of Unicode together with the four separators U+001C to U+001F. A text is blank when nothing is left
after `strip`, which is the case exactly when all of it is white space (`isBlank`).
-/

namespace MonitorIntake

/-- White space, the information separators included. -/
def CodePoint.isSpace (c : CodePoint) : Bool :=
  let n := c.val
  (0x09 ≤ n && n ≤ 0x0D) || (0x1C ≤ n && n ≤ 0x20) || n == 0x85 || n == 0xA0 || n == 0x1680 ||
    (0x2000 ≤ n && n ≤ 0x200A) || n == 0x2028 || n == 0x2029 || n == 0x202F || n == 0x205F || n == 0x3000

namespace Text

/-- The text without white space at its two ends. -/
def strip (t : Text) : Text :=
  ((t.dropWhile CodePoint.isSpace).reverse.dropWhile CodePoint.isSpace).reverse

/-- The text is empty or consists of white space only. -/
def isBlank (t : Text) : Bool := t.all CodePoint.isSpace

end Text

end MonitorIntake
