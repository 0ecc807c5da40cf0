import MonitorIntake.Text.Printable

/-!
# Quoted texts

A text inside quotation marks, on one line and in printable code points only (`Text.quoted`). The mark is the
apostrophe, or the double mark for a text that holds apostrophes and no double mark. A backslash and the mark are
written after a backslash, tab, line feed and carriage return by their letters, and any other code point that is not
printable by its number, in the shortest of the forms `\xNN`, `\uNNNN` and `\UNNNNNNNN` that holds it.
-/

namespace MonitorIntake.Text

/-- The mark around a quoted text. -/
def quoteMark (t : Text) : CodePoint :=
  if t.contains ('\'' : CodePoint) && !t.contains ('"' : CodePoint) then '"' else '\''

/-- The written form of one code point inside the given marks. -/
def quotedPoint (mark c : CodePoint) : Text :=
  if c = mark ∨ c.val = 0x5C then ['\\', c]
  else if c.val = 0x0A then ['\\', 'n']
  else if c.val = 0x0D then ['\\', 'r']
  else if c.val = 0x09 then ['\\', 't']
  else if c.isPrintable then [c]
  else if c.val < 0x100 then '\\' :: 'x' :: hex 2 c.val
  else if c.val < 0x10000 then '\\' :: 'u' :: hex 4 c.val
  else '\\' :: 'U' :: hex 8 c.val

/-- The text inside quotation marks. -/
def quoted (t : Text) : Text :=
  between t.quoteMark t.quoteMark (t.flatMap (quotedPoint t.quoteMark))

end MonitorIntake.Text
