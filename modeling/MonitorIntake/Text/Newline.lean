import MonitorIntake.Text.Basic

/-!
# Line ends

A text that comes from a file or a standard stream has each carriage return, alone or before a line feed, turned into
one line feed (`Text.foldNewlines`).
-/

namespace MonitorIntake.Text

/-- Line ends folded, where `afterReturn` tells that the carriage return of a pair has just been written as a feed. -/
def foldNewlinesFrom (afterReturn : Bool) : Text → Text
  | [] => []
  | c :: rest =>
    if c.val = 0x0D then '\n' :: foldNewlinesFrom true rest
    else if c.val = 0x0A ∧ afterReturn then foldNewlinesFrom false rest
    else c :: foldNewlinesFrom false rest

/-- The text with every line end written as a single line feed. -/
def foldNewlines (t : Text) : Text := foldNewlinesFrom false t

end MonitorIntake.Text
