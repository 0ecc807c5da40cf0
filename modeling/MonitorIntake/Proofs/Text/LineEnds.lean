import MonitorIntake.Proofs.Json.Tokens
import MonitorIntake.Text.Newline

/-!
# Texts with other line ends

`SameLines t u` says that `t` and `u` are the same but for the line ends in them: where one has carriage returns and line
feeds in a row, the other has some too, of any number and kind. The relation is symmetric, and a text is related to the
one with its line ends folded (`sameLines_foldNewlines`).
-/

namespace MonitorIntake

/-- A carriage return or a line feed. -/
def CodePoint.isLineEnd (c : CodePoint) : Bool := c.val = 0x0D || c.val = 0x0A

namespace Text

/-- The texts are the same up to their line ends. Where line ends stand in a row, one of them more on either side makes
no difference. -/
inductive SameLines : Text → Text → Prop
  | nil : SameLines [] []
  | cons {c : CodePoint} {t u : Text} : c.isLineEnd = false → SameLines t u → SameLines (c :: t) (c :: u)
  | ends {c d : CodePoint} {t u : Text} :
      c.isLineEnd = true → d.isLineEnd = true → SameLines t u → SameLines (c :: t) (d :: u)
  | left {b c d : CodePoint} {t u : Text} : b.isLineEnd = true → c.isLineEnd = true → d.isLineEnd = true →
      SameLines (c :: t) (d :: u) → SameLines (b :: c :: t) (d :: u)
  | right {b c d : CodePoint} {t u : Text} : b.isLineEnd = true → c.isLineEnd = true → d.isLineEnd = true →
      SameLines (c :: t) (d :: u) → SameLines (c :: t) (b :: d :: u)

namespace SameLines

variable {t t' u : Text} {c : CodePoint}

theorem symm (h : SameLines t u) : SameLines u t := by
  induction h with
  | nil => exact .nil
  | cons hc _ ih => exact .cons hc ih
  | ends hc hd _ ih => exact .ends hd hc ih
  | left hb hc hd _ ih => exact .right hb hd hc ih
  | right hb hc hd _ ih => exact .left hb hd hc ih

/-- What is no line end stands in both texts. -/
theorem of_cons (hc : c.isLineEnd = false) (h : SameLines (c :: t) t') : ∃ u, t' = c :: u ∧ SameLines t u := by
  cases h with
  | cons _ h => exact ⟨_, rfl, h⟩
  | ends hc' _ _ | left hc' _ _ _ | right _ hc' _ _ =>
    rw [hc] at hc'
    cases hc'

theorem of_append {w : Text} (hw : ∀ c ∈ w, c.isLineEnd = false) (h : SameLines (w ++ t) t') :
    ∃ u, t' = w ++ u ∧ SameLines t u := by
  induction w generalizing t' with
  | nil => exact ⟨t', rfl, h⟩
  | cons c w ih =>
    obtain ⟨hc, hw⟩ := List.forall_mem_cons.1 hw
    obtain ⟨u, rfl, hu⟩ := of_cons hc h
    obtain ⟨u', rfl, hu'⟩ := ih hw hu
    exact ⟨u', rfl, hu'⟩

theorem of_nil (h : SameLines [] t') : t' = [] := by
  cases h
  rfl

end SameLines

/-- Folding keeps the lines, also when a carriage return has just been written as a line feed. -/
theorem sameLines_foldNewlinesFrom : ∀ t : Text, SameLines t (foldNewlinesFrom false t) ∧
    SameLines ('\r' :: t) ('\n' :: foldNewlinesFrom true t)
  | [] => ⟨.nil, .ends rfl rfl .nil⟩
  | c :: t => by
    obtain ⟨hstart, hafter⟩ := sameLines_foldNewlinesFrom t
    by_cases hreturn : c.val = 0x0D
    · obtain rfl : c = '\r' := CodePoint.ext hreturn
      exact ⟨hafter, .ends rfl rfl hafter⟩
    · by_cases hfeed : c.val = 0x0A
      · obtain rfl : c = '\n' := CodePoint.ext hfeed
        exact ⟨.ends rfl rfl hstart, .left rfl rfl rfl (.ends rfl rfl hstart)⟩
      · have hc : c.isLineEnd = false := by simp [CodePoint.isLineEnd, hreturn, hfeed]
        simp only [foldNewlinesFrom, hreturn, hfeed, false_and, if_false]
        exact ⟨.cons hc hstart, .ends rfl rfl (.cons hc hstart)⟩

/-- **A text and the text with its line ends folded have the same lines.** -/
theorem sameLines_foldNewlines (t : Text) : SameLines t t.foldNewlines := (sameLines_foldNewlinesFrom t).1

end Text

end MonitorIntake
