import MonitorIntake.Text.Basic

/-!
# Similar texts

Two texts are alike as far as they have common parts: the longest common part, and then those before it and those after
it (`Text.commonLength`). A name is a guess for a misspelled one if at least three fifths of both texts together lie in
common parts (`Text.guesses`).
-/

namespace MonitorIntake.Text

/-- A common part of two texts: where it begins in each, and its length. -/
structure CommonPart where
  left : Nat
  right : Nat
  length : Nat

/-- The length of the common beginning of two texts. -/
def commonStart : Text → Text → Nat
  | c :: s, d :: t => if c = d then commonStart s t + 1 else 0
  | _, _ => 0

/-- The longer of two common parts, the first of two equally long ones. -/
def CommonPart.longer (p q : CommonPart) : CommonPart := if p.length < q.length then q else p

/-- The longest common part of two texts that begins at the front of the first; `left` and `right` are the places of
these texts. -/
def longestAtFront (s : Text) (left right : Nat) : Text → CommonPart
  | [] => ⟨left, right, 0⟩
  | d :: t => CommonPart.longer ⟨left, right, commonStart s (d :: t)⟩ (longestAtFront s left (right + 1) t)

/-- The longest common part of two texts, the first in the first text among equally long ones. -/
def longestPart (left : Nat) (t : Text) : Text → CommonPart
  | [] => ⟨left, 0, 0⟩
  | c :: s => CommonPart.longer (longestAtFront (c :: s) left 0 t) (longestPart (left + 1) t s)

/-- The number of code points in common parts of two texts. -/
def commonLengthFrom : (fuel : Nat) → Text → Text → Nat
  | 0, _, _ => 0
  | fuel + 1, s, t =>
    let p := longestPart 0 t s
    if p.length = 0 then 0
    else
      p.length + commonLengthFrom fuel (s.take p.left) (t.take p.right) +
        commonLengthFrom fuel (s.drop (p.left + p.length)) (t.drop (p.right + p.length))

/-- The number of code points in common parts of two texts. -/
def commonLength (s t : Text) : Nat := commonLengthFrom (s.length + 1) s t

/-- At least three fifths of the two texts lie in common parts. -/
def isAlike (s t : Text) : Bool := 3 * (s.length + t.length) ≤ 10 * commonLength s t

/-- The names that may be meant by a misspelled one, in the order of texts. -/
def guesses (names : List Text) (t : Text) : List Text := (names.filter fun n => isAlike n t).mergeSort le

end MonitorIntake.Text
