import MonitorIntake.Decimal.Layout
import MonitorIntake.Json.Value
import MonitorIntake.Text.Quoted

/-!
# Values as text

The text of a value in log records and error messages: quoted strings (`Text.quoted`), `True`, `False` and `None`, and
brackets around items and members. Inside a container every string is quoted (`Json.literal`); a string on its own is
shown as it is (`Json.display`).
-/

namespace MonitorIntake.Json

/-- The words for doubles without digits. -/
def literalWords : NumberWords := ⟨"nan".toText, "inf".toText⟩

/-- The text of a double. -/
def literalDouble (d : Double) : Text := d.write .plain literalWords

/-- What stands between two items. -/
def literalComma : Text := [',', ' ']

/-- What stands between a name and its value. -/
def literalColon : Text := [':', ' ']

mutual

/-- The text of a value, a string in quotation marks. -/
def literal : Json → Text
  | .null => "None".toText
  | .bool true => "True".toText
  | .bool false => "False".toText
  | .int i => Text.ofInt i
  | .double d => literalDouble d
  | .string t => t.quoted
  | .array items => Text.between '[' ']' (literalItems items)
  | .object members => Text.between '\x7b' '\x7d' (literalMembers members)

/-- The texts of items with commas between them. -/
def literalItems : List Json → Text
  | [] => []
  | [v] => literal v
  | v :: rest => literal v ++ literalComma ++ literalItems rest

/-- The texts of members with commas between them. -/
def literalMembers : List (Text × Json) → Text
  | [] => []
  | [(k, v)] => k.quoted ++ literalColon ++ literal v
  | (k, v) :: rest => k.quoted ++ literalColon ++ literal v ++ literalComma ++ literalMembers rest

end

/-- The text of a value, a string as it is. -/
def display : Json → Text
  | .string t => t
  | v => v.literal

end MonitorIntake.Json
