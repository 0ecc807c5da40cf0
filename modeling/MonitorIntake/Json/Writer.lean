import MonitorIntake.Decimal.Layout
import MonitorIntake.Json.Value

/-!
# Writing JSON

A `Spelling` fixes how code points and numbers are spelled inside a document. `Json.compact` writes a value on one line
with a blank after each comma and colon, `Json.indented` one item or member per line, two blanks further in at each
level. The spelling `ascii` keeps to ASCII, with a pair of escapes for a code point above U+FFFF, and has words for the
numbers that JSON lacks; `strict?` refuses a value with such a number.
-/

namespace MonitorIntake.Json

/-- How code points and numbers are spelled. -/
structure Spelling where
  /-- The form of a code point inside quotation marks. -/
  point : CodePoint → Text
  layout : Layout
  words : NumberWords

/-- The form of the code points that every spelling escapes by a letter. -/
def letterEscape? (c : CodePoint) : Option Text :=
  if c = '"' then some ['\\', '"']
  else if c = '\\' then some ['\\', '\\']
  else if c = '\n' then some ['\\', 'n']
  else if c = '\r' then some ['\\', 'r']
  else if c = '\t' then some ['\\', 't']
  else if c = '\x08' then some ['\\', 'b']
  else if c = '\x0C' then some ['\\', 'f']
  else none

/-- A sixteen-bit number as an escape. -/
def unitEscape (n : Nat) : Text := '\\' :: 'u' :: Text.hex 4 n

/-- A code point in ASCII. -/
def asciiPoint (c : CodePoint) : Text :=
  match letterEscape? c with
  | some t => t
  | none =>
    if 0x20 ≤ c.val ∧ c.val ≤ 0x7E then [c]
    else if c.val < 0x10000 then unitEscape c.val
    else unitEscape (0xD800 + (c.val - 0x10000) / 0x400) ++ unitEscape (0xDC00 + (c.val - 0x10000) % 0x400)

/-- A code point as itself, unless it is a control character. -/
def plainPoint (c : CodePoint) : Text :=
  match letterEscape? c with
  | some t => t
  | none => if c.val < 0x20 then unitEscape c.val else [c]

/-- The words for numbers that JSON lacks. -/
def numberWords : NumberWords := ⟨"NaN".toText, "Infinity".toText⟩

/-- The spelling that keeps to ASCII. -/
def ascii : Spelling := ⟨asciiPoint, .plain, numberWords⟩

/-- The spelling of reports: escapes where they are needed only, and small numbers with all their zeros. -/
def reported : Spelling := ⟨plainPoint, .report, numberWords⟩

/-- A text between quotation marks. -/
def Spelling.string (s : Spelling) (t : Text) : Text := Text.between '"' '"' (t.flatMap s.point)

/-- A value that is no container. -/
def Spelling.scalar (s : Spelling) : Json → Text
  | .null => "null".toText
  | .bool true => "true".toText
  | .bool false => "false".toText
  | .int i => Text.ofInt i
  | .double d => d.write s.layout s.words
  | .string t => s.string t
  | .array _ => "[]".toText
  | .object _ => "\x7b\x7d".toText

/-- What stands between a name and its value. -/
def colon : Text := [':', ' ']

/-- What stands between two items on one line. -/
def comma : Text := [',', ' ']

mutual

/-- A value on one line. -/
def compact (s : Spelling) : Json → Text
  | .array items => Text.between '[' ']' (compactItems s items)
  | .object members => Text.between '\x7b' '\x7d' (compactMembers s members)
  | v => s.scalar v

/-- Items on one line. -/
def compactItems (s : Spelling) : List Json → Text
  | [] => []
  | [v] => compact s v
  | v :: rest => compact s v ++ comma ++ compactItems s rest

/-- Members on one line. -/
def compactMembers (s : Spelling) : List (Text × Json) → Text
  | [] => []
  | [(k, v)] => s.string k ++ colon ++ compact s v
  | (k, v) :: rest => s.string k ++ colon ++ compact s v ++ comma ++ compactMembers s rest

end

/-- A new line at a level. -/
def lineAt (level : Nat) : Text := '\n' :: Text.spaces (2 * level)

/-- The comma at the end of a line. -/
def lineComma : Text := [',']

mutual

/-- A value that begins on a line of the given level. -/
def indented (s : Spelling) (level : Nat) : Json → Text
  | .array items =>
    if items.isEmpty then s.scalar (.array [])
    else Text.between '[' ']' (indentedItems s (level + 1) items ++ lineAt level)
  | .object members =>
    if members.isEmpty then s.scalar (.object [])
    else Text.between '\x7b' '\x7d' (indentedMembers s (level + 1) members ++ lineAt level)
  | v => s.scalar v

/-- Items, each on its own line. -/
def indentedItems (s : Spelling) (level : Nat) : List Json → Text
  | [] => []
  | [v] => lineAt level ++ indented s level v
  | v :: rest => lineAt level ++ indented s level v ++ lineComma ++ indentedItems s level rest

/-- Members, each on its own line. -/
def indentedMembers (s : Spelling) (level : Nat) : List (Text × Json) → Text
  | [] => []
  | [(k, v)] => lineAt level ++ s.string k ++ colon ++ indented s level v
  | (k, v) :: rest =>
    lineAt level ++ s.string k ++ colon ++ indented s level v ++ lineComma ++ indentedMembers s level rest

end

/-- The value on one line in ASCII. -/
def write (v : Json) : Text := compact ascii v

/-- The value on one line in ASCII, if JSON has all of its numbers. -/
def strict? (v : Json) : Option Text := if v.isFinite then some v.write else none

end MonitorIntake.Json
