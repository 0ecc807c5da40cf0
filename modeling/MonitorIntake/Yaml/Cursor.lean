import MonitorIntake.Yaml.Source

/-!
# Places in a YAML text

A cursor is the text still to be read together with the place where it begins. Lines end at a line feed, a next line
character, a line separator or a paragraph separator; carriage returns have been folded before. A byte order mark takes
no column. Whoever looks behind the sound part of a source meets its fault (`Cursor.peekAt`).
-/

namespace MonitorIntake.Yaml

/-- A line break. -/
def isBreak (c : CodePoint) : Bool := c.val = 0x0A || c.val = 0x85 || c.val = 0x2028 || c.val = 0x2029

/-- A space or a tab. -/
def isWhite (c : CodePoint) : Bool := c.val = 0x20 || c.val = 0x09

/-- The line ends here: at a break or at the end of the text. -/
def endsLine : Option CodePoint → Bool
  | some c => isBreak c
  | none => true

/-- A word ends here: at white space, at a break or at the end of the text. -/
def endsWord : Option CodePoint → Bool
  | some c => isWhite c || isBreak c
  | none => true

/-- An item of a directive ends here: at a space, at a break or at the end of the text. -/
def endsItem : Option CodePoint → Bool
  | some c => c.val = 0x20 || isBreak c
  | none => true

/-- The code point there is the given one. -/
def isPoint (c : Option CodePoint) (p : CodePoint) : Bool := c == some p

/-- The code point there is one of a text. -/
def isAmong (c : Option CodePoint) (t : Text) : Bool :=
  match c with
  | some c => t.contains c
  | none => false

/-- The text that is left, what is found behind it if that is not its end, and the place where it begins. -/
structure Cursor where
  rest : Text
  broken : Option Error
  index : Nat
  line : Nat
  column : Nat

namespace Cursor

/-- The beginning of a source. -/
def start (s : Source) : Cursor := ⟨s.text, s.broken, 0, 0, 0⟩

/-- A value that depends on what is behind the text, where only an end is sound. -/
def behind {α : Type} (c : Cursor) (v : α) : Except Error α :=
  match c.broken with
  | some e => .error e
  | none => .ok v

/-- The code point `n` places after the cursor; there is none at the end. -/
def peekAt (c : Cursor) (n : Nat) : Except Error (Option CodePoint) :=
  match c.rest.drop n with
  | p :: _ => .ok (some p)
  | [] => c.behind none

/-- The code point at the cursor. -/
def peek (c : Cursor) : Except Error (Option CodePoint) := c.peekAt 0

/-- The next `n` code points, or fewer at the end. -/
def look (c : Cursor) (n : Nat) : Except Error Text :=
  let t := c.rest.take n
  if t.length < n then c.behind t else .ok t

/-- One code point further. -/
def next (c : Cursor) : Cursor :=
  match c.rest with
  | [] => c
  | p :: rest =>
    if isBreak p then ⟨rest, c.broken, c.index + 1, c.line + 1, 0⟩
    else if p.val = 0xFEFF then ⟨rest, c.broken, c.index + 1, c.line, c.column⟩
    else ⟨rest, c.broken, c.index + 1, c.line, c.column + 1⟩

/-- A number of code points further. -/
def forward : Nat → Cursor → Cursor
  | 0, c => c
  | n + 1, c => forward n c.next

/-- After the code points of one class. -/
def skipWhile (p : CodePoint → Bool) (c : Cursor) : Cursor := c.forward (c.rest.takeWhile p).length

/-- After the spaces at the cursor. -/
def skipSpaces (c : Cursor) : Cursor := c.skipWhile (·.val = 0x20)

/-- The end of the line, a comment at the cursor skipped. -/
def skipComment (c : Cursor) : Except Error Cursor := do
  if isPoint (← c.peek) '#' then return c.skipWhile (!isBreak ·) else return c

/-- A line break, in the form in which it counts as text, and the cursor after it. -/
def lineBreak? (c : Cursor) : Except Error (Option (CodePoint × Cursor)) := do
  match ← c.peek with
  | some p =>
    if isBreak p then return some (if p.val = 0x0A ∨ p.val = 0x85 then '\n' else p, c.next) else return none
  | none => return none

/-- After a line break, if there is one. -/
def skipBreak (c : Cursor) : Except Error Cursor := do
  match ← c.lineBreak? with
  | some (_, after) => return after
  | none => return c

/-- A mark of three equal code points stands here as a word of its own. -/
def atMark (marks : List CodePoint) (c : Cursor) : Except Error Bool := do
  let t ← c.look 3
  if marks.any fun p => t == [p, p, p] then return endsWord (← c.peekAt 3) else return false

/-- The start or the end of a document is marked here. -/
def atSeparator (c : Cursor) : Except Error Bool := c.atMark ['-', '.']

end Cursor

end MonitorIntake.Yaml
