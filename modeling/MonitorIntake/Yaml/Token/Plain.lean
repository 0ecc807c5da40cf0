import MonitorIntake.Yaml.Token

/-!
# Plain scalars

A scalar without quotation marks goes on until a colon before a blank, a comment, or a line that is not indented enough;
inside a flow collection also until a comma, a question mark or a bracket. Its words are kept as they are, the spaces
between them too; a single line break becomes a space, and of several the first is dropped.
-/

namespace MonitorIntake.Yaml.Token

/-- The number of code points up to where a word of a plain scalar ends. -/
def plainRun (flow : Bool) : Text → Nat
  | [] => 0
  | c :: rest =>
    if endsWord (some c) then 0
    else if c = ':' ∧ (endsWord rest.head? ∨ (flow ∧ isAmong rest.head? ",[]\x7b\x7d".toText)) then 0
    else if flow ∧ isAmong (some c) ",?[]\x7b\x7d".toText then 0
    else plainRun flow rest + 1

/-- The word of a plain scalar at the cursor; it is empty where the scalar ends. -/
def plainWord (flow : Bool) (c : Cursor) : Except Error Text := do
  let length := plainRun flow c.rest
  let last ← c.peekAt length
  if isPoint last ':' then let _ ← c.peekAt (length + 1)
  return c.rest.take length

/-- The line breaks and spaces from here on, up to a document mark or to something else: the breaks last first, whether
a document mark was met, and the cursor. -/
def plainBreaks : (fuel : Nat) → (breaks : Text) → Cursor → Except Error (Text × Bool × Cursor)
  | 0, breaks, c => .ok (breaks, false, c)
  | fuel + 1, breaks, c => do
    if isPoint (← c.peek) ' ' then plainBreaks fuel breaks c.next
    else
      match ← c.lineBreak? with
      | none => return (breaks, false, c)
      | some (b, after) =>
        if ← after.atSeparator then return (b :: breaks, true, after) else plainBreaks fuel (b :: breaks) after

/-- What stands between two words of a plain scalar. -/
structure PlainGap where
  /-- The text that it counts for; nothing if the scalar ends here. -/
  text : Text
  /-- A line break was passed. -/
  crossed : Bool
  after : Cursor

/-- The text of a line break and the breaks after it, which are given last first. -/
def foldBreaks (first : CodePoint) (breaks : Text) : Text :=
  if first.val ≠ 0x0A then first :: breaks.reverse
  else if breaks.isEmpty then [' ']
  else breaks.reverse

/-- The spaces and line breaks at the cursor. -/
def plainGap (c : Cursor) : Except Error PlainGap := do
  let c₁ := c.skipSpaces
  match ← c₁.lineBreak? with
  | none => return ⟨c.rest.takeWhile (·.val = 0x20), false, c₁⟩
  | some (first, c₂) =>
    if ← c₂.atSeparator then return ⟨[], true, c₂⟩
    else
      match ← plainBreaks (c₂.rest.length + 1) [] c₂ with
      | (_, true, after) => return ⟨[], true, after⟩
      | (breaks, false, after) => return ⟨foldBreaks first breaks, true, after⟩

/-- A plain scalar, whether its last line break leaves room for a key, and the cursor. `done` is the text before the
gap, `gap` the text of the gap before the cursor. -/
def plainWords (flow : Bool) (indent : Int) :
    (fuel : Nat) → (done gap : Text) → (keyAllowed : Bool) → Cursor → Except Error (Text × Bool × Cursor)
  | 0, done, _, keyAllowed, c => .ok (done, keyAllowed, c)
  | fuel + 1, done, gap, keyAllowed, c => do
    if isPoint (← c.peek) '#' then return (done, keyAllowed, c)
    else
      let word ← plainWord flow c
      if word.isEmpty then return (done, keyAllowed, c)
      else
        let done := done ++ gap ++ word
        let next ← plainGap (c.forward word.length)
        if next.text.isEmpty || (!flow && decide ((next.after.column : Int) < indent)) then
          return (done, next.crossed, next.after)
        else plainWords flow indent fuel done next.text next.crossed next.after

/-- The plain scalar at the cursor, whether a key may follow it, and the cursor after it. Continuation lines outside
flow collections are indented by `indent` columns at least. -/
def scanPlain (flow : Bool) (indent : Int) (c : Cursor) : Except Error (Text × Bool × Cursor) :=
  plainWords flow indent (c.rest.length + 1) [] [] false c

end MonitorIntake.Yaml.Token
