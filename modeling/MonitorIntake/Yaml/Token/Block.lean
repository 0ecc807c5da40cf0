import MonitorIntake.Yaml.Fault
import MonitorIntake.Yaml.Token

/-!
# Block scalars

A block scalar has a header, which says how its end is treated and how far its lines are indented, and then lines. A
literal block keeps its line breaks; in a folded one a single break between two lines that begin with text becomes a
space. The last break is kept once, or with all empty lines after it, or not at all.
-/

namespace MonitorIntake.Yaml.Token

/-- What becomes of the line breaks at the end of a block. -/
inductive Chomping
  | clip
  | keep
  | strip
  deriving DecidableEq

/-- The header of a block: the treatment of its end, and its further indentation. -/
structure BlockHeader where
  chomping : Chomping
  increment : Option Nat

/-- A sign for the treatment of the end, and the cursor after it. -/
def scanChomping (c : Cursor) : Except Error (Chomping × Cursor) := do
  let p ← c.peek
  if isPoint p '+' then return (.keep, c.next)
  else if isPoint p '-' then return (.strip, c.next)
  else return (.clip, c)

/-- A digit for the indentation, which is not zero, and the cursor after it. -/
def scanIncrement (c : Cursor) : Except Error (Option Nat × Cursor) := do
  match ← c.peek with
  | some p =>
    if p.isDigit then
      if p.digitValue = 0 then throw (.malformed .blockHeader) else return (some p.digitValue, c.next)
    else return (none, c)
  | none => return (none, c)

/-- The header after the mark of a block, and the cursor on the next line. -/
def scanBlockHeader (c : Cursor) : Except Error (BlockHeader × Cursor) := do
  let (sign, c₁) ← scanChomping c
  let (increment, c₂) ← scanIncrement c₁
  let (chomping, c₃) ← if sign = .clip then scanChomping c₂ else pure (sign, c₂)
  if endsItem (← c₃.peek) then
    let c₄ ← c₃.skipSpaces.skipComment
    if endsLine (← c₄.peek) then return (⟨chomping, increment⟩, ← c₄.skipBreak)
  throw (.malformed .blockHeader)

/-- Empty lines at the beginning of a block: their breaks, last first, the largest column in them, and the cursor. -/
def blockLead : (fuel : Nat) → (breaks : Text) → (widest : Nat) → Cursor → Except Error (Text × Nat × Cursor)
  | 0, breaks, widest, c => .ok (breaks, widest, c)
  | fuel + 1, breaks, widest, c => do
    if isPoint (← c.peek) ' ' then blockLead fuel breaks (max widest c.next.column) c.next
    else
      match ← c.lineBreak? with
      | some (b, after) => blockLead fuel (b :: breaks) widest after
      | none => return (breaks, widest, c)

/-- After the spaces at the cursor, but not beyond a column. -/
def skipIndent (column : Nat) (c : Cursor) : Cursor :=
  c.forward (min (c.rest.takeWhile (·.val = 0x20)).length (column - c.column))

/-- Empty lines inside a block: their breaks, last first, and the cursor behind the indentation of the next line. -/
def blockBreaks (indent : Nat) : (fuel : Nat) → (breaks : Text) → Cursor → Except Error (Text × Cursor)
  | 0, breaks, c => .ok (breaks, c)
  | fuel + 1, breaks, c => do
    let c := skipIndent indent c
    match ← c.lineBreak? with
    | some (b, after) => blockBreaks indent fuel (b :: breaks) after
    | none => return (breaks, c)

/-- The text of a line break inside a block, with the empty lines after it. -/
def blockFold (folded : Bool) (lineBreak : Option CodePoint) (textBefore textAfter : Bool) (breaks : Text) : Text :=
  let first : Text := lineBreak.toList
  if folded && first == "\n".toText && textBefore && textAfter then
    if breaks.isEmpty then [' '] else breaks.reverse
  else first ++ breaks.reverse

/-- The lines of a block from here on. `done` is the text so far, `breaks` are the empty lines before the cursor at the
beginning of the block, last first. -/
def blockLines (folded : Bool) (chomping : Chomping) (indent : Nat) :
    (fuel : Nat) → (done breaks : Text) → Cursor → Except Error (Text × Cursor)
  | 0, done, _, c => .ok (done, c)
  | fuel + 1, done, breaks, c => do
    let line := c.rest.takeWhile (!isBreak ·)
    let c₁ := c.forward line.length
    let first := (← c₁.lineBreak?).map (·.1)
    let c₂ ← c₁.skipBreak
    let (next, c₃) ← blockBreaks indent (c₂.rest.length + 1) [] c₂
    let done := done ++ breaks.reverse ++ line
    let before ← c.peek
    let after ← c₃.peek
    if c₃.column = indent ∧ after.isSome then
      let startsWithText (p : Option CodePoint) : Bool := !(p.map isWhite).getD true
      let gap := blockFold folded first (startsWithText before) (startsWithText after) next
      blockLines folded chomping indent fuel (done ++ gap) [] c₃
    else
      match chomping with
      | .strip => return (done, c₃)
      | .clip => return (done ++ first.toList, c₃)
      | .keep => return (done ++ first.toList ++ next.reverse, c₃)

/-- The block scalar whose mark is at the cursor, inside a block that is indented by `parent` columns, and the cursor
after it. -/
def scanBlock (folded : Bool) (parent : Int) (c : Cursor) : Except Error ScannedText := do
  let (header, c₁) ← scanBlockHeader c.next
  let least := (max (parent + 1) 1).toNat
  let (indent, breaks, c₂) ← match header.increment with
    | some n => do
      let indent := least + n - 1
      let (breaks, c₂) ← blockBreaks indent (c₁.rest.length + 1) [] c₁
      pure (indent, breaks, c₂)
    | none => do
      let (breaks, widest, c₂) ← blockLead (c₁.rest.length + 1) [] 0 c₁
      pure (max least widest, breaks, c₂)
  if c₂.column = indent ∧ (← c₂.peek).isSome then
    blockLines folded header.chomping indent (c₂.rest.length + 1) [] breaks c₂
  else
    return (if header.chomping = .keep then breaks.reverse else [], c₂)

end MonitorIntake.Yaml.Token
