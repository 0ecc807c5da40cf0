import MonitorIntake.Yaml.Fault
import MonitorIntake.Yaml.Token.Plain

/-!
# Quoted scalars

Between apostrophes two apostrophes stand for one; between double marks a backslash begins an escape, by a letter or by
hexadecimal digits, or joins two lines. White space around line breaks is dropped, a single break becomes a space, and
of several the first is dropped. A document mark inside a quoted scalar is a fault.
-/

namespace MonitorIntake.Yaml.Token

/-- The code point of an escape by a letter. -/
def letterEscape? (c : CodePoint) : Option CodePoint :=
  if c = '0' then some '\x00'
  else if c = 'a' then some '\x07'
  else if c = 'b' then some '\x08'
  else if c = 't' ∨ c = '\t' then some '\t'
  else if c = 'n' then some '\n'
  else if c = 'v' then some '\x0B'
  else if c = 'f' then some '\x0C'
  else if c = 'r' then some '\r'
  else if c = 'e' then some '\x1B'
  else if c = ' ' ∨ c = '"' ∨ c = '\\' ∨ c = '/' then some c
  else if c = 'N' then some '\u0085'
  else if c = '_' then some '\u00A0'
  else if c = 'L' then some '\u2028'
  else if c = 'P' then some '\u2029'
  else none

/-- The number of hexadecimal digits of an escape by number, by its letter. -/
def escapeWidth? (c : CodePoint) : Option Nat :=
  if c = 'x' then some 2 else if c = 'u' then some 4 else if c = 'U' then some 8 else none

/-- The number written by hexadecimal digits, if all of them are such. -/
def hexNumber? (t : Text) : Option Nat :=
  t.foldl (fun n c => do return (← n) * 16 + (← c.hexValue?)) (some 0)

/-- The code point of a number in an escape. -/
def escapedPoint (n : Nat) : Except Error CodePoint :=
  match CodePoint.ofNat? n with
  | some c => .ok c
  | none => .error (.scalar (if n < 0x80000000 then .codePoint else .codePointSize))

/-- The line breaks in a quoted scalar from here on, last first, and the cursor at the next text. -/
def quotedBreaks : (fuel : Nat) → (breaks : Text) → Cursor → Except Error ScannedText
  | 0, breaks, c => .ok (breaks, c)
  | fuel + 1, breaks, c => do
    if ← c.atSeparator then throw (.malformed .quotedSeparator)
    let c := c.skipWhile isWhite
    match ← c.lineBreak? with
    | some (b, after) => quotedBreaks fuel (b :: breaks) after
    | none => return (breaks, c)

/-- White space in a quoted scalar: its text, and the cursor after it. -/
def quotedGap (c : Cursor) : Except Error ScannedText := do
  let c₁ := c.skipWhile isWhite
  match ← c₁.peek with
  | none => throw (.malformed .openQuote)
  | some _ =>
    match ← c₁.lineBreak? with
    | none => return (c.rest.takeWhile isWhite, c₁)
    | some (first, c₂) =>
      let (breaks, after) ← quotedBreaks (c₂.rest.length + 1) [] c₂
      return (foldBreaks first breaks, after)

/-- The number of so many hexadecimal digits at the cursor. -/
def hexDigits (width : Nat) (c : Cursor) : Except Error Nat := do
  let digits := (c.rest.take width).takeWhile fun p => p.hexValue?.isSome
  if digits.length < width then
    let _ ← c.peekAt digits.length
    throw (.malformed .escapeDigits)
  return (hexNumber? digits).getD 0

/-- The text of an escape, whose backslash is before the cursor, and the cursor after it. -/
def scanEscape (c : Cursor) : Except Error ScannedText := do
  match ← c.peek with
  | none => throw (.malformed .unknownEscape)
  | some p =>
    match letterEscape? p, escapeWidth? p with
    | some q, _ => return ([q], c.next)
    | none, some width =>
      let n ← hexDigits width c.next
      return ([← escapedPoint n], c.next.forward width)
    | none, none =>
      match ← c.lineBreak? with
      | some (_, after) =>
        let (breaks, after) ← quotedBreaks (after.rest.length + 1) [] after
        return (breaks.reverse, after)
      | none => throw (.malformed .unknownEscape)

/-- The rest of a quoted scalar and the cursor after its closing mark. `done` is the text so far, last first. -/
def quotedRest (double : Bool) : (fuel : Nat) → (done : Text) → Cursor → Except Error ScannedText
  | 0, _, _ => .error (.malformed .openQuote)
  | fuel + 1, done, c => do
    match ← c.peek with
    | none => throw (.malformed .openQuote)
    | some p =>
      if double ∧ p = '"' then return (done.reverse, c.next)
      else if ¬double ∧ p = '\'' then
        if isPoint (← c.peekAt 1) '\'' then quotedRest double fuel ('\'' :: done) (c.forward 2)
        else return (done.reverse, c.next)
      else if double ∧ p = '\\' then
        let (t, after) ← scanEscape c.next
        quotedRest double fuel (t.reverse ++ done) after
      else if endsWord (some p) then
        let (t, after) ← quotedGap c
        quotedRest double fuel (t.reverse ++ done) after
      else quotedRest double fuel (p :: done) c.next

/-- The quoted scalar whose opening mark is at the cursor, and the cursor after it. -/
def scanQuoted (double : Bool) (c : Cursor) : Except Error ScannedText :=
  quotedRest double (c.rest.length + 1) [] c.next

end MonitorIntake.Yaml.Token
