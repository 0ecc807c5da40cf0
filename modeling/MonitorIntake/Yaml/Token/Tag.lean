import MonitorIntake.Text.Utf8
import MonitorIntake.Yaml.Fault
import MonitorIntake.Yaml.Token

/-!
# Anchors, tags and directives

An anchor and an alias are a mark and a name. A tag is a URI between angle brackets, or a handle and a suffix, or a
single exclamation mark. A directive gives the version of YAML or what a tag handle stands for; one of any other name is
passed over up to the end of its line.
-/

namespace MonitorIntake.Yaml.Token

/-- A code point of a name: a letter, a digit, a hyphen or a low line. -/
def isNamePoint (c : CodePoint) : Bool :=
  c.isDigit || (0x41 ≤ c.val && c.val ≤ 0x5A) || (0x61 ≤ c.val && c.val ≤ 0x7A) || c.val = 0x2D || c.val = 0x5F

/-- A code point of a URI, the sign of an escape included. -/
def isUriPoint (c : CodePoint) : Bool := isNamePoint c || ";/?:@&=+$,.!~*'()[]%".toText.contains c

/-- A code point that may follow an anchor or an alias. -/
def endsAnchor (c : Option CodePoint) : Bool := endsWord c || isAmong c "?:,]\x7d%@\x60".toText

/-- The name of an anchor or an alias, whose mark is at the cursor, and the cursor after it. -/
def scanAnchor (c : Cursor) : Except Error ScannedText := do
  let name := c.next.rest.takeWhile isNamePoint
  let after := c.next.forward name.length
  let next ← after.peek
  if name.isEmpty || !endsAnchor next then throw (.malformed .anchorName) else return (name, after)

/-- The value of the hexadecimal digit `n` places after the cursor. -/
def escapeDigit (n : Nat) (c : Cursor) : Except Error Nat := do
  match (← c.peekAt n).bind CodePoint.hexValue? with
  | some d => return d
  | none => throw (.malformed .uriEscape)

/-- The bytes of the escapes at the cursor, and the cursor after them. -/
def uriBytes : (fuel : Nat) → (done : List UInt8) → Cursor → Except Error (List UInt8 × Cursor)
  | 0, done, c => .ok (done.reverse, c)
  | fuel + 1, done, c => do
    if isPoint (← c.peek) '%' then
      let high ← escapeDigit 1 c
      let low ← escapeDigit 2 c
      uriBytes fuel ((high * 16 + low).toUInt8 :: done) (c.forward 3)
    else return (done.reverse, c)

/-- The rest of a URI and the cursor after it; `done` is the URI so far. -/
def uriRest : (fuel : Nat) → (done : Text) → Cursor → Except Error ScannedText
  | 0, done, c => .ok (done, c)
  | fuel + 1, done, c => do
    match ← c.peek with
    | none => return (done, c)
    | some p =>
      if p = '%' then
        let (bytes, after) ← uriBytes (c.rest.length + 1) [] c
        match Text.ofUtf8 bytes with
        | .ok t => uriRest fuel (done ++ t) after
        | .error _ => throw (.malformed .uriEscape)
      else if isUriPoint p then uriRest fuel (done ++ [p]) c.next
      else return (done, c)

/-- The URI at the cursor, which is not empty, and the cursor after it. -/
def scanUri (c : Cursor) : Except Error ScannedText := do
  if ((← c.peek).map isUriPoint).getD false then uriRest (c.rest.length + 1) [] c else throw (.malformed .uri)

/-- The tag handle at the cursor: an exclamation mark alone, or a name between two; and the cursor after it. -/
def scanHandle (c : Cursor) : Except Error ScannedText := do
  if !isPoint (← c.peek) '!' then throw (.malformed .tagHandle)
  if isPoint (← c.peekAt 1) ' ' then return (['!'], c.next)
  let name := c.next.rest.takeWhile isNamePoint
  let after := c.next.forward name.length
  if isPoint (← after.peek) '!' then return (Text.between '!' '!' name, after.next) else throw (.malformed .tagHandle)

/-- A handle, if the tag at the cursor has more than its first exclamation mark, and the URI after it. -/
def scanShorthand (c : Cursor) : Except Error (Token × Cursor) := do
  let length := (c.next.rest.takeWhile fun p => !endsItem (some p) && p ≠ '!').length
  let (handle, c₁) ← if isPoint (← c.next.peekAt length) '!' then scanHandle c else pure ("!".toText, c.next)
  let (suffix, c₂) ← scanUri c₁
  return (.tag (some handle) suffix, c₂)

/-- A URI between angle brackets. -/
def scanVerbatim (c : Cursor) : Except Error (Token × Cursor) := do
  let (suffix, c₁) ← scanUri (c.forward 2)
  if isPoint (← c₁.peek) '>' then return (.tag none suffix, c₁.next)
  throw (.malformed .tagEnd)

/-- The tag whose mark is at the cursor, and the cursor after it. -/
def scanTag (c : Cursor) : Except Error (Token × Cursor) := do
  let next ← c.peekAt 1
  let (found, after) ←
    if isPoint next '<' then scanVerbatim c
    else if endsWord next then pure (.tag none "!".toText, c.next)
    else scanShorthand c
  if endsItem (← after.peek) then return (found, after)
  throw (.malformed .tagEnd)

/-- The number at the cursor, and the cursor after it. -/
def scanVersionNumber (c : Cursor) : Except Error (Nat × Cursor) := do
  let digits := c.rest.takeWhile CodePoint.isDigit
  let _ ← c.peekAt digits.length
  if digits.isEmpty then throw (.malformed .directiveVersion)
  if Json.digitLimit < digits.length then throw (.scalar (.tooManyDigits digits.length))
  return (Text.readDigits digits, c.forward digits.length)

/-- The version that a directive gives, and the cursor after it. -/
def scanVersion (c : Cursor) : Except Error (Directive × Cursor) := do
  let (major, c₁) ← scanVersionNumber c.skipSpaces
  if isPoint (← c₁.peek) '.' then
    let (minor, c₂) ← scanVersionNumber c₁.next
    if endsItem (← c₂.peek) then return (.version major minor, c₂)
  throw (.malformed .directiveVersion)

/-- The handle and the URI that a directive gives, and the cursor after it. -/
def scanTagDirective (c : Cursor) : Except Error (Directive × Cursor) := do
  let (handle, c₁) ← scanHandle c.skipSpaces
  if isPoint (← c₁.peek) ' ' then
    let (uri, c₂) ← scanUri c₁.skipSpaces
    if endsItem (← c₂.peek) then return (.tagHandle handle uri, c₂)
  throw (.malformed .tagHandle)

/-- The directive whose sign is at the cursor, and the cursor on the next line. -/
def scanDirective (c : Cursor) : Except Error (Directive × Cursor) := do
  let name := c.next.rest.takeWhile isNamePoint
  let c₁ := c.next.forward name.length
  let next ← c₁.peek
  if name.isEmpty || !endsItem next then throw (.malformed .directiveName)
  let (found, c₂) ←
    if name = "YAML".toText then scanVersion c₁
    else if name = "TAG".toText then scanTagDirective c₁
    else pure (.other, c₁.skipWhile (!isBreak ·))
  let c₃ ← c₂.skipSpaces.skipComment
  if endsLine (← c₃.peek) then return (found, ← c₃.skipBreak)
  throw (.malformed .directiveLine)

end MonitorIntake.Yaml.Token
