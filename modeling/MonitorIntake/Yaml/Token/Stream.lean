import MonitorIntake.Yaml.Token.Block
import MonitorIntake.Yaml.Token.Quoted
import MonitorIntake.Yaml.Token.Tag

/-!
# Token streams

The tokens of a source, in order (`Token.scan`). A block begins and ends with a change of the indentation, and the
beginning of a key is only recognised at the colon after it, so a scalar or a flow collection at a place where a key may
stand is kept as a pending key until the line ends or 1024 code points have passed. When the scan breaks off, the tokens
up to the first key that was pending after the last token can still be used, and the error counts only for a reader who
needs more.
-/

namespace MonitorIntake.Yaml

/-- The tokens of a text, and the error at which the scan broke off after them. -/
structure TokenStream where
  tokens : List Token
  error? : Option Error

namespace Token

/-- A place where a key may have begun. -/
structure PendingKey where
  /-- The number of tokens before it. -/
  number : Nat
  /-- The place can hold nothing but a key. -/
  required : Bool
  start : Cursor

/-- The state of a scan. -/
structure Lexer where
  cursor : Cursor
  /-- The tokens so far, last first. -/
  done : List Token
  /-- The column of the innermost block, -1 outside of all blocks, and those of the blocks around it. -/
  indent : Int
  outer : List Int
  /-- The pending key of each open flow collection, innermost first, and last that of the block around them. -/
  pending : List (Option PendingKey)
  /-- A key may begin here. -/
  keyAllowed : Bool

namespace Lexer

/-- The beginning of a scan. -/
def start (s : Source) : Lexer := ⟨Cursor.start s, [], -1, [], [none], true⟩

/-- The place is inside a flow collection. -/
def inFlow (x : Lexer) : Bool := 1 < x.pending.length

/-- One more token. -/
def push (token : Token) (x : Lexer) : Lexer := { x with done := token :: x.done }

/-- At another place. -/
def moveTo (c : Cursor) (x : Lexer) : Lexer := { x with cursor := c }

/-- At a place where a key may or may not begin. -/
def allow (keyAllowed : Bool) (x : Lexer) : Lexer := { x with keyAllowed := keyAllowed }

/-- Spaces, comments and line breaks skipped. -/
def skipBlank : (fuel : Nat) → Lexer → Except Error Lexer
  | 0, x => .ok x
  | fuel + 1, x => do
    let c ← x.cursor.skipSpaces.skipComment
    match ← c.lineBreak? with
    | none => return x.moveTo c
    | some (_, after) => skipBlank fuel ((x.moveTo after).allow (x.keyAllowed || !x.inFlow))

/-- A byte order mark at the beginning of the text skipped. -/
def skipMark (x : Lexer) : Except Error Lexer := do
  if x.cursor.index = 0 && isPoint (← x.cursor.peek) '\uFEFF' then return x.moveTo x.cursor.next else return x

/-- At the next token. -/
def toToken (x : Lexer) : Except Error Lexer := do
  let x ← x.skipMark
  x.skipBlank (x.cursor.rest.length + 1)

/-- A pending key that can be one no more: its line has ended, or it is too long. -/
def isStale (c : Cursor) (k : PendingKey) : Bool := k.start.line ≠ c.line || 1024 < c.index - k.start.index

/-- The pending keys that can still be keys; a required one has to be among them. -/
def dropStale (x : Lexer) : Except Error Lexer :=
  let stale (k : Option PendingKey) : Bool := (k.map (isStale x.cursor)).getD false
  if x.pending.any fun k => stale k && (k.map PendingKey.required).getD false then .error (.malformed .missingColon)
  else .ok { x with pending := x.pending.map fun k => if stale k then none else k }

/-- The pending key of the innermost collection given up; a required one cannot be. -/
def dropKey (x : Lexer) : Except Error Lexer :=
  match x.pending with
  | some k :: rest => if k.required then .error (.malformed .missingColon) else .ok { x with pending := none :: rest }
  | _ => .ok x

/-- The next token may be a key. -/
def saveKey (x : Lexer) : Except Error Lexer :=
  if x.keyAllowed then do
    let x ← x.dropKey
    let required := !x.inFlow && x.indent == (x.cursor.column : Int)
    return { x with pending := some ⟨x.done.length, required, x.cursor⟩ :: x.pending.tail }
  else .ok x

/-- The tokens so far and the columns of the blocks, innermost first, when the blocks are ended that are indented
further than a column. -/
def closeBlocks (column : Int) (done : List Token) (indent : Int) : List Int → List Token × Int × List Int
  | [] => (done, indent, [])
  | i :: rest =>
    if column < indent then closeBlocks column (blockEnd :: done) i rest else (done, indent, i :: rest)

/-- The blocks ended that are indented further than a column; inside a flow collection there are none. -/
def unwind (column : Int) (x : Lexer) : Lexer :=
  if x.inFlow then x
  else
    let (done, indent, outer) := closeBlocks column x.done x.indent x.outer
    { x with done := done, indent := indent, outer := outer }

/-- A block at a column begun, unless it is open already; `first` begins it, as the token of the given number. -/
def openBlock (column : Nat) (number : Nat) (first : Token) (x : Lexer) : Lexer :=
  if !x.inFlow && x.indent < (column : Int) then
    let later := x.done.length - number
    { x with
      done := x.done.take later ++ first :: x.done.drop later
      indent := column
      outer := x.indent :: x.outer }
  else x

/-- The end of the text. -/
def fetchEnd (x : Lexer) : Except Error Lexer := do
  let x ← (x.unwind (-1)).dropKey
  return x.push streamEnd

/-- A directive. -/
def fetchDirective (x : Lexer) : Except Error Lexer := do
  let x ← (x.unwind (-1)).dropKey
  let (d, after) ← scanDirective x.cursor
  return ((x.push (directive d)).moveTo after).allow false

/-- The mark of a document. -/
def fetchSeparator (token : Token) (x : Lexer) : Except Error Lexer := do
  let x ← (x.unwind (-1)).dropKey
  return ((x.push token).moveTo (x.cursor.forward 3)).allow false

/-- The beginning of a flow collection. -/
def fetchFlowStart (token : Token) (x : Lexer) : Except Error Lexer := do
  let x ← x.saveKey
  return { ((x.push token).moveTo x.cursor.next).allow true with pending := none :: x.pending }

/-- The end of a flow collection. -/
def fetchFlowEnd (token : Token) (x : Lexer) : Except Error Lexer := do
  let x ← x.dropKey
  let pending := if x.inFlow then x.pending.tail else x.pending
  return { ((x.push token).moveTo x.cursor.next).allow false with pending := pending }

/-- A comma between the entries of a flow collection. -/
def fetchFlowEntry (x : Lexer) : Except Error Lexer := do
  let x ← x.dropKey
  return ((x.push flowEntry).moveTo x.cursor.next).allow true

/-- The mark of an entry of a block sequence. -/
def fetchBlockEntry (x : Lexer) : Except Error Lexer := do
  if !x.inFlow && !x.keyAllowed then throw (.malformed .entryPlace)
  let x ← (x.openBlock x.cursor.column x.done.length blockSequenceStart).dropKey
  return ((x.push blockEntry).moveTo x.cursor.next).allow true

/-- The mark of a key. -/
def fetchKey (x : Lexer) : Except Error Lexer := do
  if !x.inFlow && !x.keyAllowed then throw (.malformed .keyPlace)
  let x ← (x.openBlock x.cursor.column x.done.length blockMappingStart).dropKey
  return ((x.push key).moveTo x.cursor.next).allow !x.inFlow

/-- The mark of a value after a pending key, which becomes a key. -/
def fetchValueOf (k : PendingKey) (x : Lexer) : Lexer :=
  let later := x.done.length - k.number
  let x := { x with
    done := x.done.take later ++ key :: x.done.drop later
    pending := none :: x.pending.tail }
  let x := x.openBlock k.start.column k.number blockMappingStart
  ((x.push value).moveTo x.cursor.next).allow false

/-- The mark of a value. -/
def fetchValue (x : Lexer) : Except Error Lexer :=
  match x.pending with
  | some k :: _ => .ok (x.fetchValueOf k)
  | _ =>
    if !x.inFlow && !x.keyAllowed then .error (.malformed .valuePlace)
    else
      let x := x.openBlock x.cursor.column x.done.length blockMappingStart
      .ok (((x.push value).moveTo x.cursor.next).allow !x.inFlow)

/-- An alias or an anchor. -/
def fetchName (token : Text → Token) (x : Lexer) : Except Error Lexer := do
  let x ← x.saveKey
  let (name, after) ← scanAnchor x.cursor
  return ((x.push (token name)).moveTo after).allow false

/-- A tag. -/
def fetchTag (x : Lexer) : Except Error Lexer := do
  let x ← x.saveKey
  let (found, after) ← scanTag x.cursor
  return ((x.push found).moveTo after).allow false

/-- A block scalar. -/
def fetchBlockScalar (folded : Bool) (x : Lexer) : Except Error Lexer := do
  let x ← x.dropKey
  let (t, after) ← scanBlock folded x.indent x.cursor
  return ((x.push (scalar t false)).moveTo after).allow true

/-- A quoted scalar. -/
def fetchQuoted (double : Bool) (x : Lexer) : Except Error Lexer := do
  let x ← x.saveKey
  let (t, after) ← scanQuoted double x.cursor
  return ((x.push (scalar t false)).moveTo after).allow false

/-- A plain scalar. -/
def fetchPlain (x : Lexer) : Except Error Lexer := do
  let x ← x.saveKey
  let (t, keyAllowed, after) ← scanPlain x.inFlow (x.indent + 1) x.cursor
  return ((x.push (scalar t true)).moveTo after).allow keyAllowed

/-- A code point that means something at the beginning of a token. -/
def isIndicator (p : CodePoint) : Bool :=
  endsWord (some p) || isAmong (some p) "-?:,[]\x7b\x7d#&*!|>'\"%@\x60".toText

/-- The token that begins with a code point whose meaning depends on the one after it: a mark before a blank, and a
plain scalar otherwise. -/
def fetchMark (p : CodePoint) (x : Lexer) : Except Error Lexer := do
  let blank := endsWord (← x.cursor.peekAt 1)
  if p = '-' then if blank then x.fetchBlockEntry else x.fetchPlain
  else if p = '?' then if blank then x.fetchKey else x.fetchPlain
  else if p = ':' then if blank then x.fetchValue else x.fetchPlain
  else throw (.malformed (.tokenStart p))

/-- The next token of any other kind than those that are marks of their own. -/
def fetchOther (p : CodePoint) (x : Lexer) : Except Error Lexer :=
  if p = '?' ∧ x.inFlow then x.fetchKey
  else if p = ':' ∧ x.inFlow then x.fetchValue
  else if p = '*' then x.fetchName reference
  else if p = '&' then x.fetchName anchor
  else if p = '!' then x.fetchTag
  else if p = '|' ∧ ¬x.inFlow then x.fetchBlockScalar false
  else if p = '>' ∧ ¬x.inFlow then x.fetchBlockScalar true
  else if p = '\'' then x.fetchQuoted false
  else if p = '"' then x.fetchQuoted true
  else if isIndicator p then x.fetchMark p
  else x.fetchPlain

/-- A mark of three equal code points stands at the beginning of the line, whose first one is given. -/
def atLineMark (p mark : CodePoint) (x : Lexer) : Except Error Bool :=
  if p = mark ∧ x.cursor.column = 0 then x.cursor.atMark [mark] else .ok false

/-- The token at the cursor, which begins with the given code point. -/
def fetchAt (p : CodePoint) (x : Lexer) : Except Error Lexer := do
  if p = '%' ∧ x.cursor.column = 0 then x.fetchDirective
  else if ← x.atLineMark p '-' then x.fetchSeparator documentStart
  else if ← x.atLineMark p '.' then x.fetchSeparator documentEnd
  else if p = '[' then x.fetchFlowStart flowSequenceStart
  else if p = '\x7b' then x.fetchFlowStart flowMappingStart
  else if p = ']' then x.fetchFlowEnd flowSequenceEnd
  else if p = '\x7d' then x.fetchFlowEnd flowMappingEnd
  else if p = ',' then x.fetchFlowEntry
  else x.fetchOther p

/-- The next token, and whether it is not the last. The code point behind it has been looked at. -/
def fetch (x : Lexer) : Except Error (Bool × Lexer) := do
  let x ← x.toToken
  let x ← x.dropStale
  match ← x.cursor.peek with
  | none => return (false, ← x.fetchEnd)
  | some p =>
    let x ← (x.unwind x.cursor.column).fetchAt p
    let _ ← x.cursor.peek
    return (true, x)

/-- The tokens that no pending key can change any more, in order. -/
def settled (x : Lexer) : List Token :=
  let numbers := x.pending.filterMap fun k => k.map PendingKey.number
  x.done.reverse.take (numbers.foldl min x.done.length)

/-- All tokens from here on. -/
def run : (fuel : Nat) → Lexer → TokenStream
  | 0, x => ⟨x.settled, none⟩
  | fuel + 1, x =>
    match x.dropStale with
    | .error e => ⟨x.settled, some e⟩
    | .ok x =>
      match x.fetch with
      | .error e => ⟨x.settled, some e⟩
      | .ok (false, x) => ⟨x.done.reverse, none⟩
      | .ok (true, x) => run fuel x

end Lexer

/-- The tokens of a source. -/
def scan (s : Source) : TokenStream := (Lexer.start s).run (s.text.length + 2)

end Token

end MonitorIntake.Yaml
