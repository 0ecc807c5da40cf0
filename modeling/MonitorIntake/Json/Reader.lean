import MonitorIntake.Json.Value

/-!
# Reading JSON

`Json.read` turns a text into the value it denotes or into the first reason why there is none. The grammar is that of
JSON with three more values, `NaN`, `Infinity` and `-Infinity`; numbers are read by longest match, so a part that does
not fit is left to what follows. An integer of more than 4300 digits and a container inside a thousand others are
refused where they are met, also in a text that is malformed later. Each scanner works on the text still to be read and
returns what is left of it, so the place of a fault is the length of the text that led up to it.
-/

namespace MonitorIntake.Json

/-- What is wrong with a text. -/
inductive Fault
  | byteOrderMark
  | noValue
  | noName
  | noColon
  | noComma
  | openString
  | controlCharacter
  | unknownEscape
  | unicodeEscape
  | trailingText
  deriving DecidableEq

/-- A place in a text: the code points before it, its line and its column, both counted from one. -/
structure Place where
  offset : Nat
  line : Nat
  column : Nat
  deriving DecidableEq

/-- Why a text denotes no value. -/
inductive ReadError
  | malformed (fault : Fault) (place : Place)
  | tooManyDigits (count : Nat)
  | tooDeep
  deriving DecidableEq

/-- The wording of a fault. -/
def Fault.message : Fault → Text
  | byteOrderMark => "Unexpected UTF-8 BOM (decode using utf-8-sig)".toText
  | noValue => "Expecting value".toText
  | noName => "Expecting property name enclosed in double quotes".toText
  | noColon => "Expecting ':' delimiter".toText
  | noComma => "Expecting ',' delimiter".toText
  | openString => "Unterminated string starting at".toText
  | controlCharacter => "Invalid control character at".toText
  | unknownEscape => "Invalid \\escape".toText
  | unicodeEscape => "Invalid \\uXXXX escape".toText
  | trailingText => "Extra data".toText

/-- The place after some code points of a text. Lines end at line feeds only. -/
def Place.after (before : Text) : Place :=
  let line := before.countP (·.val = 0x0A)
  let column := (before.reverse.takeWhile (·.val ≠ 0x0A)).length
  ⟨before.length, line + 1, column + 1⟩

/-- The wording of an error. -/
def ReadError.message : ReadError → Text
  | malformed fault place =>
    fault.message ++ ": line ".toText ++ Text.ofNat place.line ++ " column ".toText ++ Text.ofNat place.column ++
      " (char ".toText ++ Text.ofNat place.offset ++ ")".toText
  | tooManyDigits count =>
    "Exceeds the limit (4300 digits) for integer string conversion: value has ".toText ++ Text.ofNat count ++
      " digits; use sys.set_int_max_str_digits() to increase the limit".toText
  | tooDeep => "maximum recursion depth exceeded".toText

/-- What stops a scanner: a fault where `rest` begins, or a limit. -/
inductive Stop
  | fault (what : Fault) (rest : Text)
  | tooManyDigits (count : Nat)
  | tooDeep

/-- The most digits of an integer. -/
def digitLimit : Nat := 4300

/-- The most containers that may be open at one place. -/
def nestingLimit : Nat := 1000

/-- White space between tokens. -/
def isGap (c : CodePoint) : Bool := c.val = 0x20 || c.val = 0x09 || c.val = 0x0A || c.val = 0x0D

/-- The text after the white space at its beginning. -/
def skipGap (t : Text) : Text := t.dropWhile isGap

/-! ## Strings -/

/-- The code point of a two-character escape, by its second character. -/
def shortEscape? (c : CodePoint) : Option CodePoint :=
  if c = '"' ∨ c = '\\' ∨ c = '/' then some c
  else if c = 'b' then some '\x08'
  else if c = 'f' then some '\x0C'
  else if c = 'n' then some '\n'
  else if c = 'r' then some '\r'
  else if c = 't' then some '\t'
  else none

/-- The number written by four hexadecimal digits. -/
def hexNumber? (a b c d : CodePoint) : Option CodePoint := do
  CodePoint.ofNat? ((((← a.hexValue?) * 16 + (← b.hexValue?)) * 16 + (← c.hexValue?)) * 16 + (← d.hexValue?))

/-- The points read so far, last first, with an escaped one added: a low surrogate joins the escaped high one right
before it. -/
def addEscaped (c : CodePoint) (afterHigh : Bool) (done : Text) : Text :=
  match done with
  | high :: earlier => if afterHigh && c.isLow then CodePoint.join high c :: earlier else c :: done
  | [] => [c]

/-- The rest of a string and the text after it. `opening` is the text from the opening quote on, `done` holds the points
read so far, last first, and `afterHigh` tells that the last of them is an escaped high surrogate. -/
def scanString (opening : Text) (done : Text) (afterHigh : Bool) : Text → Except Stop (Text × Text)
  | [] => .error (.fault .openString opening)
  | c :: rest =>
    if c = '"' then .ok (done.reverse, rest)
    else if c.val < 0x20 then .error (.fault .controlCharacter (c :: rest))
    else if c = '\\' then
      match rest with
      | [] => .error (.fault .openString opening)
      | e :: afterLetter =>
        if e = 'u' then
          match afterLetter with
          | h₁ :: h₂ :: h₃ :: h₄ :: next :: afterDigits =>
            match hexNumber? h₁ h₂ h₃ h₄ with
            | some p => scanString opening (addEscaped p afterHigh done) p.isHigh (next :: afterDigits)
            | none => .error (.fault .unicodeEscape (e :: afterLetter))
          | _ => .error (.fault .unicodeEscape (e :: afterLetter))
        else
          match shortEscape? e with
          | some p => scanString opening (p :: done) false afterLetter
          | none => .error (.fault .unknownEscape (c :: rest))
    else scanString opening (c :: done) false rest

/-! ## Numbers -/

/-- The parts of a number: the digits before the point, those after it, and the exponent with its sign. -/
structure Numeral where
  negative : Bool
  whole : Text
  fraction : Text
  exponent : Option (Bool × Text)

/-- The digits before the point, one zero or a sequence that does not begin with zero, and the text after them. -/
def scanWhole? : Text → Option (Text × Text)
  | [] => none
  | c :: rest =>
    if c = '0' then some ([c], rest)
    else if c.isDigit then some ((c :: rest).span CodePoint.isDigit)
    else none

/-- The digits after a point, none where there is no point or no digit follows it, and the text after them. -/
def scanFraction : Text → Text × Text
  | p :: d :: rest => if p = '.' ∧ d.isDigit then (d :: rest).span CodePoint.isDigit else ([], p :: d :: rest)
  | t => ([], t)

/-- A sign, where no sign stands for plus, and the text after it. -/
def scanSign : Text → Bool × Text
  | c :: rest => if c = '-' then (true, rest) else if c = '+' then (false, rest) else (false, c :: rest)
  | [] => (false, [])

/-- An exponent, if there is one with digits, and the text after it. -/
def scanExponent : Text → Option (Bool × Text) × Text
  | c :: rest =>
    if c = 'e' ∨ c = 'E' then
      let (negative, afterSign) := scanSign rest
      match afterSign.span CodePoint.isDigit with
      | ([], _) => (none, c :: rest)
      | (digits, afterDigits) => (some (negative, digits), afterDigits)
    else (none, c :: rest)
  | [] => (none, [])

/-- A number and the text after it. -/
def scanNumeral? (t : Text) : Option (Numeral × Text) :=
  let (negative, unsigned) := match t with
    | c :: rest => if c = '-' then (true, rest) else (false, t)
    | [] => (false, t)
  match scanWhole? unsigned with
  | none => none
  | some (whole, afterWhole) =>
    let (fraction, afterFraction) := scanFraction afterWhole
    let (exponent, rest) := scanExponent afterFraction
    some (⟨negative, whole, fraction, exponent⟩, rest)

/-- The value of a number: an integer when it has neither fraction nor exponent, else the nearest double. -/
def Numeral.value (n : Numeral) : Except Stop Json :=
  if n.fraction = [] ∧ n.exponent = none then
    if digitLimit < n.whole.length then .error (.tooManyDigits n.whole.length)
    else
      let magnitude : Int := Text.readDigits n.whole
      .ok (.int (if n.negative then -magnitude else magnitude))
  else
    let exponent : Int := match n.exponent with
      | some (true, digits) => -Text.readDigits digits
      | some (false, digits) => Text.readDigits digits
      | none => 0
    .ok (.double (Double.ofDecimal n.negative
      ⟨Text.readDigits (n.whole ++ n.fraction), exponent - n.fraction.length⟩))

/-! ## Values -/

/-- The values that are written as words. -/
def words : List (Text × Json) :=
  [("null".toText, .null), ("true".toText, .bool true), ("false".toText, .bool false), ("NaN".toText, .double .nan),
    ("Infinity".toText, .double (.infinite false)), ("-Infinity".toText, .double (.infinite true))]

/-- A word or a number and the text after it. -/
def scanAtom (t : Text) : Except Stop (Json × Text) :=
  match words.find? fun w => w.1.isPrefixOf t with
  | some (word, v) => .ok (v, t.drop word.length)
  | none =>
    match scanNumeral? t with
    | none => .error (.fault .noValue t)
    | some (n, rest) => do return (← n.value, rest)

mutual

/-- A value and the text after it, where `depth` more containers may be opened. The fuel bounds the calls. -/
def scanValue : (fuel depth : Nat) → Text → Except Stop (Json × Text)
  | 0, _, _ => .error .tooDeep
  | _ + 1, _, [] => .error (.fault .noValue [])
  | fuel + 1, depth, c :: rest =>
    if c = '"' then
      match scanString (c :: rest) [] false rest with
      | .ok (t, after) => .ok (.string t, after)
      | .error stop => .error stop
    else if c = '[' then
      match depth with
      | 0 => .error .tooDeep
      | depth + 1 =>
        match skipGap rest with
        | [] => .error (.fault .noValue [])
        | d :: after => if d = ']' then .ok (.array [], after) else scanItems fuel depth [] (d :: after)
    else if c = '{' then
      match depth with
      | 0 => .error .tooDeep
      | depth + 1 =>
        match skipGap rest with
        | [] => .error (.fault .noName [])
        | d :: after => if d = '}' then .ok (.object [], after) else scanMembers fuel depth [] (d :: after)
    else scanAtom (c :: rest)

/-- The items from here to the end of the array. `done` holds the items read so far, last first. -/
def scanItems : (fuel depth : Nat) → (done : List Json) → Text → Except Stop (Json × Text)
  | 0, _, _, _ => .error .tooDeep
  | fuel + 1, depth, done, t =>
    match scanValue fuel depth t with
    | .error stop => .error stop
    | .ok (v, after) =>
      match skipGap after with
      | [] => .error (.fault .noComma [])
      | c :: rest =>
        if c = ']' then .ok (.array (v :: done).reverse, rest)
        else if c = ',' then scanItems fuel depth (v :: done) (skipGap rest)
        else .error (.fault .noComma (c :: rest))

/-- The members from here to the end of the object. `done` holds the members read so far, last first. -/
def scanMembers : (fuel depth : Nat) → (done : List (Text × Json)) → Text → Except Stop (Json × Text)
  | 0, _, _, _ => .error .tooDeep
  | _ + 1, _, _, [] => .error (.fault .noName [])
  | fuel + 1, depth, done, q :: t =>
    if q = '"' then
      match scanString (q :: t) [] false t with
      | .error stop => .error stop
      | .ok (name, afterName) =>
        match skipGap afterName with
        | [] => .error (.fault .noColon [])
        | colon :: afterColon =>
          if colon = ':' then
            match scanValue fuel depth (skipGap afterColon) with
            | .error stop => .error stop
            | .ok (v, after) =>
              match skipGap after with
              | [] => .error (.fault .noComma [])
              | c :: rest =>
                if c = '}' then .ok (.object (Members.ofPairs ((name, v) :: done).reverse), rest)
                else if c = ',' then scanMembers fuel depth ((name, v) :: done) (skipGap rest)
                else .error (.fault .noComma (c :: rest))
          else .error (.fault .noColon (colon :: afterColon))
    else .error (.fault .noName (q :: t))

end

/-- A value between white space, with nothing after it. -/
def scanDocument (t : Text) : Except Stop Json :=
  match t with
  | c :: _ =>
    if c.val = 0xFEFF then .error (.fault .byteOrderMark t)
    else
      match scanValue (2 * t.length + 2) nestingLimit (skipGap t) with
      | .error stop => .error stop
      | .ok (v, after) =>
        match skipGap after with
        | [] => .ok v
        | rest => .error (.fault .trailingText rest)
  | [] => .error (.fault .noValue [])

/-- A stop as an error of the whole text. -/
def Stop.toError (t : Text) : Stop → ReadError
  | .fault what rest => .malformed what (Place.after (t.take (t.length - rest.length)))
  | .tooManyDigits count => .tooManyDigits count
  | .tooDeep => .tooDeep

/-- The value that a text denotes. -/
def read (t : Text) : Except ReadError Json := (scanDocument t).mapError (Stop.toError t)

end MonitorIntake.Json
