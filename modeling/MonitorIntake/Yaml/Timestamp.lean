import MonitorIntake.Yaml.Fault

/-!
# Dates and times

A timestamp is a date, or a date and a time of day with a fraction of a second and the distance from universal time
(`Timestamp`). `TimestampParts.read?` takes its text apart, and `TimestampParts.value` refuses what is no date or no
time.
-/

namespace MonitorIntake.Yaml

/-- The parts of a time of day; `zone` is the distance from universal time in minutes. -/
structure TimeParts where
  hour : Nat
  minute : Nat
  second : Nat
  micro : Nat
  zone : Option Int
  deriving DecidableEq

/-- A timestamp, or the parts that the text of one has. -/
structure Timestamp where
  year : Nat
  month : Nat
  day : Nat
  time : Option TimeParts
  deriving DecidableEq

namespace Timestamp

/-! ## Reading -/

/-- `n` digits at the front of a text. -/
def digits? : (n : Nat) → Text → Option (Text × Text)
  | 0, t => some ([], t)
  | n + 1, c :: rest => if c.isDigit then (digits? n rest).map fun p => (c :: p.1, p.2) else none
  | _ + 1, [] => none

/-- One digit or two at the front of a text. -/
def oneOrTwo? (t : Text) : Option (Text × Text) := (digits? 2 t).or (digits? 1 t)

/-- A code point at the front of a text. -/
def after? (p : CodePoint) : Text → Option Text
  | c :: rest => if c = p then some rest else none
  | [] => none

/-- A space or a tab. -/
def isGap (c : CodePoint) : Bool := c = ' ' || c = '\t'

/-- The millionths that the digits of a fraction stand for, as far as they reach. -/
def millionths (digits : Text) : Nat := Text.readDigits ((digits ++ List.replicate 6 ('0' : CodePoint)).take 6)

/-- The minutes of a distance from universal time, whose sign is taken off. -/
def zoneMinutes? (t : Text) : Option Nat := do
  let (hours, t) ← oneOrTwo? t
  if t.isEmpty then return Text.readDigits hours * 60
  let (minutes, t) ← digits? 2 (← after? ':' t)
  if t.isEmpty then return Text.readDigits hours * 60 + Text.readDigits minutes else none

/-- The distance from universal time at the end of a timestamp, in minutes; there may be none. -/
def zone? (t : Text) : Option (Option Int) :=
  match t.dropWhile isGap with
  | [] => if t.isEmpty then some none else none
  | c :: rest =>
    if c = 'Z' then if rest.isEmpty then some (some 0) else none
    else if c = '+' then (zoneMinutes? rest).map fun n => some (n : Int)
    else if c = '-' then (zoneMinutes? rest).map fun n => some (-n : Int)
    else none

/-- The text after the mark between the date and the time. -/
def afterDate? : Text → Option Text
  | c :: rest =>
    if c = 'T' ∨ c = 't' then some rest else if isGap c then some (rest.dropWhile isGap) else none
  | [] => none

/-- The time of day of a timestamp. -/
def readTime? (t : Text) : Option TimeParts := do
  let (hour, t) ← oneOrTwo? t
  let (minute, t) ← digits? 2 (← after? ':' t)
  let (second, t) ← digits? 2 (← after? ':' t)
  let (fraction, t) := match after? '.' t with
    | some rest => (rest.takeWhile CodePoint.isDigit, rest.dropWhile CodePoint.isDigit)
    | none => ([], t)
  let zone ← zone? t
  return ⟨Text.readDigits hour, Text.readDigits minute, Text.readDigits second, millionths fraction, zone⟩

/-- The parts of a timestamp. -/
def read? (t : Text) : Option Timestamp := do
  let (year, t) ← digits? 4 t
  let (month, t) ← oneOrTwo? (← after? '-' t)
  let (day, t) ← oneOrTwo? (← after? '-' t)
  let date (time : Option TimeParts) : Timestamp :=
    ⟨Text.readDigits year, Text.readDigits month, Text.readDigits day, time⟩
  if t.isEmpty then return date none
  return date (some (← readTime? (← afterDate? t)))

/-- The text has the form by which an untagged scalar is a timestamp: a date alone needs two digits for the month and
two for the day. -/
def isPattern (t : Text) : Bool :=
  match read? t with
  | some parts => parts.time.isSome || t.length = 10
  | none => false

/-! ## Range -/

/-- The year has a 29th of February. -/
def isLeap (year : Nat) : Bool := year % 4 = 0 && (year % 100 ≠ 0 || year % 400 = 0)

/-- The number of days of a month. -/
def monthLength (year month : Nat) : Nat :=
  if month = 2 then if isLeap year then 29 else 28
  else if month = 4 ∨ month = 6 ∨ month = 9 ∨ month = 11 then 30
  else 31

/-- What is out of range in a date. -/
def dateFault? (s : Timestamp) : Option ScalarFault :=
  if s.year = 0 then some (.year 0)
  else if s.month = 0 ∨ 12 < s.month then some .month
  else if s.day = 0 ∨ monthLength s.year s.month < s.day then some .day
  else none

/-- What is out of range in a time of day. -/
def timeFault? (p : TimeParts) : Option ScalarFault :=
  if 23 < p.hour then some .hour
  else if 59 < p.minute then some .minute
  else if 59 < p.second then some .second
  else none

/-- The distance from universal time is a day or more. -/
def zoneFault? (p : TimeParts) : Option ScalarFault :=
  match p.zone with
  | some minutes => if minutes.natAbs < 1440 then none else some (.offset minutes)
  | none => none

/-- What is out of range: the distance from universal time first, then the date, then the time of day. -/
def fault? (s : Timestamp) : Option ScalarFault :=
  (s.time.bind zoneFault?).or ((dateFault? s).or (s.time.bind timeFault?))

/-! ## Comparison and text -/

/-- The number of days from the first day of the year 1 to a date. -/
def dayNumber (s : Timestamp) : Nat :=
  let y := s.year - 1
  let months := (List.range (s.month - 1)).map fun m => monthLength s.year (m + 1)
  y * 365 + y / 4 - y / 100 + y / 400 + months.foldl (· + ·) 0 + (s.day - 1)

/-- The millionths of a second up to the time, by universal time if the distance from it is known. -/
def instant (s : Timestamp) : Int :=
  match s.time with
  | none => (s.dayNumber : Int) * 86400000000
  | some p =>
    let minutes : Int := (s.dayNumber * 1440 + p.hour * 60 + p.minute : Nat) - p.zone.getD 0
    (minutes * 60 + p.second) * 1000000 + p.micro

/-- Two timestamps are the same: of the same kind, and at the same time. -/
def same (s u : Timestamp) : Bool :=
  match s.time, u.time with
  | none, none => s.instant == u.instant
  | some p, some q => p.zone.isSome == q.zone.isSome && s.instant == u.instant
  | _, _ => false

/-- The text of a distance from universal time. -/
def zoneText (minutes : Int) : Text :=
  if minutes = 0 then "datetime.timezone.utc".toText
  else "datetime.timezone(".toText ++ durationText minutes ++ ")".toText

/-- The text of a timestamp in a report. -/
def text (s : Timestamp) : Text :=
  let numbers (ns : List Nat) : Text := Text.joinWith ", ".toText (ns.map Text.ofNat)
  match s.time with
  | none => "datetime.date(".toText ++ numbers [s.year, s.month, s.day] ++ ")".toText
  | some p =>
    let shown := [s.year, s.month, s.day, p.hour, p.minute] ++
      (if p.micro ≠ 0 then [p.second, p.micro] else if p.second ≠ 0 then [p.second] else [])
    let zone := match p.zone with
      | some minutes => ", tzinfo=".toText ++ zoneText minutes
      | none => []
    "datetime.datetime(".toText ++ numbers shown ++ zone ++ ")".toText

end Timestamp

end MonitorIntake.Yaml
