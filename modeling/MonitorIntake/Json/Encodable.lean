import MonitorIntake.Json.Value

/-!
# What a report cannot carry

A report is UTF-8 and of bounded depth, so a value with half of a surrogate pair in a string or a name, or with an
element more than 255 levels deep, cannot be written into one. `Json.defect?` finds the first reason in reading order,
a name before its value.
-/

namespace MonitorIntake.Json

/-- Why a value cannot be written into a report. -/
inductive Defect
  /-- Surrogates at the places from `start` up to `stop` of a string, the first of them `c`. -/
  | surrogates (c : CodePoint) (start stop : Nat)
  | tooDeep
  deriving DecidableEq

/-- The wording of a defect. -/
def Defect.message : Defect → Text
  | surrogates c start stop =>
    let place : Text :=
      if stop = start + 1 then
        " '\\u".toText ++ Text.hex 4 c.val ++ "' in position ".toText ++ Text.ofNat start
      else "s in position ".toText ++ Text.ofNat start ++ "-".toText ++ Text.ofNat (stop - 1)
    "Error serializing to JSON: UnicodeEncodeError: 'utf-8' codec can't encode character".toText ++ place ++
      ": surrogates not allowed".toText
  | tooDeep => "Error serializing to JSON: ValueError: Maximum serialization depth exceeded".toText

/-- The most levels that an element may lie deep. -/
def depthLimit : Nat := 255

/-- The first run of surrogates in a text. -/
def textDefect? (t : Text) : Option Defect :=
  match t.dropWhile (!·.isSurrogate) with
  | [] => none
  | c :: rest =>
    let start := (t.takeWhile (!·.isSurrogate)).length
    some (.surrogates c start (start + 1 + (rest.takeWhile CodePoint.isSurrogate).length))

mutual

/-- The first defect of a value that lies `level` levels deep. -/
def defect? (level : Nat) (v : Json) : Option Defect :=
  if depthLimit < level then some .tooDeep
  else
    match v with
    | .string t => textDefect? t
    | .array items => itemsDefect? (level + 1) items
    | .object members => membersDefect? (level + 1) members
    | _ => none

/-- The first defect of some items. -/
def itemsDefect? (level : Nat) : List Json → Option Defect
  | [] => none
  | v :: rest => (defect? level v).or (itemsDefect? level rest)

/-- The first defect of some members. -/
def membersDefect? (level : Nat) : List (Text × Json) → Option Defect
  | [] => none
  | (k, v) :: rest => (textDefect? k).or ((defect? level v).or (membersDefect? level rest))

end

end MonitorIntake.Json
