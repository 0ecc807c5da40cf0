import MonitorIntake.Config.Datum

/-!
# Issues

What is wrong with data, and where. A record of named fields is read from a mapping: its own fields first, in their
order, then whatever else the mapping holds, in the order of the mapping (`recordIssues`). Where a name is not a
proper text, no more is said than that.
-/

namespace MonitorIntake

/-- What is wrong. -/
inductive Cause
  /-- Not a mapping in the place of a record of the given name. -/
  | noRecord (name : Text)
  | noMapping
  | noText
  /-- Bytes or half pairs of surrogates that are no text. -/
  | brokenText
  | unknownField
  | fieldNoText
  deriving DecidableEq

/-- Something wrong at a place. -/
structure Issue where
  location : Location
  cause : Cause
  deriving DecidableEq

namespace Cause

/-- The wording of a cause. -/
def message : Cause → Text
  | noRecord name => "Input should be a valid dictionary or instance of ".toText ++ name
  | noMapping => "Input should be a valid dictionary".toText
  | noText => "Input should be a valid string".toText
  | brokenText => "Input should be a valid string, unable to parse raw data as a unicode string".toText
  | unknownField => "Extra inputs are not permitted".toText
  | fieldNoText => "Keys should be strings".toText

end Cause

/-- The text of an optional field; bytes count as the text that they encode. -/
def readField : Datum → Except Cause (Option Text)
  | .null => .ok none
  | .text t => .ok (some t)
  | .bytes bs =>
    match Text.ofUtf8 bs with
    | .ok t => .ok (some t)
    | .error _ => .error .brokenText
  | _ => .error .noText

/-- A record of optional texts: its name, those of its fields, and whether it may have others. -/
structure Shape where
  name : Text
  fields : List Text
  isOpen : Bool

/-- What is wrong with one of the fields that a shape names. -/
def fieldIssue? (entries : List (Key × Datum)) (field : Text) : Option Issue :=
  match Datum.field? field entries with
  | none => none
  | some d =>
    match readField d with
    | .ok _ => none
    | .error cause => some ⟨[.name field], cause⟩

/-- What is wrong with a key: it is no text, or the shape has no such field. -/
def keyIssue? (s : Shape) (key : Key) : Option Issue :=
  match key with
  | .text t => if s.isOpen || s.fields.contains t then none else some ⟨[key.step], .unknownField⟩
  | _ => some ⟨[key.step], .fieldNoText⟩

/-- The key is a text with half of a surrogate pair in it. -/
def Key.isBroken : Key → Bool
  | .text t => t.hasSurrogate
  | _ => false

/-- What is wrong with data that should be a record of a shape. -/
def recordIssues (s : Shape) : Datum → List Issue
  | .mapping entries =>
    if entries.any fun e => e.1.isBroken then [⟨[], .brokenText⟩]
    else s.fields.filterMap (fieldIssue? entries) ++ entries.filterMap fun e => keyIssue? s e.1
  | _ => [⟨[], .noRecord s.name⟩]

/-- The value of an optional text field in data without issues. -/
def fieldText (name : Text) (entries : List (Key × Datum)) : Option Text :=
  match Datum.field? name entries with
  | none => none
  | some d => (readField d).toOption.join

/-- Issues at a place inside data as issues of the data. -/
def Issue.under (l : Location) (i : Issue) : Issue := { i with location := l ++ i.location }

end MonitorIntake
