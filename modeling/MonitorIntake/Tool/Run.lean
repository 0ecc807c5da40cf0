import MonitorIntake.Extraction
import MonitorIntake.Json.Writer
import MonitorIntake.Tool.Activity
import MonitorIntake.Tool.Kind
import MonitorIntake.Tool.Log

/-!
# Running a tool

`run` extracts the parameters and reports exactly one event: the parameters as strict JSON, or the failure. It writes at
most three log records, in this order: a warning about an input that is there and is no object, the extracted parameters
for information, and the failure as an error.
-/

namespace MonitorIntake

namespace Json

/-- The name of the type of a value. -/
def typeName : Json → Text
  | .null => "NoneType".toText
  | .bool _ => "bool".toText
  | .int _ => "int".toText
  | .double _ => "float".toText
  | .string _ => "str".toText
  | .array _ => "list".toText
  | .object _ => "dict".toText

end Json

/-- What a run reports and what it logs. -/
structure Run where
  activity : Activity Failure
  log : List LogRecord

/-- The response to an extraction: its parameters as JSON if it has an index and no number is infinite. -/
def Extraction.response (e : Extraction) : Except Failure Text :=
  if e.isOk then
    match Json.strict? (.object e.parameters) with
    | some t => .ok t
    | none => .error .nonFiniteNumber
  else .error .missingIndex

/-- The warning about an input that is there and is no object. -/
def Decoding.warning? : Decoding → Option LogRecord
  | .unreadable => some ⟨.warning, "Failed to parse input from parameters, using empty parameters".toText⟩
  | .notObject v => some ⟨.warning,
      "Input parameter decoded to ".toText ++ v.typeName ++ " instead of an object, using empty parameters".toText⟩
  | .absent => none
  | .object _ => none

/-- The record of the extracted parameters. -/
def Extraction.record (e : Extraction) : LogRecord :=
  ⟨.info, "Got input parameters like ".toText ++ (Json.object e.parameters).literal⟩

/-- The record of a failure. -/
def Failure.record (f : Failure) : LogRecord :=
  ⟨.error, "Failed to get create monitor parameters: ".toText ++ f.message⟩

/-- One run of a tool with the given parameters. -/
def run (parameters : Members) : Run :=
  match decode parameters with
  | .error f => ⟨[.failure f], [f.record]⟩
  | .ok decoding =>
    let extraction := decoding.extraction
    let log := decoding.warning?.toList ++ [extraction.record]
    match extraction.response with
    | .ok t => ⟨[.response t], log⟩
    | .error f => ⟨[.failure f], log ++ [f.record]⟩

/-- The outcome of one run: the response or the failure. -/
def ToolKind.outcome (k : ToolKind) (parameters : Members) : Except (RunError Failure) Text :=
  (run parameters).activity.settle k.typeName

/-- The wording of the reason why a run has no response. -/
def RunError.message : RunError Failure → Text
  | .failed f => f.message
  | .silent typeName => silentMessage typeName

end MonitorIntake
