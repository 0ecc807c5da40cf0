import MonitorIntake.Json.Encodable
import MonitorIntake.Tool.Run

/-!
# Reports

A process that runs the tool once takes a request from its environment or its standard input and answers with a report:
an indented JSON document that says whether the run had a response, and holds the parameters or the wording of the
failure. `Request.parameters` finds the parameters: those in the environment count as they are, unless they are missing
or the empty object; those on standard input may be wrapped in a member `parameters`, and an `input` beside the wrapper
is taken into it. An object given as `input` stands for its own text.
-/

namespace MonitorIntake

/-- The standard input of a process. -/
inductive StandardInput
  | terminal
  | text (t : Text)

/-- What a process is given: the parameters in its environment, and its standard input. -/
structure Request where
  environment : Option Text
  input : StandardInput

/-- Why there is no report. -/
inductive ReportError
  | unreadable (e : Json.ReadError)
  /-- The request is a value that has no members. -/
  | notObject (v : Json)
  | unwritable (d : Json.Defect)

/-- The wording for a request that has no members. -/
def ReportError.notObjectMessage (v : Json) : Text :=
  "'".toText ++ v.typeName ++ "' object has no attribute 'get'".toText

namespace Request

/-- The name of the member that may hold the parameters. -/
def wrapperName : Text := "parameters".toText

/-- The text of a value, read as an object. -/
def readMembers (t : Text) : Except ReportError Members :=
  match Json.read t with
  | .error e => .error (.unreadable e)
  | .ok (.object members) => .ok members
  | .ok v => .error (.notObject v)

/-- The parameters in a request from standard input: those of the wrapper, if it is an object, with the `input` beside
it as long as the wrapper has none of its own. -/
def unwrap (members : Members) : Members :=
  match Members.get? wrapperName members with
  | some (.object inner) =>
    match Members.get? inputName members with
    | some v => if Members.contains inputName inner then inner else Members.put inputName v inner
    | none => inner
  | _ => members

/-- The parameters of a request. -/
def parameters (r : Request) : Except ReportError Members :=
  let environment := r.environment.getD []
  if environment ≠ [] ∧ environment ≠ "\x7b\x7d".toText then readMembers environment
  else
    match r.input with
    | .terminal => .ok []
    | .text t => if t.isBlank then .ok [] else (readMembers t).map unwrap

end Request

/-- The parameters with an object given as `input` replaced by its text. -/
def embedInput (parameters : Members) : Members :=
  match Members.get? inputName parameters with
  | some (.object members) => Members.put inputName (.string (Json.object members).write) parameters
  | _ => parameters

/-- What a report says. -/
structure Report where
  success : Bool
  parameters : Members
  error : Option Text

namespace Report

/-- The report on the outcome of a run, whose response is read again. -/
def ofOutcome : Except (RunError Failure) Text → Except ReportError Report
  | .ok response => (Request.readMembers response).map fun members => ⟨true, members, none⟩
  | .error e => .ok ⟨false, [], some e.message⟩

/-- The report as a value. -/
def toJson (r : Report) : Json :=
  .object [("success".toText, .bool r.success), (Request.wrapperName, .object r.parameters),
    ("error".toText, (r.error.map Json.string).getD .null)]

/-- The text of a report, one line end at its end. -/
def write (r : Report) : Except ReportError Text :=
  match Json.membersDefect? 1 r.parameters with
  | some d => .error (.unwritable d)
  | none => .ok (Json.indented Json.reported 0 r.toJson ++ "\n".toText)

end Report

/-- The report on one request, as a text. -/
def Request.answer (r : Request) : Except ReportError Text := do
  let parameters ← r.parameters
  let report ← Report.ofOutcome (ToolKind.createMonitorParameters.outcome (embedInput parameters))
  report.write

end MonitorIntake
