import MonitorIntake.Config.Issue
import MonitorIntake.Json.Writer
import MonitorIntake.Tool.Kind

/-!
# Input contracts

The contract of a kind of tool says what its parameters look like: an optional text `input`, and any other members
(`Contract.ofDatum`). It is published as a schema (`ToolKind.schema`).
-/

namespace MonitorIntake

/-- Parameters that keep to a contract: the input, and the names of the other members. -/
structure Contract where
  input : Option Text
  others : List Text

namespace Contract

/-- The fields of a contract. -/
def shape (k : ToolKind) : Shape := ⟨k.contractName, ["input".toText], true⟩

/-- The name of a member that the contract leaves open. -/
def other? (s : Shape) : Key → Option Text
  | .text t => if s.fields.contains t then none else some t
  | _ => none

/-- The parameters that data stands for, or all that is wrong with the data. -/
def ofDatum (k : ToolKind) (d : Datum) : Except (List Issue) Contract :=
  let issues := recordIssues (shape k) d
  if issues.isEmpty then
    match d with
    | .mapping entries => .ok ⟨fieldText "input".toText entries, entries.filterMap fun e => other? (shape k) e.1⟩
    | _ => .ok ⟨none, []⟩
  else .error issues

end Contract

namespace ToolKind

/-- What a contract says about its parameters as a whole. -/
def contractText : ToolKind → Text
  | createMonitorParameters =>
    ("Input contract for the tool.\n\nOnly \x60\x60input\x60\x60 is read; " ++
      "any other parameter the host passes along is\naccepted and ignored.").toText

/-- What a contract says about the input. -/
def inputText : ToolKind → Text
  | createMonitorParameters =>
    "JSON object with the monitor creation parameters. Must include a non-blank 'index'.".toText

/-- The schema of an optional text. -/
def inputSchema (k : ToolKind) : Json :=
  .object [
    ("anyOf".toText, .array [
      .object [("type".toText, .string "string".toText)],
      .object [("type".toText, .string "null".toText)]]),
    ("default".toText, .null),
    ("description".toText, .string k.inputText),
    ("title".toText, .string "Input".toText)]

/-- The schema of the parameters of a kind. -/
def schema (k : ToolKind) : Json :=
  .object [
    ("additionalProperties".toText, .bool true),
    ("description".toText, .string k.contractText),
    ("properties".toText, .object [("input".toText, k.inputSchema)]),
    ("title".toText, .string k.contractName),
    ("type".toText, .string "object".toText)]

end ToolKind

end MonitorIntake
