import MonitorIntake.Text.Basic

/-!
# Activities of tools

A tool answers through two callbacks and may also break off. What it does in one run is a list of events in order
(`Activity`), for any type `ε` of failures. `Activity.settle` makes one outcome of it: an activity that breaks off has
that failure whatever was reported before, otherwise the first reported failure counts, otherwise the first response,
and an activity without any of these is a silent one.
-/

namespace MonitorIntake

/-- What a tool does at one moment of a run. -/
inductive Event (ε : Type)
  /-- The response callback is called. -/
  | response (t : Text)
  /-- The failure callback is called. -/
  | failure (e : ε)
  /-- The run breaks off. -/
  | broken (e : ε)

/-- What a tool does in one run. -/
abbrev Activity (ε : Type) := List (Event ε)

/-- Why a run has no response. -/
inductive RunError (ε : Type)
  | failed (e : ε)
  | silent (typeName : Text)

/-- The wording of a silent run. -/
def RunError.silentMessage (typeName : Text) : Text :=
  "Tool ".toText ++ typeName ++ " completed without a response".toText

namespace Activity

variable {ε : Type}

/-- The failure that breaks the activity off. -/
def broken? : Activity ε → Option ε
  | [] => none
  | .broken e :: _ => some e
  | _ :: rest => broken? rest

/-- The responses, in order, up to where the activity breaks off. -/
def responses : Activity ε → List Text
  | [] => []
  | .response t :: rest => t :: responses rest
  | .failure _ :: rest => responses rest
  | .broken _ :: _ => []

/-- The reported failures, in order, up to where the activity breaks off. -/
def failures : Activity ε → List ε
  | [] => []
  | .response _ :: rest => failures rest
  | .failure e :: rest => e :: failures rest
  | .broken _ :: _ => []

/-- The one outcome of the activity of a tool with the given type name. -/
def settle (typeName : Text) (a : Activity ε) : Except (RunError ε) Text :=
  match a.broken?, a.failures, a.responses with
  | some e, _, _ => .error (.failed e)
  | none, e :: _, _ => .error (.failed e)
  | none, [], t :: _ => .ok t
  | none, [], [] => .error (.silent typeName)

end Activity

end MonitorIntake
