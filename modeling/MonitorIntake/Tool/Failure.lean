import MonitorIntake.Json.Reader

/-!
# Failures of a tool

Why a tool has no response: no index was named, a number cannot be written as JSON, or an integer of the input has too
many digits to be read.
-/

namespace MonitorIntake

/-- Why a tool has no response. -/
inductive Failure
  | missingIndex
  | nonFiniteNumber
  | tooManyDigits (count : Nat)
  deriving DecidableEq

namespace Failure

/-- The answer for a person who has not named an index. -/
def missingIndexMessage : Text :=
  ("Return this final answer to human directly and do not use other tools: 'Please provide specific index name'. " ++
    "Please try to directly send this message to human to ask for index name").toText

/-- The wording of a failure. -/
def message : Failure → Text
  | missingIndex => missingIndexMessage
  | nonFiniteNumber => "Out of range float values are not JSON compliant".toText
  | tooManyDigits count => (Json.ReadError.tooManyDigits count).message

end Failure

end MonitorIntake
