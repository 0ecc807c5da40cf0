import MonitorIntake.Text.Basic

/-!
# Version

The version of the tools and of their command line.
-/

namespace MonitorIntake

/-- The version. -/
def version : Text := "0.1.0".toText

end MonitorIntake
