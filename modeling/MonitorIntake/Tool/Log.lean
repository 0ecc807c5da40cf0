import MonitorIntake.Text.Basic

/-!
# Log records

A record has a level and a message. A log shows the records of a level and above (`Record.shown`), each as one line
with its level and the name of the logger.
-/

namespace MonitorIntake

/-- The levels of log records, from the least to the most severe. -/
inductive LogLevel
  | debug
  | info
  | warning
  | error
  deriving DecidableEq

namespace LogLevel

/-- All levels, from the least to the most severe. -/
def all : List LogLevel := [debug, info, warning, error]

/-- The severity of a level. -/
def severity : LogLevel → Nat
  | debug => 10
  | info => 20
  | warning => 30
  | error => 40

/-- The name of a level. -/
def name : LogLevel → Text
  | debug => "DEBUG".toText
  | info => "INFO".toText
  | warning => "WARNING".toText
  | error => "ERROR".toText

end LogLevel

/-- A log record. -/
structure LogRecord where
  level : LogLevel
  message : Text
  deriving DecidableEq

namespace LogRecord

/-- A log of the given level shows the record. -/
def shown (threshold : LogLevel) (r : LogRecord) : Bool := threshold.severity ≤ r.level.severity

/-- The record as a line, without the line end. -/
def line (logger : Text) (r : LogRecord) : Text := r.level.name ++ " ".toText ++ logger ++ ": ".toText ++ r.message

end LogRecord

end MonitorIntake
