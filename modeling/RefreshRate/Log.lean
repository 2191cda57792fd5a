namespace RefreshRate

/-!
# Log records

Every component describes what it noticed as a value of a type of its own; a
`LogRecord` is the form in which all of them are written down.
-/

/-- How urgent a record is. -/
inductive LogLevel where
  | debug
  | info
  | warning
  | error
  deriving Repr, DecidableEq

namespace LogLevel

/-- The name under which a level is written. -/
def name : LogLevel → String
  | .debug => "DEBUG"
  | .info => "INFO"
  | .warning => "WARN"
  | .error => "ERROR"

end LogLevel

/-- One line of the log with the values attached to it. -/
structure LogRecord where
  level : LogLevel
  message : String
  /-- The line of the input that the record is about, counted from one. -/
  line : Option Nat := none
  /-- The label of the error that the record reports. -/
  reason : Option String := none
  /-- The number of signals that a feed has published. -/
  published : Option Nat := none
  deriving Repr, DecidableEq

end RefreshRate
