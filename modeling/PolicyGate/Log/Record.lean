/-!
# Log records
-/

namespace PolicyGate

namespace Log

/-- How grave a record is, the gravest first. -/
inductive Severity where
  | error
  | warn
  | info
  | debug
  | trace
  deriving DecidableEq, Repr

namespace Severity

def name : Severity → String
  | .error => "ERROR"
  | .warn => "WARN"
  | .info => "INFO"
  | .debug => "DEBUG"
  | .trace => "TRACE"

/-- Where a severity stands, counted from 1. -/
def rank : Severity → Nat
  | .error => 1
  | .warn => 2
  | .info => 3
  | .debug => 4
  | .trace => 5

end Severity

structure Record where
  severity : Severity
  /-- The part of the program that the record comes from. -/
  target : String
  message : String
  /-- What went wrong, if anything did. -/
  error : Option String
  /-- The names of what else it tells. -/
  details : List String := []
  deriving DecidableEq, Repr

/-- The names of all that a record tells. -/
def Record.fieldNames (r : Record) : List String :=
  "message" :: (if r.error.isSome then ["error"] else []) ++ r.details

end Log

end PolicyGate
