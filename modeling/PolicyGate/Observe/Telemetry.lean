import PolicyGate.Decimal.Shortest
import PolicyGate.Width

/-!
# Aggregate telemetry

Five totals and two times. The totals stop at the largest 64-bit number instead of wrapping.
-/

namespace PolicyGate

/-- The totals since the last reset, and when the last request and the last error came. -/
structure Telemetry where
  requests : Nat
  errors : Nat
  rateLimited : Nat
  parseErrors : Nat
  durationMs : Nat
  lastRequestAt : Option Nat
  lastErrorAt : Option Nat
  deriving DecidableEq, Repr

namespace Telemetry

/-- Nothing recorded. -/
def empty : Telemetry := ⟨0, 0, 0, 0, 0, none, none⟩

/-- The number at which totals stop. -/
def largest : Nat := Width.of64 - 1

/-- Adds to a total. -/
def plus (total amount : Nat) : Nat := min (total + amount) largest

/-- Records an answered request, which took a number of milliseconds. -/
def request (t : Telemetry) (now durationMs : Nat) : Telemetry :=
  { t with
    requests := plus t.requests 1
    durationMs := plus t.durationMs durationMs
    lastRequestAt := some now }

def error (t : Telemetry) (now : Nat) : Telemetry :=
  { t with errors := plus t.errors 1, lastErrorAt := some now }

/-- Records a request refused by admission. -/
def refusal (t : Telemetry) : Telemetry := { t with rateLimited := plus t.rateLimited 1 }

def parseError (t : Telemetry) : Telemetry := { t with parseErrors := plus t.parseErrors 1 }

/-- The mean duration of a request in milliseconds: the totals, each rounded to a double, and their
quotient rounded again. -/
def averageMs (t : Telemetry) : Float :=
  if t.requests = 0 then 0 else t.durationMs.toUInt64.toFloat / t.requests.toUInt64.toFloat

/-- The mean duration as it is printed. -/
def averageText (t : Telemetry) : String := plainText t.averageMs

end Telemetry

end PolicyGate
