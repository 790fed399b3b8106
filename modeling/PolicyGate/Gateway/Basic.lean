import PolicyGate.Admission.Slots
import PolicyGate.Admission.Window
import PolicyGate.Config.Basic
import PolicyGate.Gateway.Reply
import PolicyGate.Observe.Metrics

/-!
# The gateway

What the gateway remembers between requests: its limiter, its slots, its telemetry and metrics, and
the tasks that wait for an engine. A task holds a slot from the admission of its request until its
engines have ended, whether or not its caller is still there.
-/

namespace PolicyGate

/-- A reading of the clock in nanoseconds. -/
abbrev Moment := Nat

/-- Whole milliseconds, of a moment or of the time between two. -/
def wholeMs (nanoseconds : Nat) : Nat := min (nanoseconds / 1000000) Telemetry.largest

/-- One request to validate, told apart by its number. -/
structure Visit where
  number : Nat
  requestId : String
  arrivedAt : Moment
  deriving DecidableEq, Repr

/-- Work for the engines. -/
structure Task where
  visit : Visit
  input : EngineInput
  rules : List Policy.Rule
  /-- The engine that runs. -/
  role : EngineRole
  /-- Whether the caller still waits for the answer. -/
  awaited : Bool

/-- How an engine's run ends for a task. -/
inductive Ending where
  | outcome (o : Outcome)
  /-- The engine broke down and gives no outcome. -/
  | crashed
  deriving DecidableEq, Repr

structure Gateway where
  config : Config
  /-- Whether a secondary engine may stand in for the primary. -/
  canFallBack : Bool
  startedAt : Moment
  limiter : Limiter
  slots : Slots
  telemetry : Telemetry
  metrics : Metrics
  /-- How many requests to validate have arrived. -/
  arrived : Nat
  tasks : List Task

namespace Gateway

/-- A gateway that has seen no request. Its limiter counts in nanoseconds. -/
def start (config : Config) (canFallBack : Bool) (now : Moment) : Gateway where
  config := config
  canFallBack := canFallBack
  startedAt := now
  limiter := .start (config.rate.windowMs * 1000000) config.rate.maxRequests config.rate.maxTracked
  slots := .start config.admission.maxInflight
  telemetry := .empty
  metrics := .empty
  arrived := 0
  tasks := []

/-- The task of a request, if its engines run. -/
def task? (g : Gateway) (number : Nat) : Option Task :=
  g.tasks.find? fun t => t.visit.number = number

def isDraining (g : Gateway) : Bool := g.metrics.draining

/-- Whether new work is welcome: the gateway does not drain and has a free slot. -/
def isReady (g : Gateway) : Bool := !g.isDraining && !g.slots.isSaturated

end Gateway

end PolicyGate
