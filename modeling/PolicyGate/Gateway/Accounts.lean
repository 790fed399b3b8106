import PolicyGate.Gateway.Basic

/-!
# What is recorded of a request

A request is recorded when it is answered, once. A rejection counts among the refusals and by its
reason; every other fault is an error and a failed duration; what is answered without a fault is a
request and a duration by its conclusion, and a parse error or an engine run besides.
-/

namespace PolicyGate

/-- Why a request is rejected before anything is looked at. -/
inductive Rejection where
  | payloadTooLarge
  | rateLimited
  | busy
  deriving DecidableEq, Repr

namespace Rejection

def name : Rejection → String
  | .payloadTooLarge => "payload_too_large"
  | .rateLimited => "rate_limited"
  | .busy => "busy"

/-- The labels under which rejections are counted. -/
def labels (r : Rejection) : List Label := [("reason", r.name)]

def all : List Rejection := [.payloadTooLarge, .rateLimited, .busy]

end Rejection

/-- The rejection that a fault is, if it is one of admission. -/
def Fault.rejection? : Fault → Option Rejection
  | .tooLarge _ => some .payloadTooLarge
  | .rateLimited => some .rateLimited
  | .busy => some .busy
  | _ => none

/-- How a request ends that was not rejected. -/
inductive Conclusion where
  | lintErrors
  | invalidContext
  | executed
  | failed
  deriving DecidableEq, Repr

namespace Conclusion

def name : Conclusion → String
  | .lintErrors => "lint_errors"
  | .invalidContext => "invalid_context"
  | .executed => "executed"
  | .failed => "failed"

/-- The labels under which durations are filed. -/
def labels (c : Conclusion) : List Label := [("outcome", c.name)]

end Conclusion

/-- The labels under which engine runs are counted. -/
def engineLabels (engine : EngineTag) (error : Bool) : List Label :=
  [("engine", engine.name), ("outcome", if error then "error" else "ok")]

namespace Gateway

/-- Files how long a request took. -/
def observe (g : Gateway) (c : Conclusion) (v : Visit) (now : Moment) : Gateway :=
  { g with metrics.durations := g.metrics.durations.observe c.labels (now - v.arrivedAt) }

/-- Records a request that ends in a fault. -/
def recordFault (g : Gateway) (f : Fault) (v : Visit) (now : Moment) : Gateway :=
  match f.rejection? with
  | some r =>
    { g with
      telemetry := g.telemetry.refusal
      metrics.rejections := g.metrics.rejections.increment r.labels }
  | none => { g with telemetry := g.telemetry.error (wholeMs now) }.observe .failed v now

/-- Records a request that is answered without a fault. -/
def recordRequest (g : Gateway) (c : Conclusion) (v : Visit) (now : Moment) : Gateway :=
  { g with
    telemetry := g.telemetry.request (wholeMs now) (wholeMs (now - v.arrivedAt)) }.observe c v now

/-- Records a request whose policy or context was found wrong. -/
def recordParseError (g : Gateway) (c : Conclusion) (v : Visit) (now : Moment) : Gateway :=
  { g with telemetry := g.telemetry.parseError }.recordRequest c v now

/-- Records a request whose policy was run. -/
def recordRun (g : Gateway) (r : EngineResult) (v : Visit) (now : Moment) : Gateway :=
  { g with
    metrics.engineRuns :=
      g.metrics.engineRuns.increment (engineLabels r.engine r.error) }.recordRequest .executed v now

end Gateway

end PolicyGate
