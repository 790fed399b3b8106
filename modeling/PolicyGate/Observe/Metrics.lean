import PolicyGate.Observe.Counter
import PolicyGate.Observe.Histogram
import PolicyGate.Observe.Telemetry

/-!
# Metrics

The labelled counters and durations of the gateway, whether it drains, and the text in which they
are exposed together with the telemetry.
-/

namespace PolicyGate

/-- What is counted by labels, and whether the gateway is shutting down. -/
structure Metrics where
  rejections : Counters
  engineRuns : Counters
  durations : Histograms
  draining : Bool
  deriving DecidableEq, Repr

namespace Metrics

def empty : Metrics := ⟨.empty, .empty, .empty, false⟩

/-- The three lines of a number without labels. -/
def scalar (name help kind value : String) : List String :=
  ["# HELP " ++ name ++ " " ++ help, "# TYPE " ++ name ++ " " ++ kind, name ++ " " ++ value]

/-- The lines of the exposition. -/
def render (m : Metrics) (t : Telemetry) (inflight : Nat) : List String :=
  scalar "omnilint_requests_total" "Total requests processed" "counter" (toString t.requests) ++
  scalar "omnilint_errors_total" "Total error responses" "counter" (toString t.errors) ++
  scalar "omnilint_rate_limited_total" "Total rate limited requests" "counter"
    (toString t.rateLimited) ++
  scalar "omnilint_parse_errors_total" "Total parse errors detected" "counter"
    (toString t.parseErrors) ++
  scalar "omnilint_avg_latency_ms" "Average latency in milliseconds" "gauge" t.averageText ++
  scalar "omnilint_inflight" "Requests currently admitted" "gauge" (toString inflight) ++
  m.rejections.render "omnilint_admission_rejections_total" "Admission rejections by reason" ++
  m.engineRuns.render "omnilint_engine_runs_total"
    "Engine executions by surfaced engine and outcome" ++
  m.durations.render "omnilint_request_duration_micros"
    "Validation request duration in microseconds" ++
  scalar "omnilint_draining" "1 while shutting down" "gauge" (if m.draining then "1" else "0")

/-- The exposition as a text, each line ended by a newline. -/
def expose (m : Metrics) (t : Telemetry) (inflight : Nat) : String :=
  String.join ((m.render t inflight).map (· ++ "\n"))

end Metrics

end PolicyGate
