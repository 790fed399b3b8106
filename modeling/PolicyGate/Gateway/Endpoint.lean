/-!
# Endpoints

The addresses that the gateway answers and the methods that each takes. Addresses are compared
character by character, without the query. Every endpoint but the one for requests to validate is
read-only and known under more than one path.
-/

namespace PolicyGate

/-- What can be asked for. -/
inductive Endpoint where
  | validate
  | health
  | readiness
  /-- The telemetry as JSON. -/
  | figures
  /-- The metrics as text. -/
  | exposition
  deriving DecidableEq, Repr

namespace Endpoint

/-- The paths that lead somewhere. -/
def paths : List (String × Endpoint) :=
  [("/api/validate", .validate),
    ("/api/health", .health), ("/healthz", .health),
    ("/api/readiness", .readiness), ("/readyz", .readiness),
    ("/api/metrics", .figures),
    ("/api/metrics-prom", .exposition), ("/metrics", .exposition)]

/-- The path of a request target: what stands before its query, and behind the authority if the
target names one. -/
def path (target : String) : List Char :=
  let cs := target.toList.takeWhile fun c => c ≠ '?' && c ≠ '#'
  match cs with
  | '/' :: _ => cs
  | _ =>
    match (cs.dropWhile (· ≠ ':')).drop 1 with
    | '/' :: '/' :: rest =>
      match rest.dropWhile (· ≠ '/') with
      | [] => ['/']
      | p => p
    | _ => cs

/-- The endpoint that a request target leads to. -/
def ofTarget? (target : String) : Option Endpoint := paths.lookup (String.ofList (path target))

/-- The methods that an endpoint takes. -/
def methods : Endpoint → List String
  | .validate => ["POST"]
  | _ => ["GET", "HEAD"]

end Endpoint

/-- Where a method and a request target lead. -/
inductive Route where
  | endpoint (e : Endpoint)
  | notAllowed (allowed : List String)
  | notFound
  deriving DecidableEq, Repr

/-- Finds the way. -/
def Route.of (method target : String) : Route :=
  match Endpoint.ofTarget? target with
  | none => .notFound
  | some e => if method ∈ e.methods then .endpoint e else .notAllowed e.methods

end PolicyGate
