import PolicyGate.Admission.Client
import PolicyGate.Gateway.Endpoint
import PolicyGate.Gateway.Step

/-!
# Requests and responses

How the endpoints look to an HTTP client. A request to validate becomes an event; all else is
answered at once from what the gateway remembers and changes nothing.
-/

namespace PolicyGate

/-- A request as it comes in. -/
structure Request where
  method : String
  target : String
  headers : Headers
  upload : Upload

/-- How the gateway is doing. -/
structure Readiness where
  ready : Bool
  inflight : Nat
  maxInflight : Nat
  requests : Nat
  errors : Nat
  buildVersion : String
  deriving DecidableEq, Repr

/-- What a response holds. -/
inductive Content where
  | nothing
  | reply (r : Reply)
  | health (uptimeSec : Nat)
  | readiness (r : Readiness)
  | figures (t : Telemetry)
  | exposition (text : String)

namespace Content

/-- The media type of a content, if there is any. -/
def mediaType? : Content → Option String
  | .nothing => none
  | .exposition _ => some "text/plain; version=0.0.4; charset=utf-8"
  | _ => some "application/json"

end Content

structure Response where
  status : Nat
  mediaType : Option String
  /-- The methods that would have been taken, if the one of the request is not. -/
  allow : Option (List String)
  /-- The identity of a request to validate. -/
  requestId : Option String
  content : Content

namespace Response

/-- A response with a content and nothing else. -/
def holding (status : Nat) (c : Content) : Response := ⟨status, c.mediaType?, none, none, c⟩

def ofAnswer (a : Answer) : Response :=
  { holding a.status (.reply a.reply) with requestId := some a.reply.requestId }

/-- The same without its content, for a client that asks for the headers alone. -/
def headersOnly (r : Response) : Response := { r with content := .nothing }

end Response

namespace Gateway

/-- How the gateway is doing. -/
def readiness (g : Gateway) : Readiness :=
  ⟨g.isReady, g.slots.current, g.slots.max, g.telemetry.requests, g.telemetry.errors,
    g.config.service.buildVersion⟩

/-- The response of a read-only endpoint, none for requests to validate. -/
def view? (g : Gateway) (now : Moment) : Endpoint → Option Response
  | .validate => none
  | .health => some (.holding 200 (.health ((now - g.startedAt) / 1000000000)))
  | .readiness => some (.holding (if g.isReady then 200 else 503) (.readiness g.readiness))
  | .figures => some (.holding 200 (.figures g.telemetry))
  | .exposition =>
    some (.holding 200 (.exposition (g.metrics.expose g.telemetry g.slots.current)))

/-- The response to a request that needs no event. -/
def respond? (g : Gateway) (now : Moment) (q : Request) : Option Response :=
  match Route.of q.method q.target with
  | .notFound => some (.holding 404 .nothing)
  | .notAllowed allowed => some { Response.holding 405 .nothing with allow := some allowed }
  | .endpoint e =>
    (g.view? now e).map fun r => if q.method = "HEAD" then r.headersOnly else r

/-- The event that a request to validate is. -/
def arrival (requestId : String) (q : Request) : Arrival :=
  ⟨requestId, Client.key q.headers, q.upload⟩

end Gateway

end PolicyGate
