/-!
# Faults

A request, a configuration or a context that cannot be used ends in a `Fault`. A fault has a text
for the operator, a stable code and an HTTP status, and a text for the caller that gives away
nothing internal. Faults of *admission* arise before any linting.
-/

namespace PolicyGate

/-- The parts of a request that have a size ceiling. -/
inductive Part where
  | body
  | code
  | context
  deriving DecidableEq, Repr

/-- Why something was refused. -/
inductive Fault where
  | badRequest (detail : String)
  | tooLarge (part : Part)
  | rateLimited
  | busy
  | invalidContext (reason : String)
  | internal (detail : String)
  deriving DecidableEq, Repr

/-- The codes under which faults are reported. -/
inductive FaultCode where
  | badRequest
  | payloadTooLarge
  | rateLimited
  | busy
  | invalidContext
  | internal
  deriving DecidableEq, Repr

def Part.name : Part → String
  | .body => "body"
  | .code => "code"
  | .context => "context"

def FaultCode.name : FaultCode → String
  | .badRequest => "BAD_REQUEST"
  | .payloadTooLarge => "PAYLOAD_TOO_LARGE"
  | .rateLimited => "RATE_LIMITED"
  | .busy => "BUSY"
  | .invalidContext => "INVALID_CONTEXT"
  | .internal => "INTERNAL"

/-- The HTTP status for a code. A fault of the request's shape is a failed call. -/
def FaultCode.status : FaultCode → Nat
  | .payloadTooLarge => 413
  | .rateLimited => 429
  | .busy => 503
  | .badRequest | .invalidContext | .internal => 500

namespace Fault

def code : Fault → FaultCode
  | .badRequest _ => .badRequest
  | .tooLarge _ => .payloadTooLarge
  | .rateLimited => .rateLimited
  | .busy => .busy
  | .invalidContext _ => .invalidContext
  | .internal _ => .internal

/-- The text for the operator. -/
def message : Fault → String
  | .badRequest detail => "bad request: " ++ detail
  | .tooLarge part => part.name ++ " too large"
  | .rateLimited => "rate limited"
  | .busy => "server busy"
  | .invalidContext reason => "invalid context: " ++ reason
  | .internal detail => "internal: " ++ detail

/-- The text for the caller. -/
def clientMessage : Fault → String
  | .badRequest _ => "Malformed request body."
  | .tooLarge .body => "Payload too large."
  | .tooLarge .code => "Policy too large."
  | .tooLarge .context => "Context JSON too large."
  | .rateLimited => "Rate limit exceeded. Please retry later."
  | .busy => "Server busy. Please retry shortly."
  | .invalidContext reason => "Invalid context JSON: " ++ reason
  | .internal _ => "Internal error during validation."

/-- Whether a fault arises before any linting. -/
def isAdmission : Fault → Bool
  | .tooLarge _ | .rateLimited | .busy => true
  | _ => false

end Fault

end PolicyGate
