import PolicyGate.Host.SocketAddress
import PolicyGate.Log.Filter

/-!
# Starting and stopping

The gateway loads its settings, takes its place to listen from them, gets ready and opens its
socket. The first step that fails ends it. Once it listens, a signal drains and stops it.
-/

namespace PolicyGate

/-- Why the gateway does not start. -/
inductive StartFault where
  | settings (f : Fault)
  /-- The place to listen is no socket address. -/
  | address (raw : String)
  | bind (f : Host.BindFault)
  deriving DecidableEq, Repr

def StartFault.message : StartFault → String
  | .settings f => f.message
  | .address raw =>
    "gateway.listen " ++ Text.quoted raw ++ " is not a socket address: invalid socket address syntax"
  | .bind f => f.message

namespace Startup

/-! ## Records -/

/-- What the records of the program come from. -/
def target : String := "omnilint_gateway"

def info (message : String) : Log.Record := { severity := .info, target, message, error := none }

/-- A record of the part that takes connections. -/
def server (message : String) : Log.Record :=
  { severity := .trace, target := "axum::serve", message, error := none }

/-- The gateway has its state. -/
def ready : Log.Record :=
  { info "gateway state ready" with
    target := target ++ "::app_state"
    details := ["max_body", "max_code", "max_context", "window_ms", "max_requests", "max_inflight",
      "fallback"] }

def starting : Log.Record :=
  { info "omnilint-gateway starting" with details := ["listen", "build_version"] }

/-- What is logged from a signal to the end. -/
def stopping : List Log.Record :=
  [info "signal received, draining before shutdown",
    server "received graceful shutdown signal. Telling tasks to shutdown",
    server "signal received, not accepting new connections",
    server "waiting for 0 task(s) to finish",
    info "omnilint-gateway stopped"]

def failed (f : StartFault) : Log.Record :=
  { severity := .error, target, message := "omnilint-gateway failed", error := some f.message }

/-! ## Steps -/

/-- The place to listen. -/
def listenAddress (c : Config) : Except StartFault Host.SocketAddress :=
  match Host.SocketAddress.parse? c.service.listen.toList with
  | none => .error (.address c.service.listen)
  | some a => .ok a

/-- What is known before the gateway gets ready. -/
def prepare (lookup : Config.Lookup) (read : String → Except String String) :
    Except StartFault (Config × Host.SocketAddress) :=
  match Config.load lookup read with
  | .error f => .error (.settings f)
  | .ok c => (listenAddress c).map fun a => (c, a)

/-- How a start goes: what is logged, and the settings if the gateway listens. -/
structure Attempt where
  log : List Log.Record
  result : Except StartFault Config

/-- Starts the gateway. -/
def attempt (lookup : Config.Lookup) (read : String → Except String String) : Attempt :=
  match prepare lookup read with
  | .error f => ⟨[failed f], .error f⟩
  | .ok (c, a) =>
    match Host.bind a with
    | .error f => ⟨[ready, failed (.bind f)], .error (.bind f)⟩
    | .ok () => ⟨[ready, starting], .ok c⟩

/-- The variable that sets which records are shown. -/
def filterVariable : String := "RUST_LOG"

/-- Which records are shown, unless the variable for that ends the program. -/
def filter? (lookup : Config.Lookup) : Option Log.Filter :=
  Log.Filter.ofVariable? (lookup filterVariable)

/-- The exit status of a program that the variable ends. -/
def tornStatus : Nat := 101

/-- What a run gives: the exit status, and the records that are shown. -/
structure Report where
  status : Nat
  log : List Log.Record
  deriving DecidableEq, Repr

/-- The report of a run. A run that starts ends by a signal; without one there is no report. -/
def report? (lookup : Config.Lookup) (read : String → Except String String) (signalled : Bool) :
    Option Report :=
  match filter? lookup with
  | none => some ⟨tornStatus, []⟩
  | some filter =>
    let a := attempt lookup read
    match a.result with
    | .error _ => some ⟨1, a.log.filter filter.shows⟩
    | .ok _ => if signalled then some ⟨0, (a.log ++ stopping).filter filter.shows⟩ else none

end Startup

end PolicyGate
