import PolicyGate.Gateway.Accounts
import PolicyGate.Gateway.Finding

/-!
# Steps of the gateway

Requests arrive, engines end, callers leave, and the operator drains the gateway or clears its
records. These are the *events*, in any order. To an event the gateway reacts at most once: it
answers a request or calls an engine for one.

A request passes these stages, and the first that it fails answers it: its body is read, the limiter
admits its client, a slot is free, and the body is found sound. Then it becomes a task. The slot is
given back when the request is answered or, if it became a task, when the task's engines have ended.
-/

namespace PolicyGate

/-- A request to validate. -/
structure Arrival where
  requestId : String
  client : String
  upload : Upload

/-- What can happen. -/
inductive Event where
  | arrived (a : Arrival)
  /-- The engine that runs for a request has ended. -/
  | ended (number : Nat) (e : Ending)
  /-- The caller of a request does not wait for its answer any more. -/
  | left (number : Nat)
  | drain
  | resetLimiter
  | resetTelemetry

/-- What the gateway does. -/
inductive Reaction where
  | answered (number : Nat) (a : Answer)
  | called (number : Nat) (role : EngineRole) (input : EngineInput)

/-! ## Tasks -/

/-- What is left to do for a task whose engine has ended. -/
inductive Remainder where
  /-- The secondary engine has to run. -/
  | secondary
  | surface (r : EngineResult)
  /-- Nothing can be surfaced. -/
  | crash
  deriving DecidableEq, Repr

/-- What is left to do, given the engine that has ended. -/
def Remainder.after (canFallBack : Bool) (role : EngineRole) : Ending → Remainder
  | .crashed => .crash
  | .outcome o =>
    match role with
    | .secondary => .surface (.ofOutcome o .secondary)
    | .primary =>
      match Verdict.ofPrimary canFallBack o with
      | .surfaced r => .surface r
      | .fallBack => .secondary

namespace Gateway

/-! ## Answering -/

/-- Answers a request with a fault. -/
def refuse (g : Gateway) (f : Fault) (v : Visit) (now : Moment) : Gateway × Option Reaction :=
  (g.recordFault f v now,
    some (.answered v.number
      ⟨some f.code, .rejected v.requestId (wholeMs (now - v.arrivedAt)) f⟩))

/-- Answers a request whose policy is not run. -/
def decline (g : Gateway) (c : Conclusion) (notices : List Notice) (rules : List Policy.Rule)
    (v : Visit) (now : Moment) : Gateway × Option Reaction :=
  (g.recordParseError c v now,
    some (.answered v.number
      ⟨none, .notExecuted v.requestId (wholeMs (now - v.arrivedAt)) notices rules⟩))

/-- Answers a request whose policy was run. -/
def surface (g : Gateway) (r : EngineResult) (rules : List Policy.Rule) (v : Visit) (now : Moment) :
    Gateway × Option Reaction :=
  (g.recordRun r v now,
    some (.answered v.number
      ⟨none, .executed v.requestId (wholeMs (now - v.arrivedAt)) rules r⟩))

/-! ## Requests -/

/-- Gives back a slot. -/
def release (g : Gateway) : Gateway := { g with slots := g.slots.release }

/-- Calls the primary engine for a request that holds a slot. -/
def launch (g : Gateway) (input : EngineInput) (rules : List Policy.Rule) (v : Visit) :
    Gateway × Option Reaction :=
  ({ g with tasks := g.tasks ++ [⟨v, input, rules, .primary, true⟩] },
    some (.called v.number .primary input))

/-- Goes on with a request that holds a slot. -/
def examined (g : Gateway) (v : Visit) (now : Moment) : Finding → Gateway × Option Reaction
  | .faulty f => g.release.refuse f v now
  | .flawed diagnostics rules =>
    g.release.decline .lintErrors (diagnostics.map .ofDiagnostic) rules v now
  | .badContext f rules =>
    g.release.decline .invalidContext [.general (Fault.invalidContext f.message).clientMessage] rules
      v now
  | .sound input rules => g.launch input rules v

/-- Goes on with a request that the limiter has admitted. -/
def admitted (g : Gateway) (body : List UInt8) (v : Visit) (now : Moment) :
    Gateway × Option Reaction :=
  match g.slots.acquire? with
  | none => g.refuse .busy v now
  | some slots => { g with slots := slots }.examined v now (.ofBody g.config.limits body)

/-- Goes on with a request whose body has been read. -/
def received (g : Gateway) (client : String) (body : List UInt8) (v : Visit) (now : Moment) :
    Gateway × Option Reaction :=
  match g.limiter.accept client now with
  | (true, limiter) => { g with limiter := limiter }.admitted body v now
  | (false, limiter) => { g with limiter := limiter }.refuse .rateLimited v now

/-- Takes in a request under the next number. -/
def arrive (g : Gateway) (a : Arrival) (now : Moment) : Gateway × Option Reaction :=
  let v : Visit := ⟨g.arrived, a.requestId, now⟩
  let g := { g with arrived := g.arrived + 1 }
  match a.upload.read g.config.limits with
  | .error f => g.refuse f v now
  | .ok body => g.received a.client body v now

/-! ## Engines -/

/-- Ends a task: its slot is given back. -/
def finish (g : Gateway) (t : Task) : Gateway :=
  { g with tasks := g.tasks.filter fun u => u.visit.number ≠ t.visit.number }.release

/-- Changes the task of a request. -/
def update (g : Gateway) (number : Nat) (f : Task → Task) : Gateway :=
  { g with tasks := g.tasks.map fun t => if t.visit.number = number then f t else t }

/-- Goes on with a task whose engine has ended. A task whose caller has left is not recorded. -/
def resume (g : Gateway) (t : Task) (now : Moment) : Remainder → Gateway × Option Reaction
  | .secondary =>
    (g.update t.visit.number fun t => { t with role := .secondary },
      some (.called t.visit.number .secondary t.input))
  | .surface r =>
    if t.awaited then (g.finish t).surface r t.rules t.visit now else (g.finish t, none)
  | .crash =>
    if t.awaited then (g.finish t).refuse (.internal "engine task failed") t.visit now
    else (g.finish t, none)

/-- Takes in the end of an engine. -/
def ended (g : Gateway) (number : Nat) (e : Ending) (now : Moment) : Gateway × Option Reaction :=
  match g.task? number with
  | none => (g, none)
  | some t => g.resume t now (.after g.canFallBack t.role e)

/-! ## The whole -/

/-- Takes in an event. -/
def step (g : Gateway) (now : Moment) : Event → Gateway × Option Reaction
  | .arrived a => g.arrive a now
  | .ended number e => g.ended number e now
  | .left number => (g.update number fun t => { t with awaited := false }, none)
  | .drain => ({ g with metrics.draining := true }, none)
  | .resetLimiter => ({ g with limiter := g.limiter.reset }, none)
  | .resetTelemetry => ({ g with telemetry := .empty }, none)

/-- Takes in events, each at its moment, and collects the reactions. -/
def run (g : Gateway) : List (Moment × Event) → Gateway × List Reaction
  | [] => (g, [])
  | (now, e) :: es =>
    let (g, reaction) := g.step now e
    let (g, reactions) := run g es
    (g, reaction.toList ++ reactions)

end Gateway

end PolicyGate
