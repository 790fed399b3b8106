import PolicyGate.Engine.Selection
import PolicyGate.Fault
import PolicyGate.Policy.Lint
import PolicyGate.Policy.Rule

/-!
# Replies

What a caller is told about a request. A reply has one of three shapes: the request was rejected,
its policy was not executed, or it was.
-/

namespace PolicyGate

/-- A remark about a line. Line 0 is the request as a whole. -/
structure Notice where
  line : Nat
  message : String
  deriving DecidableEq, Repr

namespace Notice

def ofDiagnostic (d : Policy.Diagnostic) : Notice := ⟨d.line, d.defect.message⟩

/-- A remark about the request as a whole. -/
def general (message : String) : Notice := ⟨0, message⟩

end Notice

/-- How far a request got. -/
inductive Capability where
  | parse
  | runtimeEval
  deriving DecidableEq, Repr

def Capability.name : Capability → String
  | .parse => "parse"
  | .runtimeEval => "runtime-eval"

structure Reply where
  notices : List Notice
  rules : List Policy.Rule
  actions : List String
  stdout : String
  stderr : String
  engine : EngineTag
  capabilities : List Capability
  requestId : String
  durationMs : Nat

namespace Reply

/-- What every reply says about how policies are validated here. -/
def mode : String := "validator"

/-- There is no compiler. -/
def compiler : String := "not-available"

/-- A request that a fault ended, which is told in the words for callers. -/
def rejected (requestId : String) (durationMs : Nat) (f : Fault) : Reply :=
  ⟨[.general f.clientMessage], [], [], "", "", .none, [], requestId, durationMs⟩

/-- A request whose policy was looked at and not run. -/
def notExecuted (requestId : String) (durationMs : Nat) (notices : List Notice)
    (rules : List Policy.Rule) : Reply :=
  ⟨notices, rules, [], "", "", .none, [.parse], requestId, durationMs⟩

/-- A request whose policy was run. -/
def executed (requestId : String) (durationMs : Nat) (rules : List Policy.Rule)
    (r : EngineResult) : Reply :=
  ⟨[], rules, r.actions, r.stdout, r.stderr, r.engine, [.parse, .runtimeEval], requestId, durationMs⟩

end Reply

/-- A reply and the code of the fault that decided its status, if one did. -/
structure Answer where
  fault : Option FaultCode
  reply : Reply

/-- The HTTP status of an answer. -/
def Answer.status (a : Answer) : Nat := a.fault.elim 200 FaultCode.status

end PolicyGate
