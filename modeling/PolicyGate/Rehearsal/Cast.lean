import PolicyGate.Engine.Process
import PolicyGate.Rehearsal.Script

/-!
# The engines of a rehearsal

Either engine is a script or a process. The calls of scripted engines are kept in a log.
-/

namespace PolicyGate

namespace Rehearsal

/-- A call of a scripted engine. -/
structure Call where
  role : EngineRole
  input : EngineInput
  deriving DecidableEq, Repr

inductive Player where
  | script (s : Script)
  /-- A command with its deadline and ceiling. -/
  | process (c : Command) (timeoutMs maxOutput : Nat)
  deriving DecidableEq, Repr

structure Cast where
  primary : Player
  secondary : Option Player
  /-- The calls of scripted engines, oldest first. -/
  log : List Call
  deriving DecidableEq, Repr

namespace Cast

/-- The engines of a configuration. -/
def ofEngines (e : Config.Engines) : Cast :=
  ⟨.process e.primary e.timeoutMs e.maxOutput,
    e.secondary.map fun c => .process c e.timeoutMs e.maxOutput, []⟩

def ofScripts (primary : Script) (secondary : Option Script) : Cast :=
  ⟨.script primary, secondary.map .script, []⟩

def player? (c : Cast) : EngineRole → Option Player
  | .primary => some c.primary
  | .secondary => c.secondary

def setPlayer (c : Cast) (p : Player) : EngineRole → Cast
  | .primary => { c with primary := p }
  | .secondary => { c with secondary := some p }

/-- Starts a run of an engine for a request. Its ending is given if it comes at once. -/
def call (c : Cast) (number : Nat) (role : EngineRole) (input : EngineInput) : Cast × Option Ending :=
  match c.player? role with
  | none => (c, none)
  | some (.process command timeoutMs maxOutput) =>
    (c, some (.outcome (command.run timeoutMs maxOutput input)))
  | some (.script s) =>
    let (s, ending) := s.call number
    ({ c.setPlayer (.script s) role with log := c.log ++ [⟨role, input⟩] }, ending)

/-- Gives tickets to an engine. The runs that end by them are given. -/
def release (c : Cast) (role : EngineRole) (tickets : Nat) : Cast × List (Nat × Ending) :=
  match c.player? role with
  | some (.script s) =>
    let (s, ended) := s.release tickets
    (c.setPlayer (.script s) role, ended)
  | _ => (c, [])

/-- The outcome of a run that comes at once. -/
def outcome? (c : Cast) (role : EngineRole) (input : EngineInput) : Cast × Option Outcome :=
  match c.call 0 role input with
  | (c, some (.outcome o)) => (c, some o)
  | (c, _) => (c, none)

/-- Runs a policy without a gateway around, as long as every run ends at once. -/
def run (c : Cast) (fallbackDisabled : Bool) (input : EngineInput) : Cast × Option EngineResult :=
  match c.outcome? .primary input with
  | (c, none) => (c, none)
  | (c, some o) =>
    match Verdict.ofPrimary (canFallBack c.secondary.isSome fallbackDisabled) o with
    | .surfaced r => (c, some r)
    | .fallBack =>
      let (c, o) := c.outcome? .secondary input
      (c, o.map fun o => .ofOutcome o .secondary)

/-- Forgets the log. -/
def clearLog (c : Cast) : Cast := { c with log := [] }

end Cast

end Rehearsal

end PolicyGate
