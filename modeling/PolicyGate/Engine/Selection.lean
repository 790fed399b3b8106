import PolicyGate.Engine.Outcome

/-!
# Which engine's outcome is surfaced

The primary engine runs first. If it fails by its infrastructure, a secondary engine is configured
and falling back is allowed, the secondary runs once and its outcome is surfaced, whatever it is.
-/

namespace PolicyGate

/-- The engine whose outcome is surfaced. -/
inductive EngineTag where
  | primary
  | secondary
  /-- The primary failed and nothing could stand in for it. -/
  | none
  deriving DecidableEq, Repr

def EngineTag.name : EngineTag → String
  | .primary => "primary"
  | .secondary => "secondary"
  | .none => "none"

/-- The two places an engine can have. -/
inductive EngineRole where
  | primary
  | secondary
  deriving DecidableEq, Repr

def EngineRole.name : EngineRole → String
  | .primary => "primary"
  | .secondary => "secondary"

/-- What a validation shows of the engines. -/
structure EngineResult where
  stdout : String
  stderr : String
  actions : List String
  engine : EngineTag
  error : Bool
  deriving DecidableEq, Repr

def EngineResult.ofOutcome (o : Outcome) (engine : EngineTag) : EngineResult :=
  ⟨o.stdout, o.stderr, o.actions, engine, !o.isOk⟩

/-- What is known once the primary engine has run. -/
inductive Verdict where
  /-- The result stands. -/
  | surfaced (result : EngineResult)
  /-- The secondary engine has to run. -/
  | fallBack
  deriving DecidableEq, Repr

/-- Decides after the primary engine's run, given whether a secondary may stand in. -/
def Verdict.ofPrimary (canFallBack : Bool) (o : Outcome) : Verdict :=
  match o.failure with
  | none => .surfaced (.ofOutcome o .primary)
  | some failure =>
    if !failure.isInfrastructure then .surfaced (.ofOutcome o .primary)
    else if canFallBack then .fallBack
    else .surfaced (.ofOutcome o .none)

/-- Whether a secondary engine may stand in for the primary. -/
def canFallBack (hasSecondary disabled : Bool) : Bool := hasSecondary && !disabled

/-- Surfaces a result from the primary engine's outcome and that of the secondary, if there is
one. -/
def select (disabled : Bool) (primary : Outcome) (secondary : Option Outcome) : EngineResult :=
  match secondary, Verdict.ofPrimary (canFallBack secondary.isSome disabled) primary with
  | _, .surfaced result => result
  | some o, .fallBack => .ofOutcome o .secondary
  | none, .fallBack => .ofOutcome primary .none

end PolicyGate
