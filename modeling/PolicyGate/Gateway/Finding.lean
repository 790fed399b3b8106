import PolicyGate.Admission.Size
import PolicyGate.Engine.Outcome
import PolicyGate.Policy.Lint
import PolicyGate.Policy.Rule
import PolicyGate.Submission

/-!
# What the examination of a request finds

An admitted body is decoded, its parts are held against their ceilings, and then its policy is
linted and its context checked, in this order. The first thing that is wrong decides. A finding
depends on the body and the ceilings alone.
-/

namespace PolicyGate

/-- What the examination of a body finds. -/
inductive Finding where
  /-- The body cannot be used. -/
  | faulty (fault : Fault)
  /-- The policy breaks its grammar. -/
  | flawed (diagnostics : List Policy.Diagnostic) (rules : List Policy.Rule)
  /-- The policy is clean, but its context is not a JSON text of the right shape. -/
  | badContext (fault : ContextFault) (rules : List Policy.Rule)
  /-- An engine can run the policy. -/
  | sound (input : EngineInput) (rules : List Policy.Rule)

namespace Finding

/-- Checks the sizes of the two texts, a blank context included. -/
def checkSizes (limits : Limits) (s : Submission) : Except Fault Unit :=
  (limits.check .code s.code.utf8ByteSize).bind fun _ =>
    limits.check .context (s.rawContext.getD "").utf8ByteSize

/-- What is wrong with the context, if there is one that is not blank. -/
def contextFault? (s : Submission) : Option ContextFault :=
  s.context.bind fun c =>
    match checkContext c with
    | .ok () => none
    | .error f => some f

/-- Looks at texts that are not too large. -/
def ofTexts (s : Submission) : Finding :=
  let rules := Policy.rules s.code.toList
  match (Policy.lint s.code.toList).diagnostics with
  | d :: ds => .flawed (d :: ds) rules
  | [] =>
    match contextFault? s with
    | some f => .badContext f rules
    | none => .sound ⟨s.code, s.context⟩ rules

def ofSubmission (limits : Limits) (s : Submission) : Finding :=
  match checkSizes limits s with
  | .error f => .faulty f
  | .ok () => ofTexts s

def ofBody (limits : Limits) (body : List UInt8) : Finding :=
  match decodeBody body with
  | .error f => .faulty f
  | .ok s => ofSubmission limits s

end Finding

end PolicyGate
