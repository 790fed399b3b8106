import PolicyGate.Policy.Action
import PolicyGate.Text.Blank

/-!
# What an engine run is given, and what it gives

An engine turns a policy into text, in which it announces actions, and may fail. Every failure but
an exit that the engine's command lists as a policy error is one of the *infrastructure*.
-/

namespace PolicyGate

/-- A policy that can be run, and the context it is run in. -/
structure EngineInput where
  code : String
  context : Option String
  deriving DecidableEq, Repr

namespace EngineInput

/-- The context, unless it is blank. -/
def usableContext (i : EngineInput) : Option String := i.context.filter fun c => !Text.allBlank c

end EngineInput

/-- How an engine run can fail. -/
inductive Failure where
  | workspace (reason : String)
  | spawn (reason : String)
  | timeout
  | outputTooLarge
  | io (reason : String)
  /-- An exit without success, by a signal if there is no code. -/
  | exit (code : Option Int) (policy : Bool)
  deriving DecidableEq, Repr

namespace Failure

def isInfrastructure : Failure → Bool
  | .exit _ policy => !policy
  | _ => true

/-- The short name of a failure. -/
def label : Failure → String
  | .workspace _ => "workspace"
  | .spawn _ => "spawn"
  | .timeout => "timeout"
  | .outputTooLarge => "output_too_large"
  | .io _ => "io"
  | .exit _ true => "policy_error"
  | .exit _ false => "exit"

def message : Failure → String
  | .workspace reason => "workspace setup failed: " ++ reason
  | .spawn reason => "engine spawn failed: " ++ reason
  | .timeout => "engine timed out"
  | .outputTooLarge => "engine output exceeded ceiling"
  | .io reason => "engine io failed: " ++ reason
  | .exit (some code) _ => "engine exited with status " ++ toString code
  | .exit none _ => "engine terminated by signal"

end Failure

/-- The actions announced in a text. -/
def announced (output : String) : List String :=
  (Policy.actions output.toList).map String.ofList

/-- What one engine run gives. -/
structure Outcome where
  stdout : String
  stderr : String
  actions : List String
  failure : Option Failure
  deriving DecidableEq, Repr

namespace Outcome

/-- A run that failed before it wrote anything: its failure is its error text. -/
def failed (failure : Failure) : Outcome := ⟨"", failure.message, [], some failure⟩

/-- A run with output, whose actions are those announced on its standard output. -/
def written (stdout stderr : String) (failure : Option Failure) : Outcome :=
  ⟨stdout, stderr, announced stdout, failure⟩

def isOk (o : Outcome) : Bool := o.failure.isNone

end Outcome

end PolicyGate
