import PolicyGate.Config.Basic
import PolicyGate.Engine.Selection
import PolicyGate.Host.Spawn

/-!
# Engines as processes

Each run has a workspace of its own, which holds the policy, and the context if there is one and the
engine takes one. The engine is started with its own arguments, the path of the policy and, where
there is one, the flag and the path of the context; then it is watched.
-/

namespace PolicyGate

namespace Command

/-- The context that a run of the command is given. -/
def contextOf (c : Command) (i : EngineInput) : Option (String × String) :=
  match c.contextFlag, i.usableContext with
  | some flag, some context => some (flag, context)
  | _, _ => none

/-- The arguments of a run, given the directory of its workspace. -/
def arguments (c : Command) (dir : String) (i : EngineInput) : List String :=
  c.args ++ (dir ++ "/input.omni") ::
    match c.contextOf i with
    | some (flag, _) => [flag, dir ++ "/context.json"]
    | none => []

/-- The names on the way to the workspace. -/
def workspace : List String := ["tmp", "omnilint-000000"]

/-- The files of a host with the workspace of a run. -/
def files (c : Command) (i : EngineInput) : Host.Files :=
  let put (files : Host.Files) (name text : String) : Host.Files :=
    files.create (workspace ++ [name]) (.file (Utf8.encode text)) 0o644
  let own := put (Host.standardFiles.create workspace .directory 0o700) "input.omni" i.code
  let all := match c.contextOf i with
    | some (_, text) => put own "context.json" text
    | none => own
  { all with now := 0 }

/-- Runs the command and watches it. -/
def run (c : Command) (timeoutMs maxOutput : Nat) (i : EngineInput) : Outcome :=
  let dir := "/" ++ "/".intercalate workspace
  match Host.spawn (c.files i) c.program (c.arguments dir i) with
  | .error e => .failed (.spawn e.message)
  | .ok b =>
    ((Watch.start maxOutput).run (b.events timeoutMs maxOutput)).outcome c.policyErrorCodes

end Command

namespace Config.Engines

/-- The outcome of one of the two engines. -/
def outcome (e : Config.Engines) (c : Command) (i : EngineInput) : Outcome :=
  c.run e.timeoutMs e.maxOutput i

/-- Runs a policy on the primary engine, and on the secondary if it has to stand in. -/
def run (e : Config.Engines) (i : EngineInput) : EngineResult :=
  let primary := e.outcome e.primary i
  select e.fallbackDisabled primary (e.secondary.map fun c => e.outcome c i)

end Config.Engines

end PolicyGate
