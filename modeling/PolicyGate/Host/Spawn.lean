import PolicyGate.Host.Shell.Run

/-!
# Starting programs

A program is started by its path, or by its name if a directory in which programs are looked for
holds it. A file that is no program of the host has to name what runs it.
-/

namespace PolicyGate

namespace Host

/-- Why a program cannot be started. -/
inductive SpawnFault where
  | path (fault : PathFault)
  | notExecutable
  | notRunnable
  | holdsNul
  | argumentTooLong
  deriving DecidableEq, Repr

def SpawnFault.message : SpawnFault → String
  | .path fault => fault.message
  | .notExecutable => "Permission denied (os error 13)"
  | .notRunnable => "Exec format error (os error 8)"
  | .holdsNul => "nul byte found in provided data"
  | .argumentTooLong => "Argument list too long (os error 7)"

/-- The number of bytes that a single argument must not reach. -/
def argumentLimit : Nat := 131072

def holdsNul (s : String) : Bool := s.toList.contains '\x00'

/-- The process that a program is started in. -/
def start (files : Files) (program : String) : Shell.State :=
  { zero := Raw.ofText program, positional := [], files, vars := Shell.State.standardVariables }

/-- The program at a path. -/
def programAt (s : Shell.State) (path : Raw) : Except SpawnFault Shell.Program :=
  match s.reach path with
  | .error fault => .error (.path fault)
  | .ok r =>
    if !r.node.isFile || !r.node.isExecutable then .error .notExecutable
    else
      match Shell.programAt s path with
      | .ok p => if r.node.isRunnable then .ok p else .error .notRunnable
      | .error .denied => .error .notExecutable
      | .error _ => .error (.path .notFound)

/-- Looks a program up. -/
def lookUp (s : Shell.State) (program : String) : Except SpawnFault Shell.Program :=
  let name := Raw.ofText program
  if program.toList.contains '/' then programAt s name
  else if nameLimit < program.utf8ByteSize then .error (.path .nameTooLong)
  else if program.isEmpty then .error (.path .notFound)
  else
    let tried := (Shell.searchPath s).map fun dir => programAt s (Tool.inside dir name)
    match tried.find? fun t => t.toOption.isSome with
    | some t => t
    | none =>
      let denied := tried.any fun t =>
        match t with
        | .error .notExecutable => true
        | _ => false
      .error (if denied then .notExecutable else .path .notFound)

/-- Starts a program. -/
def spawn (files : Files) (program : String) (args : List String) :
    Except SpawnFault Behaviour :=
  if holdsNul program || args.any holdsNul then .error .holdsNul
  else
    let s := start files program
    match lookUp s program with
    | .error e => .error e
    | .ok p =>
      if args.any fun a => argumentLimit ≤ a.utf8ByteSize then .error .argumentTooLong
      else
        .ok (Shell.runTool Shell.depthLimit s "" s.zero p (args.map Raw.ofText)).behaviour

end Host

end PolicyGate
