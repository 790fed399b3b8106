import PolicyGate.Host.Shell.Builtin
import PolicyGate.Host.Shell.Launch

/-!
# Finding programs

A command's name leads to a program of the host or to a file that a program runs. A name with a slash
is a path; any other is looked for in the directories that the variable `PATH` lists.
-/

namespace PolicyGate

namespace Host.Shell

/-- Why a program cannot be run. -/
inductive Missing where
  | absent
  | denied
  | fault (f : PathFault)
  deriving DecidableEq, Repr

def Missing.reason : Missing → Raw
  | .absent => Host.reason .notFound
  | .denied => "Permission denied"
  | .fault f => Host.reason f

/-- The status of a run that another program could not start. -/
def Missing.status : Missing → Nat
  | .denied => 126
  | _ => 127

/-- A program that has been found: the path that leads to it, and what is there. -/
structure Program where
  path : Raw
  node : Node

/-- What runs a program. -/
inductive Runner where
  /-- The host, under a name. -/
  | host (name : String)
  /-- Another program, with an argument in front of the path. -/
  | interpreter (path : Raw) (argument : Option Raw)

/-- The first line of a file tells what runs it, if it starts with a mark. -/
def runnerOf (node : Node) : Runner :=
  match node.content with
  | .program name => .host name
  | _ =>
    let line := (Raw.ofBytes (node.bytes.takeWhile (· != 0x0A))).toList
    match line with
    | '#' :: '!' :: rest =>
      let isBlank (c : Char) : Bool := c == ' ' || c == '\t'
      let words := ((rest.dropWhile isBlank).reverse.dropWhile isBlank).reverse
      let path := words.takeWhile fun c => !isBlank c
      let argument := (words.drop path.length).dropWhile isBlank
      .interpreter (String.ofList path)
        (if argument.isEmpty then none else some (String.ofList argument))
    | _ => .interpreter "/bin/sh" none

/-- The program at a path. -/
def programAt (s : State) (path : Raw) : Except Missing Program :=
  match s.reach path with
  | .error .notFound => .error .absent
  | .error f => .error (.fault f)
  | .ok r =>
    if !r.node.isFile || !r.node.isExecutable then .error .denied
    else
      match runnerOf r.node with
      | .host _ => .ok ⟨path, r.node⟩
      | .interpreter i _ =>
        match s.reach i with
        | .ok j => if j.node.isFile && j.node.isExecutable then .ok ⟨path, r.node⟩ else .error .denied
        | .error _ => .error .absent

/-- The directories in which programs are looked for. -/
def searchPath (s : State) : List Raw :=
  match s.value? "PATH" with
  | some path => path.splitOn ":"
  | none => []

/-- The program that a name leads to. -/
def program? (s : State) (name : Raw) : Except Missing Program :=
  if name.isEmpty then .error .absent
  else if name.toList.contains '/' then programAt s name
  else
    let tried := (searchPath s).map fun dir => programAt s (if dir.isEmpty then name else Tool.inside dir name)
    match tried.find? fun t => t.toOption.isSome with
    | some t => t
    | none =>
      let denied := tried.any fun t =>
        match t with
        | .error .denied => true
        | _ => false
      .error (if denied then .denied else .absent)

/-- Complains about a command that cannot be run, given what comes before its name. -/
def notRun (s : State) (lead name : Raw) (why : Missing) : State :=
  let what : Raw := match why with
    | .absent => "not found"
    | why => why.reason
  let status := if name.toList.contains '/' then why.status else 127
  if name.isEmpty then s.complain (lead ++ name ++ ": Permission denied") 127
  else s.complain (lead ++ name ++ ": " ++ what) status

/-- Remembers where a name has led to. -/
def track (s : State) (name : Raw) (p : Program) : State :=
  if name.toList.contains '/' || s.tracked.any (·.1 == name) then s
  else { s with tracked := s.tracked ++ [(name, p.path)] }

/-- What a name is, in the words of `type`, or where it leads, in those of `command -v`. -/
def described (s : State) (brief : Bool) (name : Raw) : Option Raw × State :=
  let told (plain long : Raw) : Option Raw × State := (some ((if brief then plain else long) ++ "\n"), s)
  if Script.reservedWords.contains name then told name (name ++ " is a shell keyword")
  else
    match s.aliases.lookup name with
    | some text =>
      told ("alias " ++ name ++ "=" ++ State.quotedText text) (name ++ " is an alias for " ++ text)
    | none =>
      if State.isSpecial name then told name (name ++ " is a special shell builtin")
      else if (s.functions.lookup name).isSome then told name (name ++ " is a shell function")
      else if State.isBuiltin name then told name (name ++ " is a shell builtin")
      else
        match program? s name with
        | .error _ => (if brief then none else some (name ++ ": not found\n"), s)
        | .ok p =>
          let known := s.tracked.any (·.1 == name)
          (some (if brief then p.path ++ "\n"
            else name ++ (if known then " is a tracked alias for " else " is ") ++ p.path ++ "\n"),
            track s name p)

/-- Whether a name leads anywhere. -/
def isKnown (s : State) (name : Raw) : Bool :=
  Script.reservedWords.contains name || (s.aliases.lookup name).isSome || State.isBuiltin name ||
    (s.functions.lookup name).isSome || (program? s name).toOption.isSome

/-- Looks names up so that they are found sooner. -/
def hash (s : State) (args : List Raw) : State :=
  match args with
  | [] => (s.say (String.join (s.tracked.map fun t => t.2 ++ "\n"))).withStatus 0
  | _ =>
    match args.find? fun a => a.startsWith "-" && a != "-r" && a != "--" with
    | some a => s.complain ("hash: Illegal option " ++ (a.take 2).toString) 2
    | none =>
      args.foldl (fun s a =>
        if a == "-r" then { s with tracked := [] }
        else if a == "--" then s
        else
          match program? s a with
          | .ok p => track s a p
          | .error _ =>
            if State.isBuiltin a || (s.functions.lookup a).isSome then s
            else s.complain ("hash: " ++ a ++ ": not found") 1) (s.withStatus 0)

/-! ## Complaints of programs -/

/-- The complaints of a tool, in which the name it was called by stands for its own. -/
def calledBy (own name : Raw) (r : Ran) : Ran :=
  if own == name then r
  else
    let renamed (bytes : List UInt8) : List UInt8 :=
      let lines := (Raw.ofBytes bytes).splitOn "\n"
      Raw.toBytes ("\n".intercalate (lines.map fun l =>
        let l := if l.startsWith (own ++ ": ") then name ++ (l.drop own.length).toString else l
        l.replace ("Try '" ++ own ++ " --help'") ("Try '" ++ name ++ " --help'")))
    { r with writes := r.writes.map fun w => if w.1 then (true, renamed w.2) else w }

/-! ## Channels -/

/-- The tools that do not read the channels that they are given. -/
def unreading : List String :=
  ["ls", "rm", "stat", "mkfifo", "mknod", "chmod", "chown", "chgrp", "touch", "mv", "ln", "basename",
    "dirname", "realpath", "readlink", "echo", "printf", "find", "du", "unlink", "mkdir", "rmdir",
    "mktemp", "link", "install", "seq", "expr", "sleep", "date", "true", "false"]

/-- The channels that a tool reads, by their nodes. -/
def channelsIn (s : State) (tool : String) (args : List Raw) : List Nat :=
  if unreading.contains tool || !s.files.nodes.any fun n => n.2.content == .channel then []
  else
    args.filterMap fun a =>
      match s.reach a with
      | .ok r => if r.node.content == .channel then some r.number else none
      | .error _ => none

/-! ## Signals that come to all -/

/-- What is left of a run that a signal has ended. -/
def cutAt (before after : State) : State :=
  match before.cutOffs.find? fun c => before.clock ≤ c.1 && after.finished.all (c.1 < ·) with
  | none => after
  | some (moment, signal) =>
    let isFlood := match after.halt with
      | some (.repeats ..) => true
      | _ => false
    if isFlood || signal = 0 then after
    else
      { after with
        clock := moment, halt := some (.killed signal), status := 128 + signal
        emitted := after.emitted.filter fun e => e.time ≤ moment || e.owner != after.pid }

end Host.Shell

end PolicyGate
