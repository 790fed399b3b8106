import PolicyGate.Host.Shell.Field
import PolicyGate.Host.Shell.Setting
import PolicyGate.Host.Tool.Catalog

/-!
# Commands that a script runs itself

They change the script's own state: its variables, arguments, options, traps and jobs. Here are those
that run no other command.
-/

namespace PolicyGate

namespace Host.Shell

namespace State

/-! ## Control -/

def exitWith (s : State) (args : List Raw) : State :=
  match args with
  | [] => s.stop (.exit s.status)
  | a :: _ =>
    match number? a with
    | some n => s.stop (.exit (n % 256))
    | none => s.refuseNumber "exit" a

def returnWith (s : State) (args : List Raw) : State :=
  match args with
  | [] => s.stop .returned
  | a :: _ =>
    match number? a with
    | some n => (s.withStatus n).stop .returned
    | none => s.refuseNumber "return" a

/-- Leaves loops, or goes on with one. -/
def leaveLoops (s : State) (command : Raw) (halt : Nat → Halt) (args : List Raw) : State :=
  let levels := args.head?.map number?
  match levels with
  | some none | some (some 0) => s.refuseNumber command (args.head?.getD "")
  | _ =>
    let n := min ((levels.getD (some 1)).getD 1) s.loops
    if n = 0 then s.withStatus 0 else (s.withStatus 0).stop (halt n)

def shift (s : State) (args : List Raw) : State :=
  match args.head?.map number? with
  | some none => s.refuseNumber "shift" (args.head?.getD "")
  | n =>
    let n := (n.getD (some 1)).getD 1
    if n ≤ s.positional.length then { s with positional := s.positional.drop n, status := 0 }
    else s.abort "shift: can't shift that many"

/-! ## Signals -/

/-- What a signal does to the script, which may be prepared for it. What is to be run is told. -/
def receive (s : State) (signal : Nat) : State × Option Raw :=
  match s.traps.lookup signal with
  | some action =>
    if signal = 9 || signal = 19 then (s.stop (.killed signal), none)
    else (s, if action.isEmpty then none else some action)
  | none =>
    if [0, 17, 18, 23, 28].contains signal then (s, none)
    else if [19, 20, 21, 22].contains signal then (s.stop .hangs, none)
    else (s.stop (.killed signal), none)

/-- Ends a job by a signal, which takes a moment. -/
def killJob (s : State) (j : Job) (signal : Nat) : State :=
  let isOver := j.ends.any (· ≤ s.clock)
  if isOver || signal = 0 || j.isKilled then s
  else
    { s with
      jobs := s.jobs.map fun k =>
        if k.pid = j.pid then { k with ends := some (s.clock + 1), status := 128 + signal, isKilled := true }
        else k
      emitted := s.emitted.filter fun e => !(e.owner = j.pid && s.clock < e.time) }

/-- The job that a word with a percent sign stands for. -/
def jobNamed? (s : State) (word : Raw) : Option Job :=
  let mine := (s.jobs.filter fun j => j.parent = s.pid).reverse
  match (word.drop 1).toString with
  | "" | "%" | "+" => mine.getLast?
  | "-" => mine.dropLast.getLast?
  | n => (number? n).bind fun n => if n = 0 then none else mine[n - 1]?

/-- Sends a signal to processes. -/
def sendSignal (s : State) (signal : Nat) : List Raw → State
  | [] => s
  | p :: ps =>
    let (negative, digits) := match p.toList with
      | '-' :: cs => (true, String.ofList cs)
      | _ => (false, p)
    match number? digits with
    | none =>
      if p.startsWith "%" then
        if (jobNamed? s p).isSome then
          { sendSignal (s.complain "kill: No such process\n" 1) signal ps with status := 1 }
        else s.complain ("kill: No such job: " ++ p) 2
      else s.complain ("kill: Illegal number: " ++ p) 2
    | some pid =>
      if s.selves.contains pid || pid = 0 then
        let target := if pid = 0 then s.self else pid
        sendSignal (if signal = 0 then s.withStatus 0
          else { s with signals := s.signals ++ [(s.clock, target, signal)], status := 0 }) signal ps
      else
        match s.jobs.find? fun j => j.pid = pid && !negative && !s.isGone j with
        | some j => sendSignal ((s.killJob j signal).withStatus 0) signal ps
        | none =>
          let t := s.complain "kill: No such process\n" 1
          { sendSignal t signal ps with status := 1 }

def kill (s : State) (args : List Raw) : State :=
  let usage : Raw := "kill: Usage: kill [-s sigspec | -signum | -sigspec] [pid | job]... or\n" ++
    "kill -l [exitstatus]"
  let send (spec : Raw) (complaint : Raw) (pids : List Raw) : State :=
    match signalNumber? spec with
    | none => s.complain ("kill: " ++ complaint) 2
    | some signal =>
      if pids.isEmpty then s.complain usage 2 else sendSignal s signal pids
  match args with
  | [] => s.complain usage 2
  | "-s" :: name :: rest => send name ("invalid signal number or name: " ++ name) rest
  | ["-l"] => (s.say (String.join ("0\n" :: signalNames.map (· ++ "\n")))).withStatus 0
  | "-l" :: a :: _ =>
    match number? a with
    | none => s.complain ("kill: Illegal number: " ++ a) 2
    | some n =>
      match signalNames[(if 128 < n then n - 128 else n) - 1]? with
      | some name => (s.say (name ++ "\n")).withStatus 0
      | none => s.complain ("kill: invalid signal number or exit status: " ++ a) 2
  | "--" :: rest => send "TERM" "" rest
  | a :: rest =>
    match a.toList with
    | '-' :: cs =>
      let spec := String.ofList cs
      send spec ("Illegal option -" ++ String.ofList (cs.take 1)) rest
    | _ => send "TERM" "" (a :: rest)

def signalName (n : Nat) : Raw := if n = 0 then "EXIT" else (signalNames[n - 1]?).getD (toString n)

/-- Says what is to be run on signals. -/
def trap (s : State) (args : List Raw) : State :=
  let args := if args.head? == some "--" then args.tail else args
  let set (action : Option Raw) (specs : List Raw) : State :=
    let s := s.withStatus 0
    specs.foldl (fun s spec =>
      match signalNumber? spec with
      | none => (s.complainPlain ("trap: " ++ spec ++ ": bad trap")).withStatus 1
      | some n =>
        let others := s.traps.filter (·.1 != n)
        match action with
        | some a => { s with traps := (n, a) :: others }
        | none => { s with traps := others }) s
  match args with
  | [] =>
    let sorted := s.traps.mergeSort fun a b => a.1 ≤ b.1
    (s.say (String.join (sorted.map fun (n, a) =>
      "trap -- " ++ quotedText a ++ " " ++ signalName n ++ "\n"))).withStatus 0
  | [spec] => set none [spec]
  | action :: specs =>
    if action == "-" then set none specs
    else if Tool.isNumeral action then set none (action :: specs)
    else set (some action) specs

/-- Waits for jobs. -/
def wait (s : State) (args : List Raw) : State :=
  match args with
  | [] =>
    let mine := s.jobs.filter fun j => j.parent = s.pid
    ((mine.foldl (fun s j => if s.running then s.await j.ends else s) s).withStatus 0).collect
  | pids =>
    pids.foldl (fun s p =>
      let named := if p.startsWith "%" then (jobNamed? s p).map (·.pid) else number? p
      match named with
      | none =>
        s.complain ("wait: " ++ (if p.startsWith "%" then "No such job: " else "Illegal number: ") ++ p) 2
      | some pid =>
        match s.jobs.find? fun j => j.pid = pid && j.parent = s.pid with
        | none => s.withStatus 127
        | some j =>
          let t := (s.await j.ends).collect
          let t := { t with
            jobs := t.jobs.map fun (k : Job) => if k.pid = pid then { k with known := true } else k }
          let t := if j.isKilled && !s.isGone j && t.running
            then t.tellKilled (j.status - 128) else t
          t.withStatus j.status) s

/-! ## Input -/

def isSeparator (separators : List Char) (c : Char × Bool) : Bool := !c.2 && separators.contains c.1

def isGap (separators : List Char) (c : Char × Bool) : Bool :=
  isSeparator separators c && Fields.isBlank c.1

/-- The first field of a line and what stands behind its separators. -/
def firstField (separators : List Char) (cs : Pattern.Marked) : Pattern.Marked × Pattern.Marked :=
  let field := cs.takeWhile fun c => !isSeparator separators c
  let rest := (cs.drop field.length).dropWhile (isGap separators)
  match rest with
  | c :: more =>
    if isSeparator separators c then (field, more.dropWhile (isGap separators)) else (field, c :: more)
  | [] => (field, [])

/-- The values of some variables that a line is read into. The last takes what is left; of a single
field it takes no separator, and of more fields no blanks at the end. -/
def lineValues (separators : List Char) : Nat → Pattern.Marked → List Raw
  | 0, _ => []
  | 1, cs =>
    let (field, rest) := firstField separators cs
    let kept := (cs.reverse.dropWhile (isGap separators)).reverse
    [plainText (if rest.isEmpty then field else kept)]
  | n + 1, cs =>
    let (field, rest) := firstField separators cs
    plainText field :: lineValues separators n rest

/-- Takes the backslashes out of a line, and marks what they stand before. A line that ends in one goes
on. -/
def unmarked : List Char → Pattern.Marked × Bool
  | [] => ([], false)
  | ['\\'] => ([], true)
  | '\\' :: c :: cs =>
    let (more, open_) := unmarked cs
    ((c, true) :: more, open_)
  | c :: cs =>
    let (more, open_) := unmarked cs
    ((c, false) :: more, open_)

/-- Reads a line, which may go on over further lines: its characters, and whether it has an end. -/
def takeLine (keeps : Bool) (number : Nat) : Nat → State → Pattern.Marked × Bool × State
  | 0, s => ([], false, s.stop .hangs)
  | fuel + 1, s =>
    match s.inputs.lookup number with
    | none => ([], false, s)
    | some i =>
      let (bytes, rest) := i.feed.line
      let s := (s.await (i.feed.readyAt (max 1 bytes.length))).setFeed number rest
      let ended := bytes.getLast? == some 0x0A
      let cs := ((Raw.ofBytes (if ended then bytes.dropLast else bytes)).toList).filter (· != '\x00')
      if keeps then (cs.map (·, false), ended, s)
      else
        let (marked, open_) := unmarked cs
        if open_ && ended then
          let (more, ended, s) := takeLine keeps number fuel s
          (marked ++ more, ended, s)
        else (marked, ended, s)

def readInto (s : State) (keeps : Bool) (names : List Raw) : State :=
  match names.find? fun n => !isName n with
  | some n => s.complain ("read: " ++ n ++ ": bad variable name") 2
  | none =>
    if names.isEmpty then s.complain "read: arg count" 2
    else
      let (line, ended, s) := match s.input? 0 with
        | some (n, _) => takeLine keeps n 10000 s
        | none => ([], false, s)
      if !s.running then s
      else
        let separators := s.separators.toList
        let values := lineValues separators names.length (line.dropWhile (isGap separators))
        ((names.zip values).foldl (fun s (n, v) => s.setVariable n v) s).withStatus
          (if ended then 0 else 1)

def read (s : State) : List Raw → State := go s false
where
  go (s : State) (keeps : Bool) : List Raw → State
    | "--" :: rest => s.readInto keeps rest
    | "-p" :: _ :: rest => go s keeps rest
    | a :: rest =>
      match a.toList with
      | '-' :: c :: cs =>
        match (c :: cs).find? (· != 'r') with
        | some bad => s.complain ("read: Illegal option -" ++ bad.toString) 2
        | none => go s true rest
      | _ => s.readInto keeps (a :: rest)
    | [] => s.readInto keeps []

/-! ## Variables -/

/-- The name and the value of a word that assigns. -/
def splitAssignment (r : Raw) : Raw × Option Raw :=
  let name := r.toList.takeWhile (· != '=')
  (String.ofList name,
    if name.length < r.length then some (String.ofList (r.toList.drop (name.length + 1))) else none)

/-- Marks variables and gives them values. -/
def declare (s : State) (command : Raw) (mark : Variable → Variable) (args : List Raw) : State :=
  let args := args.filter fun a => a != "-p" && a != "--"
  if args.isEmpty then
    let shown := s.vars.filter fun v =>
      if command == "readonly" then v.2.readOnly else v.2.exported
    let sorted := shown.mergeSort fun a b => a.1 ≤ b.1
    (s.say (String.join (sorted.map fun (n, v) =>
      command ++ " " ++ n ++ (match v.value with
        | some r => "=" ++ quotedText r
        | none => "") ++ "\n"))).withStatus 0
  else
    (args.foldl (fun s a =>
      if !s.running then s
      else
        let (name, value) := splitAssignment a
        if !isName name then s.abort (command ++ ": " ++ name ++ ": bad variable name")
        else
          let s := match value with
            | some v => s.setVariable name v
            | none => s
          let old := (s.stored? name).getD { value := none }
          if s.running then s.putVariable name (mark old) else s) (s.withStatus 0))

/-- Makes variables those of the function that runs. -/
def localise (s : State) (args : List Raw) : State :=
  if !s.inFunction then s.abort "local: not in a function"
  else
    args.foldl (fun s a =>
      let (name, value) := splitAssignment a
      if !s.running then s
      else if !isName name then s.abort ("local: " ++ name ++ ": bad variable name")
      else
        let s := if s.own.any (·.1 == name) then s
          else { s with own := (name, s.stored? name) :: s.own }
        match value with
        | some v => s.setVariable name v
        | none => s) (s.withStatus 0)

def unset (s : State) (args : List Raw) : State :=
  let functions := args.head? == some "-f"
  let names := args.filter fun a => a != "-f" && a != "-v" && a != "--"
  names.foldl (fun s n =>
    if !s.running then s
    else if functions then { s with functions := s.functions.filter (·.1 != n) }
    else if (s.stored? n).any (·.readOnly) then s.abort ("unset: " ++ n ++ ": is read only")
    else if !isName n then s.abort ("unset: " ++ n ++ ": bad variable name")
    else s.unsetVariable n) (s.withStatus 0)

/-- Goes to a directory. -/
def changeDirectory (s : State) (args : List Raw) : State :=
  let args := args.filter fun a => a != "--" && a != "-P" && a != "-L"
  let old := Tool.pathOf s.home
  let target := match args with
    | [] => (s.value? "HOME").getD ""
    | "-" :: _ => (s.value? "OLDPWD").getD old
    | a :: _ => a
  match (s.reach target).toOption.filter fun r => r.node.isDirectory with
  | some r =>
    let s := { s with home := r.loc }
    let s := (s.setVariable "OLDPWD" old).setVariable "PWD" (Tool.pathOf r.loc)
    let s := if args.head? == some "-" then s.say (Tool.pathOf r.loc ++ "\n") else s
    s.withStatus 0
  | none => if target.isEmpty then s.withStatus 0 else s.complain ("cd: can't cd to " ++ target) 2

/-- Reads the next option of some arguments. -/
def getOption (s : State) (args : List Raw) : State :=
  match args with
  | known :: name :: rest =>
    let words := if rest.isEmpty then s.positional else rest
    let quiet := known.startsWith ":"
    let silent := s.rich && s.value? "OPTERR" == some "0"
    let known := if quiet then known.toList.drop 1 else known.toList
    let index := ((s.value? "OPTIND").bind number?).getD 1
    let place := max 1 s.optionPlace
    let finish (s : State) (index : Nat) : State :=
      { (s.setVariable name "?").setVariable "OPTIND" (toString index) with
        status := 1, optionPlace := 1 }
    match words[index - 1]? with
    | none => finish s index
    | some w =>
      match w.toList with
      | '-' :: c :: cs =>
        if w == "--" then finish s (index + 1)
        else
          let letters := c :: cs
          match letters[place - 1]? with
          | none => finish s (index + 1)
          | some letter =>
            let isLast := letters.length ≤ place
            let move (s : State) : State :=
              if isLast then { s.setVariable "OPTIND" (toString (index + 1)) with optionPlace := 1 }
              else { s.setVariable "OPTIND" (toString index) with optionPlace := place + 1 }
            let after := (known.dropWhile (· != letter)).drop 1
            if letter == ':' || !known.contains letter then
              let s := (move s).setVariable name "?"
              let told : Raw := if s.rich then s.zero ++ ": illegal option -- " ++ letter.toString
                else "Illegal option -" ++ letter.toString
              if quiet then (s.setVariable "OPTARG" letter.toString).withStatus 0
              else ((if silent then s else s.complainPlain told).unsetVariable "OPTARG").withStatus 0
            else if after.head? == some ':' then
              let taken (s : State) (arg : Raw) (next : Nat) : State :=
                let s := ((s.setVariable name letter.toString).setVariable "OPTARG" arg)
                { s.setVariable "OPTIND" (toString next) with optionPlace := 1, status := 0 }
              if !isLast then taken s (String.ofList (letters.drop place)) (index + 1)
              else
                match words[index]? with
                | some arg => taken s arg (index + 2)
                | none =>
                  let s := move s
                  if quiet then
                    ((s.setVariable name ":").setVariable "OPTARG" letter.toString).withStatus 0
                  else
                    let told : Raw :=
                      if s.rich then s.zero ++ ": option requires an argument -- " ++ letter.toString
                      else "No arg for -" ++ letter.toString ++ " option"
                    (((if silent then s else s.complainPlain told).setVariable name "?").unsetVariable
                      "OPTARG").withStatus 0
            else ((move s).setVariable name letter.toString).unsetVariable "OPTARG" |>.withStatus 0
      | _ => finish s index
  | _ => s.complain "getopts: Usage: getopts optstring var [arg...]" 2

/-! ## Output -/

/-- Writes what a tool gives as a command of the script itself. -/
def output (s : State) (name : Raw) (r : Ran) : State :=
  if s.isLost r.writes then s.complain (name ++ ": " ++ name ++ ": I/O error") 1
  else s.perform none r

/-- The complaints of a tool with what the script puts in front of them. -/
def withLead (s : State) (r : Ran) : Ran :=
  let lead := Raw.toBytes (s.zero ++ ": " ++ toString s.line ++ ": ")
  { r with writes := r.writes.map fun w => if w.1 then (true, lead ++ w.2) else w }

def test (s : State) (bracketed : Bool) (args : List Raw) : State :=
  let name : Raw := if bracketed then "[" else "test"
  if bracketed && args.getLast? != some "]" then s.complain "[: missing ]" 2
  else
    match Check.holds s.facts (if bracketed then args.dropLast else args) with
    | .ok b => s.withStatus (if b then 0 else 1)
    | .error e => s.complain (name ++ ": " ++ e) 2

/-! ## All of them -/

abbrev Action := State → List Raw → State

/-- The commands by their names, with whether they are special: variables that are set in front of a
special command keep their values, and a fault in it ends the script. -/
def builtins : List (Raw × Bool × Action) :=
  [(":", true, fun s _ => s.withStatus 0), ("true", false, fun s _ => s.withStatus 0),
    ("false", false, fun s _ => s.withStatus 1), ("exit", true, exitWith), ("return", true, returnWith),
    ("break", true, fun s => s.leaveLoops "break" .broke),
    ("continue", true, fun s => s.leaveLoops "continue" .continued), ("shift", true, shift),
    ("kill", false, kill), ("trap", true, trap), ("wait", false, wait), ("read", false, read),
    ("set", true, setOptions),
    ("export", true, fun s => s.declare "export" fun v => { v with exported := true }),
    ("readonly", true, fun s => s.declare "readonly" fun v => { v with readOnly := true }),
    ("local", true, localise), ("unset", true, unset), ("cd", false, changeDirectory),
    ("chdir", false, changeDirectory), ("getopts", false, getOption),
    ("echo", false, fun s args => s.output "echo" (Tool.echo args)),
    ("printf", false, fun s args => s.output "printf" (s.withLead (Tool.printf args))),
    ("pwd", false, fun s _ => s.output "pwd" (Tool.pwd s.scene)),
    ("test", false, fun s => s.test false), ("[", false, fun s => s.test true),
    ("umask", false, umask), ("jobs", false, listJobs), ("alias", false, setAlias),
    ("unalias", false, unalias), ("times", true, times), ("ulimit", false, ulimit),
    ("fg", false, fun s _ => s.complain "fg: No current job" 2),
    ("bg", false, fun s _ => s.complain "bg: No current job" 2)]

/-- The commands that run others. -/
def runners : List (Raw × Bool) :=
  [("eval", true), ("exec", true), (".", true), ("command", false), ("type", false), ("hash", false)]

def isBuiltin (name : Raw) : Bool :=
  (builtins.lookup name).isSome || (runners.lookup name).isSome

def isSpecial (name : Raw) : Bool :=
  ((builtins.lookup name).map (·.1)).getD ((runners.lookup name).getD false)

end State

end Host.Shell

end PolicyGate
