import PolicyGate.Host.Behaviour
import PolicyGate.Host.Files
import PolicyGate.Host.Shell.Check
import PolicyGate.Host.Shell.RichSum
import PolicyGate.Host.Shell.RichValue
import PolicyGate.Host.Shell.Script
import PolicyGate.Host.Shell.Variable
import PolicyGate.Host.Stream
import PolicyGate.Host.Tool.Paths

/-!
# The state of a running script

A script has variables, arguments, files and open descriptors. What it writes is kept with the moment
at which it is written, so that parts that run at the same time can be put in order afterwards. The
output of a part that is captured, for a pipe or a substitution, goes to a collecting sink, one for
each level of capturing.
-/

namespace PolicyGate

namespace Host.Shell

/-- Where output goes. -/
inductive Sink where
  | pipe (p : Pipe)
  | collect (level : Nat)
  | nowhere
  /-- A device on which there is never any room. -/
  | full
  /-- A file, by its node. -/
  | file (number : Nat)
  /-- A channel that is read elsewhere, by its node. -/
  | channel (number : Nat)
  deriving DecidableEq, Repr

/-- What a descriptor stands for. -/
inductive Handle where
  | output (s : Sink)
  /-- An input, by its number. Descriptors that share one read on from each other. -/
  | input (number : Nat)
  deriving DecidableEq, Repr

structure Input where
  feed : Feed
  /-- Whether it is a file, rather than a pipe. -/
  isFile : Bool := false

/-- Something that is written. -/
structure Emit where
  time : Moment
  /-- The process that writes. -/
  owner : Nat
  sink : Sink
  bytes : List UInt8

/-- A part that runs in the background. -/
structure Job where
  pid : Nat
  /-- The process that has started it. -/
  parent : Nat
  /-- When it ends, if it ends. -/
  ends : Option Moment
  /-- Its status, or the signal that kills it. -/
  status : Nat
  /-- What it can write to. -/
  holds : List Sink
  /-- Whether it has been waited for. -/
  known : Bool := false
  /-- Whether a signal ends it. -/
  isKilled : Bool := false

/-- Why a script does not go on. -/
inductive Halt where
  | exit (status : Nat)
  | returned
  | broke (levels : Nat)
  | continued (levels : Nat)
  /-- What is left of the line is not run. -/
  | dropped
  | killed (signal : Nat)
  | repeats (sink : Sink) (pattern : List UInt8)
  | hangs
  /-- There is nothing to read in a channel yet. -/
  | waits (channel : Nat)
  deriving DecidableEq, Repr

/-- A function that runs. -/
structure Frame where
  name : Raw
  /-- The line from which it was called. -/
  line : Nat
  /-- Where it has been defined. -/
  speaker : Raw
  deriving Repr

/-- A descriptor that leads to another script or from one. -/
structure Attached where
  descriptor : Nat
  /-- The script that reads, the channel that it reads, and when it starts. -/
  reader : Option (Raw × Nat × Moment) := none
  deriving Repr

/-- What only scripts in the rich notation have. -/
structure Riches where
  /-- Whose lines complaints tell of, if not those of the script. -/
  speaker : Option Raw := none
  /-- What the script is called as the place where functions have been defined. -/
  source : Raw := "environment"
  /-- Whether a file is being read as a part of the script. -/
  sourcing : Bool := false
  /-- How many scripts run inside each other. -/
  nested : Nat := 0
  /-- The settings with names that are on. -/
  settings : List Raw := []
  /-- The options with names and without letters that are on. -/
  longOptions : List Raw := []
  /-- The statuses of the parts of the last pipe. -/
  statuses : List Nat := []
  /-- The functions that run, the innermost first. -/
  frames : List Frame := []
  /-- Where functions have been defined. -/
  sources : List (Raw × Raw) := []
  /-- The directories to go back to. -/
  directories : List Raw := []
  /-- Where the numbers that are drawn come from. -/
  seed : Nat := 4211
  /-- When the seconds were counted last, and how many there were. -/
  since : Moment := 0
  seconds : Nat := 0
  /-- The last word of the last command. -/
  lastWord : Raw := ""
  /-- The channels to other scripts, the latest first. -/
  attached : List Attached := []
  disabled : List Raw := []

/-- What is a process's own. -/
structure Process where
  /-- The name of the script, in front of its complaints. -/
  zero : Raw
  /-- Whether scripts are in the rich notation. -/
  rich : Bool := false
  riches : Riches := {}
  line : Nat := 1
  positional : List Raw
  vars : List (Raw × Variable) := []
  /-- The variables that the function that runs has made its own, with their values outside. -/
  own : List (Raw × Option Variable) := []
  functions : List (Raw × Script) := []
  /-- Names that stand for other texts. -/
  aliases : List (Raw × Raw) := []
  /-- The paths of programs that have been looked up. -/
  tracked : List (Raw × Raw) := []
  home : List String := []
  /-- What new files may not be used for. -/
  mask : Nat := 0o022
  handles : List (Nat × Handle) :=
    [(0, .output .nowhere), (1, .output (.pipe .stdout)), (2, .output (.pipe .stderr))]
  level : Nat := 0
  status : Nat := 0
  /-- The status of the last substitution in a command. -/
  substituted : Option Nat := none
  clock : Moment := 0
  /-- The process that runs, and how many it is below the first. -/
  pid : Nat := 4242
  depth : Nat := 0
  lastJob : Option Nat := none
  /-- When it was last seen which parts in the background have ended. -/
  collected : Moment := 0
  /-- The letters of the options that are set. -/
  options : List Char := []
  /-- Whether the status of what runs is looked at. -/
  tested : Bool := false
  inFunction : Bool := false
  /-- How many loops run. -/
  loops : Nat := 0
  /-- What is run on signals, 0 standing for the end. -/
  traps : List (Nat × Raw) := []
  /-- The numbers that scripts run under, the one of this script first. -/
  selves : List Nat := [4242]
  /-- The moments at which a signal comes to all that run here. -/
  cutOffs : List (Moment × Nat) := []
  /-- How many functions run. -/
  calls : Nat := 0
  /-- What `getopts` has read of the word it is at. -/
  optionPlace : Nat := 1
  halt : Option Halt := none

/-- A part in the background that waits for something to read, with the channel it waits for. -/
structure Waiting where
  channel : Nat
  process : Process
  body : Script

/-- What all processes share. -/
structure System where
  files : Files
  inputs : List (Nat × Input) := []
  nextInput : Nat := 0
  nextPid : Nat := 4243
  jobs : List Job := []
  /-- What has been written, the latest first. -/
  emitted : List Emit := []
  /-- The signals that are on their way: when, to which script, and which. -/
  signals : List (Moment × Nat × Nat) := []
  waiting : List Waiting := []

structure State extends Process, System

namespace State

def running (s : State) : Bool := s.halt.isNone

def withStatus (s : State) (status : Nat) : State := { s with status }

def stop (s : State) (h : Halt) : State := { s with halt := some h }

/-- The number under which the script runs. -/
def self (s : State) : Nat := s.selves.head?.getD s.pid

/-! ## Time -/

/-- How long it takes until a part of its own runs, until a program does, and until the script goes on
after it has started a part of its own. -/
def forkTime : Moment := 300
def programTime : Moment := 600
def resumeTime : Moment := 100

def after (s : State) (t : Moment) : State := { s with clock := s.clock + t }

def notBefore (s : State) (t : Moment) : State := { s with clock := max s.clock t }

/-- Goes on at a moment, which may never come. -/
def await (s : State) : Option Moment → State
  | some t => s.notBefore t
  | none => s.stop .hangs

/-- Sees which parts in the background have ended until now, as every wait for a process does. -/
def collect (s : State) : State := { s with collected := s.clock }

/-- Whether a part in the background has ended and nothing is left of it but its status. -/
def isGone (s : State) (j : Job) : Bool :=
  j.known || j.ends.any fun t => if j.parent = s.pid then t ≤ s.collected else t < s.clock

/-! ## Descriptors -/

def handle? (s : State) (d : Nat) : Option Handle := s.handles.lookup d

def setHandle (s : State) (d : Nat) (h : Handle) : State :=
  { s with handles := (d, h) :: s.handles.filter (·.1 != d) }

def closeHandle (s : State) (d : Nat) : State :=
  { s with handles := s.handles.filter (·.1 != d) }

def addInput (s : State) (i : Input) : State × Nat :=
  ({ s with inputs := (s.nextInput, i) :: s.inputs, nextInput := s.nextInput + 1 }, s.nextInput)

def setFeed (s : State) (number : Nat) (f : Feed) : State :=
  { s with inputs := s.inputs.map fun (n, i) => if n = number then (n, { i with feed := f }) else (n, i) }

/-- The input of a descriptor, with its number. -/
def input? (s : State) (d : Nat) : Option (Nat × Input) :=
  match s.handle? d with
  | some (.input n) => (s.inputs.lookup n).map (n, ·)
  | _ => none

/-! ## Writing -/

def write (s : State) (sink : Sink) (bytes : List UInt8) : State :=
  match sink with
  | .file number =>
    let old := ((s.files.nodes.lookup number).map Node.bytes).getD []
    { s with files := s.files.fill number (old ++ bytes) }
  | .nowhere | .full => s
  | _ =>
    if bytes.isEmpty then s else { s with emitted := ⟨s.clock, s.pid, sink, bytes⟩ :: s.emitted }

/-- Where the output of a descriptor goes, if it is open for that. -/
def sink? (s : State) (d : Nat) : Option Sink :=
  match s.handle? d with
  | some (.output k) => some k
  | _ => none

/-- Writes to a descriptor. What cannot be written is lost. -/
def writeTo (s : State) (d : Nat) (bytes : List UInt8) : State :=
  match s.sink? d with
  | some k => s.write k bytes
  | none => s

def say (s : State) (r : Raw) : State := s.writeTo 1 (Raw.toBytes r)

def complainPlain (s : State) (r : Raw) : State := s.writeTo 2 (Raw.toBytes (r ++ "\n"))

/-- What stands in front of a complaint of the script itself. -/
def lead (s : State) : Raw :=
  if s.rich then s.riches.speaker.getD s.zero ++ ": line " ++ toString s.line ++ ": "
  else s.zero ++ ": " ++ toString s.line ++ ": "

/-- Writes a complaint of the script itself. -/
def complain (s : State) (r : Raw) (status : Nat) : State :=
  (s.complainPlain (s.lead ++ r)).withStatus status

/-- Ends the script with a complaint, or in the rich notation what is left of the line. -/
def abort (s : State) (r : Raw) : State :=
  if s.rich then (s.complain r 1).stop .dropped else (s.complain r 2).stop (.exit 2)

/-! ## Variables -/

def stored? (s : State) (name : Raw) : Option Variable := s.vars.lookup name

/-- The variable that a name leads to, by way of those that stand for others. -/
def real (s : State) (name : Raw) : Raw :=
  if s.rich then go 20 name else name
where
  go : Nat → Raw → Raw
    | 0, name => name
    | fuel + 1, name =>
      match (s.stored? name).filter (·.refers) with
      | some v =>
        match v.value with
        | some next => if next.isEmpty || next == name then name else go fuel next
        | none => name
      | none => name

def putVariable (s : State) (name : Raw) (v : Variable) : State :=
  { s with
    vars := if (s.vars.lookup name).isSome then s.vars.map fun w => if w.1 == name then (name, v) else w
      else (name, v) :: s.vars }

/-- How long a part has run, in seconds. -/
def secondsNow (s : State) : Nat :=
  s.riches.seconds + (s.clock - s.riches.since) / 1000000

/-- The number that is drawn next. -/
def drawn (s : State) : Nat :=
  let next := (s.riches.seed * 16807) % 2147483647
  ((next / 65536) ^^^ (next % 65536)) % 32768

/-- The value of a variable that has none of its own. -/
def derived? (s : State) (name : Raw) : Option Raw :=
  if !s.rich then none
  else if name == "LINENO" then some (toString s.line)
  else if name == "RANDOM" || name == "SRANDOM" then some (toString s.drawn)
  else if name == "SECONDS" then some (toString s.secondsNow)
  else if name == "BASHPID" then some (toString s.pid)
  else if name == "BASH_SUBSHELL" then some (toString s.depth)
  else if name == "EPOCHSECONDS" then some "1700000000"
  else if name == "EPOCHREALTIME" then some "1700000000.000000"
  else if name == "_" then some s.riches.lastWord
  else if name == "HISTCMD" then some "1"
  else none

/-- The values of a variable that has none of its own, if it is a row. -/
def derivedRow? (s : State) (name : Raw) : Option Items :=
  if !s.rich then none
  else if name == "PIPESTATUS" then
    some (.ofList ((if s.riches.statuses.isEmpty then [s.status] else s.riches.statuses).map toString))
  else if name == "FUNCNAME" then
    if s.riches.frames.isEmpty then none
    else
      let last : List Raw := if s.riches.source == "environment" then [] else ["main"]
      some (.ofList (s.riches.frames.map (·.name) ++ last))
  else if name == "BASH_SOURCE" then
    some (.ofList (s.riches.frames.map (·.speaker)))
  else if name == "BASH_LINENO" then
    some (.ofList (s.riches.frames.map fun f => toString f.line))
  else if name == "DIRSTACK" then
    some (.ofList (Tool.pathOf s.home :: s.riches.directories))
  else if name == "GROUPS" then some (.ofList ["0"])
  else none

/-- The values of a row or a table. -/
def items? (s : State) (name : Raw) : Option Items :=
  match s.stored? (s.real name) with
  | some v => v.items
  | none => s.derivedRow? name

/-- The value of a variable at a place. One that is no row has a first place only. -/
def element? (s : State) (name key : Raw) : Option Raw :=
  let name := s.real name
  match s.stored? name with
  | some v =>
    match v.items with
    | some i => i.get? key
    | none => if key == "0" then v.value else none
  | none =>
    match s.derivedRow? name with
    | some i => i.get? key
    | none => if key == "0" then s.derived? name else none

def value? (s : State) (name : Raw) : Option Raw := s.element? name "0"

/-- What sums can ask about variables. -/
def sumNames (s : State) : RichSum.Names :=
  { value? := s.element?
    isTable := fun n => (s.items? n).any Items.isTable
    size := fun n => ((s.items? n).map Items.bound).getD 0
    strict := s.options.contains 'u' }

/-- A value as a variable takes it, which may be marked, given what it has had. -/
def taken (s : State) (v : Variable) (old : Option Raw) (adds : Bool) (value : Raw) : Except Raw Raw :=
  let before := if adds then old.getD "" else ""
  if v.integer then
    let sum (r : Raw) : Except Raw Int :=
      match RichSum.value s.sumNames r with
      | .ok (n, _) => .ok n
      | .error f => .error f.message
    match sum before, sum value with
    | .ok a, .ok b => .ok (toString (Sum.wrap (a + b)))
    | .error e, _ | _, .error e => .error e
  else .ok (RichValue.cased v.turn (before ++ value))

/-- Gives a variable a value, or a place in one, or says why it cannot be given any. -/
def give? (s : State) (name : Raw) (place : Option Raw) (adds : Bool) (value : Raw) : Except Raw State :=
  let s := if name == "PATH" then { s with tracked := [] } else s
  let name := s.real name
  let v := (s.stored? name).getD { value := none, exported := s.options.contains 'a' }
  if v.readOnly then .error (name ++ ": readonly variable")
  else if name == "SECONDS" && s.rich then
    let n := if Tool.isNumeral value then Tool.numeral value.toList else 0
    .ok { s with riches := { s.riches with since := s.clock, seconds := n } }
  else if name == "RANDOM" && s.rich then
    let n := if Tool.isNumeral value then Tool.numeral value.toList else 0
    .ok { s with riches := { s.riches with seed := n } }
  else
    match place, v.items with
    | none, none =>
      match s.taken v v.value adds value with
      | .ok r => .ok (s.putVariable name { v with value := some r })
      | .error e => .error e
    | _, _ =>
      let items := v.items.getD (match v.value with
        | some r => .row [(0, r)]
        | none => .row [])
      let key := place.getD "0"
      match s.taken v (items.get? key) adds value with
      | .ok r => .ok (s.putVariable name { v with value := some "", items := some (items.put key r) })
      | .error e => .error e

/-- Gives a variable a value, or complains. -/
def setVariable (s : State) (name value : Raw) : State :=
  if s.rich then
    match s.give? name none false value with
    | .ok t => t
    | .error e => s.complain e 1
  else
    let s := if name == "PATH" then { s with tracked := [] } else s
    match s.stored? name with
    | some v =>
      if v.readOnly then s.abort (name ++ ": is read only")
      else s.putVariable name { v with value := some value }
    | none => s.putVariable name { value := some value, exported := s.options.contains 'a' }

def unsetVariable (s : State) (name : Raw) : State :=
  { s with vars := s.vars.filter (·.1 != name) }

/-- Gives variables back what they had before. -/
def withVariables (s : State) (before : List (Raw × Variable)) (names : List Raw) : State :=
  { s with
    vars := names.foldl (fun vars n =>
      let others := vars.filter fun (w : Raw × Variable) => w.1 != n
      match before.lookup n with
      | some v => (n, v) :: others
      | none => others) s.vars }

/-- The characters between fields. -/
def separators (s : State) : Raw := (s.value? "IFS").getD " \t\n"

def joint (s : State) : Raw :=
  match s.value? "IFS" with
  | some r => String.ofList (r.toList.take 1)
  | none => " "

/-- The value of a parameter. -/
def parameter? (s : State) (name : Raw) : Option Raw :=
  if name == "#" then some (toString s.positional.length)
  else if name == "?" then some (toString s.status)
  else if name == "$" then some (toString s.self)
  else if name == "!" then s.lastJob.map toString
  else if name == "-" then some (String.ofList s.options)
  else if name == "0" then some s.zero
  else if name == "@" || name == "*" then
    if s.positional.isEmpty then none else some (s.joint.intercalate s.positional)
  else if name.toList.all Char.isDigit then s.positional[Tool.numeral name.toList - 1]?
  else s.value? name

/-- The variables that a script starts with. -/
def standardVariables : List (Raw × Variable) :=
  let exported (r : Raw) : Variable := { value := some r, exported := true }
  let plain (r : Raw) : Variable := { value := some r }
  [("PATH", exported "/usr/local/sbin:/usr/local/bin:/usr/sbin:/usr/bin:/sbin:/bin"),
    ("HOME", exported "/root"), ("PWD", exported "/"), ("IFS", plain " \t\n"), ("OPTIND", plain "1"),
    ("PS1", plain "# "), ("PS2", plain "> "), ("PS4", plain "+ "), ("PPID", plain "4241")]

/-- The place at which a table keeps a name. What tables hold is listed by places, and by age where
places agree. -/
def place (name : Raw) : Nat :=
  let codes := name.toList.map Char.toNat
  (codes.foldl (· + ·) (16 * codes.head?.getD 0)) % 39

/-- What a table holds, from the latest to the first, in the order in which it is listed. -/
def listed {α : Type} (table : List (Raw × α)) : List (Raw × α) :=
  table.reverse.mergeSort fun a b => place a.1 ≤ place b.1

/-- The variables that a script starts with which another process has started, in some directory. A few
are always set anew. -/
def inherited (vars : List (Raw × Variable)) (home : Raw) : List (Raw × Variable) :=
  let kept := vars.filter fun v => v.2.passed?.isSome
  let isExported (n : Raw) : Bool := (kept.lookup n).isSome
  let anew : List (Raw × Raw) := [("IFS", " \t\n"), ("OPTIND", "1"), ("PPID", "4241")]
  let missing : List (Raw × Raw) :=
    [("PATH", "/usr/local/sbin:/usr/local/bin:/usr/sbin:/usr/bin:/sbin:/bin"), ("PS1", "# "),
      ("PS2", "> "), ("PS4", "+ ")]
  (kept.filter fun v => !(anew.lookup v.1).isSome && v.1 != "PWD") ++
    [("PWD", { value := some home, exported := true })] ++
    anew.map (fun (n, r) => (n, { value := some r, exported := isExported n })) ++
    (missing.filter fun v => !isExported v.1).map fun (n, r) => (n, { value := some r })

/-! ## Signals -/

/-- The names of the signals, in the order of their numbers from 1 on. -/
def signalNames : List Raw :=
  ["HUP", "INT", "QUIT", "ILL", "TRAP", "ABRT", "BUS", "FPE", "KILL", "USR1", "SEGV", "USR2", "PIPE",
    "ALRM", "TERM", "STKFLT", "CHLD", "CONT", "STOP", "TSTP", "TTIN", "TTOU", "URG", "XCPU", "XFSZ",
    "VTALRM", "PROF", "WINCH", "POLL", "PWR", "SYS"]

/-- The number of a signal that is given by its number or its name. -/
def signalNumber? (spec : Raw) : Option Nat :=
  let name := String.ofList (spec.toList.map Char.toUpper)
  if Tool.isNumeral spec then
    let n := Tool.numeral spec.toList
    if n ≤ 64 then some n else none
  else if name == "EXIT" then some 0
  else (signalNames.idxOf? name).map (· + 1)

/-- How the end of a process by a signal is told. -/
def signalText (n : Nat) : Raw :=
  match n with
  | 1 => "Hangup"
  | 3 => "Quit"
  | 4 => "Illegal instruction"
  | 5 => "Trace/breakpoint trap"
  | 6 => "Aborted"
  | 7 => "Bus error"
  | 8 => "Floating point exception"
  | 9 => "Killed"
  | 10 => "User defined signal 1"
  | 11 => "Segmentation fault"
  | 12 => "User defined signal 2"
  | 14 => "Alarm clock"
  | 15 => "Terminated"
  | n => "Unknown signal " ++ toString n

/-- Tells that a process has been killed, unless the signal is one that says nothing. -/
def tellKilled (s : State) (n : Nat) : State :=
  if n = 2 || n = 13 then s else s.complainPlain (signalText n)

/-! ## The end of a part -/

/-- When a part has come to its end. -/
def finished (s : State) : Option Moment :=
  match s.halt with
  | some .hangs | some (.repeats ..) | some (.waits _) => none
  | _ => some s.clock

/-- The status that others see of a part that has ended. -/
def exitStatus (s : State) : Nat :=
  match s.halt with
  | some (.exit n) => n % 256
  | some (.killed n) => 128 + n
  | _ => s.status % 256

/-- What output a part can still write to. -/
def held (s : State) : List Sink :=
  s.handles.filterMap fun h =>
    match h.2 with
    | .output k => some k
    | .input _ => none

/-- Takes what all processes share from another state. -/
def sharing (s t : State) : State := { s with toSystem := t.toSystem }

/-- Drops the inputs that have been opened since a moment at which there were so many. -/
def dropInputs (s : State) (count : Nat) : State :=
  { s with inputs := s.inputs.filter fun i => i.1 < count }

/-- Whether a trap is also one of the parts that run on their own. -/
def isInherited (s : State) (t : Nat × Raw) : Bool :=
  t.2.isEmpty || (s.rich && ((t.1 = 66 && s.options.contains 'E') ||
    ((t.1 = 65 || t.1 = 67) && s.options.contains 'T')))

/-- What a part of its own starts from. -/
def apart (s : State) : State :=
  { s with
    pid := s.nextPid, nextPid := s.nextPid + 1, depth := s.depth + 1, clock := s.clock + forkTime
    traps := s.traps.filter s.isInherited
    own := [] }

/-- When nothing can be written to a sink any more, after a part that ended at some moment. -/
def closing (s : State) (sink : Sink) (done : Option Moment) : Option Moment :=
  s.jobs.foldl (fun t j =>
    if j.holds.contains sink then
      match t, j.ends with
      | some a, some b => some (max a b)
      | _, _ => none
    else t) done

/-- Puts what is written in the order of time. -/
def inOrder (es : List Emit) : List Emit := es.mergeSort fun a b => a.time ≤ b.time

/-- Runs a part and captures what it writes: what there is to read, and the state after it, in which
the part has not been joined yet. -/
def capture (s : State) (body : State → State) : Feed × State :=
  let sink := Sink.collect s.level
  let start := { s with level := s.level + 1, emitted := [] }.setHandle 1 (.output sink)
  let inner := body start
  let mine := inOrder ((inner.emitted.filter fun e => e.sink == sink).reverse)
  let others := inner.emitted.filter fun e => e.sink != sink
  let cycle := match inner.halt with
    | some (.repeats k pattern) => if k == sink then pattern else []
    | _ => []
  (⟨mine.map fun e => (e.time, e.bytes), cycle, inner.closing sink inner.finished⟩,
    { inner with emitted := others ++ s.emitted })

/-! ## Channels -/

/-- What has been written to a channel. It ends when nobody can write to it any more. -/
def channelFeed (s : State) (number : Nat) : Feed :=
  let sink := Sink.channel number
  let mine := inOrder ((s.emitted.filter fun e => e.sink == sink).reverse)
  ⟨mine.map fun e => (e.time, e.bytes), [], s.closing sink (some s.clock)⟩

/-- Drops what was in a channel. -/
def emptied (s : State) (number : Nat) : State :=
  { s with emitted := s.emitted.filter fun e => e.sink != .channel number }

/-- Whether something has been written to a channel, or somebody still may. -/
def isFed (s : State) (number : Nat) : Bool :=
  (s.emitted.any fun e => e.sink == .channel number) ||
    s.jobs.any fun j => j.holds.contains (.channel number)

/-! ## Tools -/

/-- What a tool works on. -/
def scene (s : State) : Scene :=
  let input := s.input? 0
  let streams := s.handles.filterMap fun (d, _) =>
    if d = 0 then none else (s.input? d).map fun i => (d, i.2.feed.toStream)
  let numbers := (s.emitted.filterMap fun e =>
    match e.sink with
    | .channel n => some n
    | _ => none).eraseDups
  { files := s.files, home := s.home
    input := (input.map fun i => i.2.feed.toStream).getD .empty
    inputIsFile := input.any fun i => i.2.isFile
    descriptors := streams
    channels := numbers.map fun n => (n, (s.channelFeed n).toStream)
    environment := s.vars.filterMap fun (n, v) =>
      v.passed?.map (n, ·)
    mask := s.mask }

/-- Takes from the input what a tool has read of it. -/
def consume (s : State) (r : Ran) : State :=
  match r.rest, s.input? 0 with
  | some rest, some (n, i) =>
    let all := i.feed.toStream
    let toEnd := rest.bytes.isEmpty && (!rest.isEndless || all.bytes.isEmpty)
    let used := all.bytes.length - rest.bytes.length
    if toEnd && !all.isEndless then (s.await i.feed.ends).setFeed n (i.feed.drop used)
    else if rest.isEndless then (s.await (i.feed.readyAt used)).setFeed n { i.feed.drop used with
      chunks := if rest.bytes.isEmpty then [] else [(i.feed.lastChunk, rest.bytes)] }
    else if all.isEndless then (if r.endless.isEmpty then s.stop .hangs else s)
    else
      let used := if r.inBlocks && !i.isFile then i.feed.blocksAround used else used
      (s.await (i.feed.readyAt used)).setFeed n (i.feed.drop used)
  | _, _ => s

/-- Passes an input on as it comes. -/
def passOn (s : State) (f : Feed) : State :=
  let sink := (s.sink? 1).getD .nowhere
  f.chunks.foldl (fun s c => (s.notBefore c.1).write sink c.2) s

/-- Goes on writing a pattern for ever. -/
def flood (s : State) (pattern : List UInt8) : State :=
  match s.sink? 1 with
  | some .nowhere | some .full | some (.file _) | none => s.stop .hangs
  | some k => s.stop (.repeats k pattern)

/-- Writes what a tool writes, as output or as complaints. -/
def writeAll (s : State) (ws : List (Bool × List UInt8)) : State :=
  ws.foldl (fun s w => s.writeTo (if w.1 then 2 else 1) w.2) s

/-- Why output is lost, if there is nothing to write it to. -/
def loss? (s : State) : Option Raw :=
  match s.sink? 1 with
  | none => some "Bad file descriptor"
  | some .full => some "No space left on device"
  | some _ => none

/-- Whether output is lost. -/
def isLost (s : State) (ws : List (Bool × List UInt8)) : Bool :=
  s.loss?.isSome && ws.any fun w => !w.1 && !w.2.isEmpty

/-- Takes in what a tool reads and writes what it writes. One that writes what it reads at once does
so as it comes. -/
def exchange (s : State) (r : Ran) : State :=
  match (s.input? 0).map fun i => i.2.feed with
  | none => s.writeAll r.writes
  | some f =>
    if r.direct && 1 < f.chunks.length && r.writes.all (!·.1) then (s.passOn f).consume r
    else
      let t := s.consume r
      if t.running then t.writeAll r.writes
      else if r.direct then (s.writeAll r.writes).stop .hangs
      else t

/-- Lets a tool's run happen. The name is that of a program, if it is one. -/
def perform (s : State) (program : Option Raw) (r : Ran) : State :=
  let s := { s with files := r.files.getD s.files }.exchange r
  let s := r.aside.foldl (fun s w => s.writeTo w.1 w.2) s
  if !s.running then s
  else
    let s := (s.after (1000 * r.waitMs)).withStatus r.status
    if s.isLost r.writes then
      match program with
      | some name =>
        let isFull := s.sink? 1 == some .full
        let what := if name == "cat" && !isFull then ": standard output" else ": write error"
        (s.complainPlain (name ++ what ++ ": " ++ s.loss?.getD "")).withStatus
          (if name == "ls" then 2 else max 1 r.status)
      | none => s
    else if !r.endless.isEmpty then s.flood r.endless
    else if r.hangs then s.stop .hangs
    else
      match r.killed with
      | some n => s.stop (.killed n)
      | none => s

/-! ## Paths -/

def reach (s : State) (path : Raw) : Except PathFault Reached :=
  Host.reach s.files s.home (Raw.toText path)

def node? (s : State) (path : Raw) : Option Node := (s.reach path).toOption.map (·.node)

/-- What tests can ask. -/
def facts (s : State) : Check.Facts :=
  let pipe (d : Nat) : Bool := match s.handle? d with
    | some (.input n) => (s.inputs.lookup n).any fun i => !i.isFile
    | some (.output (.pipe _)) | some (.output (.collect _)) => true
    | _ => false
  { found := fun p => (s.reach p).toOption
    named := fun p => (Host.reachName s.files s.home (Raw.toText p)).toOption
    isPipe := pipe, isOpen := fun d => (s.handle? d).isSome }

/-! ## Redirections -/

/-- Opens a path for writing. -/
def openForWriting (s : State) (path : Raw) (append : Bool) : Except Raw (Handle × State) :=
  let refused (what : Raw) : Except Raw (Handle × State) :=
    .error ((if s.rich then "" else "cannot create ") ++ path ++ ": " ++ what)
  match seek s.files s.home (Raw.toText path) true with
  | .error .notFound => refused (if s.rich then reason .notFound else "Directory nonexistent")
  | .error e => refused (reason e)
  | .ok (loc, none) =>
    let files := s.files.create loc (.file []) (0o666 &&& (0o777 ^^^ s.mask))
    .ok (.output (.file s.files.next), { s with files })
  | .ok (_, some r) =>
    match r.node.content with
    | .directory => refused (reason .isADirectory)
    | .device (.descriptor n) =>
      match s.handle? n with
      | some h => .ok (h, s)
      | none => refused (reason .notFound)
    | .device .full => .ok (.output .full, s)
    | .device _ => .ok (.output .nowhere, s)
    | .channel => .ok (.output (.channel r.number), s)
    | _ =>
      .ok (.output (.file r.number),
        if append then s else { s with files := s.files.fill r.number [] })

def openForReading (s : State) (path : Raw) : Except Raw (Handle × State) :=
  let refused (what : Raw) : Except Raw (Handle × State) :=
    .error ((if s.rich then "" else "cannot open ") ++ path ++ ": " ++ what)
  let absent : Raw := if s.rich then reason .notFound else "No such file"
  let opened (i : Input) : Except Raw (Handle × State) :=
    let (s, n) := s.addInput i
    .ok (.input n, s)
  match s.reach path with
  | .error .notFound => refused absent
  | .error e => refused (reason e)
  | .ok r =>
    match r.node.content with
    | .directory => opened { feed := {} }
    | .device (.descriptor n) =>
      match s.handle? n with
      | some h => .ok (h, s)
      | none => refused absent
    | .device .zero | .device .full => opened { feed := .ofStream ⟨[], [0]⟩ }
    | .device .random => opened { feed := .ofStream ⟨noise, noise⟩ }
    | .device _ => .ok (.output .nowhere, s)
    | .channel =>
      if s.isFed r.number then
        let (t, n) := (s.emptied r.number).addInput { feed := s.channelFeed r.number }
        .ok (.input n, t)
      else .ok (.output .nowhere, s.stop (.waits r.number))
    | _ => opened { feed := .ofStream ⟨r.node.bytes, []⟩, isFile := true }

/-- Makes a descriptor stand for what another does, or for nothing. -/
def redirectTo (s : State) (d : Nat) (target : Raw) : Except Raw State :=
  let moves := s.rich && target.endsWith "-" && 1 < target.length
  let source := if moves then (target.dropEnd 1).toString else target
  if target == "-" then .ok (s.closeHandle d)
  else if Tool.isNumeral source && (source.length = 1 || s.rich) then
    let n := Tool.numeral source.toList
    match s.handle? n with
    | some h =>
      let t := s.setHandle d h
      .ok (if moves && n != d then t.closeHandle n else t)
    | none => .error (source ++ ": Bad file descriptor")
  else .error (if s.rich then target ++ ": ambiguous redirect" else "Syntax error: Bad fd number")

/-- Applies one redirection to a target. -/
def redirect (s : State) (r : Redirect) (target : Raw) : Except Raw State :=
  let o := r.operator
  let outward := r.descriptor.getD 1
  let inward := r.descriptor.getD 0
  let fed (text : Raw) : Except Raw State :=
    let (s, n) := s.addInput { feed := .ofStream ⟨Raw.toBytes text, []⟩ }
    .ok (s.setHandle inward (.input n))
  let isBoth := o == "&>" || o == "&>>" || (s.rich && o == ">&" && r.descriptor.isNone &&
    !(target.toList.all fun c => c.isDigit || c == '-'))
  if o == "<" || o == "<>" then
    let made : Except Raw State := if o == "<>" && (s.reach target).toOption.isNone then
        (s.openForWriting target false).map (·.2) else .ok s
    match made.bind fun s => s.openForReading target with
    | .ok (h, s) => .ok (s.setHandle inward h)
    | .error e => .error e
  else if o == "<<" then fed target
  else if o == "<<<" then fed (target ++ "\n")
  else if isBoth then
    match s.openForWriting target (o == "&>>") with
    | .ok (h, s) => .ok ((s.setHandle 1 h).setHandle 2 h)
    | .error e => .error e
  else if o == ">&" || o == "<&" then s.redirectTo (if o == ">&" then outward else inward) target
  else if o == ">" && s.options.contains 'C' && (s.node? target).any Node.isFile then
    .error (if s.rich then target ++ ": cannot overwrite existing file"
      else "cannot create " ++ target ++ ": File exists")
  else
    match s.openForWriting target (o == ">>") with
    | .ok (h, s) => .ok (s.setHandle outward h)
    | .error e => .error e

/-! ## The whole -/

/-- When each of the two pipes closes and the script has ended, if that ever is. -/
def closed (s : State) : Option Moment :=
  s.closing (.pipe .stderr) (s.closing (.pipe .stdout) s.finished)

/-- What is written to the pipes, with the time between. -/
def acts : Nat → List Emit → List Act
  | _, [] => []
  | now, e :: es =>
    match e.sink with
    | .pipe p =>
      let ms := e.time / 1000
      if now < ms then .wait (ms - now) :: .write p e.bytes :: acts ms es
      else .write p e.bytes :: acts now es
    | _ => acts now es

/-- What a finished script has done. -/
def behaviour (s : State) : Behaviour :=
  let all := inOrder s.emitted.reverse
  let lastMs (es : List Emit) : Nat := es.foldl (fun n e => max n (e.time / 1000)) 0
  match s.halt with
  | some (.repeats (.pipe p) pattern) =>
    ⟨acts 0 (all.filter fun e => e.time ≤ s.clock), .repeats p pattern⟩
  | _ =>
    let done := acts 0 all
    match s.closed with
    | none => ⟨done, .hangs⟩
    | some t =>
      let left := t / 1000 - lastMs (all.filter fun e =>
        match e.sink with
        | .pipe _ => true
        | _ => false)
      let wait := if left = 0 then [] else [Act.wait left]
      let status := match s.halt with
        | some (.killed _) => ExitStatus.signal
        | _ => .code (s.exitStatus : Nat)
      ⟨done ++ wait, .exit status⟩

end State

end Host.Shell

end PolicyGate
