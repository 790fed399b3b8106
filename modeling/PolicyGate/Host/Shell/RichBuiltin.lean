import PolicyGate.Host.Shell.RichDeclare
import PolicyGate.Host.Shell.RichTest

/-!
# Commands that rich scripts run themselves

They do what those of plain scripts do, with more options and complaints of their own. Here are those
that run no other command.
-/

namespace PolicyGate

namespace Host.Shell

namespace State

/-! ## Control -/

/-- A number that a command is given, or a complaint that it is none. -/
def numberArg (s : State) (command word : Raw) : Except State Int :=
  match integer? word with
  | some n => .ok n
  | none => .error (s.refuse command (word ++ ": numeric argument required") 2)

/-- What is left of words behind the mark that ends options. -/
def behindMark (args : List Raw) : List Raw := if args.head? == some "--" then args.tail else args

def statusOf (n : Int) : Nat := (n % 256).toNat

def richExit (s : State) (args : List Raw) : State :=
  match behindMark args with
  | [] => s.stop (.exit s.status)
  | a :: more =>
    match s.numberArg "exit" a with
    | .error t => t.stop (.exit 2)
    | .ok n =>
      if more.isEmpty then s.stop (.exit (statusOf n))
      else (s.refuse "exit" "too many arguments" 1).stop .dropped

def richReturn (s : State) (args : List Raw) : State :=
  if !s.inFunction && !s.riches.sourcing then
    s.refuse "return" "can only \x60return' from a function or sourced script" 2
  else
    match behindMark args with
    | [] => s.stop .returned
    | a :: more =>
      match s.numberArg "return" a with
      | .error t => t.stop .returned
      | .ok n =>
        if more.isEmpty then (s.withStatus (statusOf n)).stop .returned
        else (s.refuse "return" "too many arguments" 1).stop .dropped

def richLeave (s : State) (command : Raw) (halt : Nat → Halt) (args : List Raw) : State :=
  if s.loops = 0 then
    s.refuse command "only meaningful in a \x60for', \x60while', or \x60until' loop" 0
  else
    match behindMark args with
    | [] => (s.withStatus 0).stop (halt 1)
    | a :: more =>
      match integer? a with
      | none =>
        (s.refuse command (a ++ ": numeric argument required") 128).stop (.exit (s.status ||| 128))
      | some n =>
        if !more.isEmpty then (s.refuse command "too many arguments" 1).stop .dropped
        else if n ≤ 0 then
          (s.refuse command (a ++ ": loop count out of range") 1).stop (.broke s.loops)
        else (s.withStatus 0).stop (halt (min n.toNat s.loops))

def richShift (s : State) (args : List Raw) : State :=
  match behindMark args with
  | _ :: _ :: _ => (s.refuse "shift" "too many arguments" 1).stop .dropped
  | [a] =>
    match integer? a with
    | none => s.refuse "shift" (a ++ ": numeric argument required") 1
    | some n =>
      if n < 0 then s.refuse "shift" (a ++ ": shift count out of range") 1
      else if n ≤ s.positional.length then
        { s with positional := s.positional.drop n.toNat, status := 0 }
      else s.withStatus 1
  | [] =>
    if s.positional.isEmpty then s.withStatus 1
    else { s with positional := s.positional.drop 1, status := 0 }

/-! ## Sums -/

/-- Gives variables the values that a sum gives them. -/
def giveAll (s : State) (given : List (RichSum.Target × Int)) : Except Raw State :=
  given.reverse.foldl (fun acc g => acc.bind fun s => s.give? g.1.name g.1.place false (toString g.2))
    (.ok s)

/-- Ends the script because something that it asks for has no value. -/
def lacking (s : State) (what : Raw) : State :=
  (s.complain what 1).stop (.exit (if s.depth = 0 then 127 else 1))

/-- Works a sum out for a command: its value and the state behind it, or nothing if it has none. -/
def workOut (s : State) (command source : Raw) : Except State (Int × State) :=
  let lead (e : Raw) : Raw := if command.isEmpty then e else command ++ ": " ++ e
  match RichSum.value s.sumNames source with
  | .error f =>
    match f.cause with
    | .unbound _ => .error (s.lacking f.message)
    | _ => .error (s.complain (lead f.message) 1)
  | .ok (n, given) =>
    match s.giveAll given with
    | .ok t => .ok (n, t)
    | .error e => .error (s.complain e 1)

def richLet (s : State) (args : List Raw) : State :=
  match behindMark args with
  | [] => s.refuse "let" "expression expected" 1
  | args =>
    args.foldl (fun s a =>
      if !s.running then s
      else
        match s.workOut "let" a with
        | .ok (n, t) => t.withStatus (if n = 0 then 1 else 0)
        | .error t => t) s

/-! ## Directories -/

/-- The path of a directory as it is named, with what leads up left out. -/
def tidy (path : Raw) : Raw :=
  let step (done : List Raw) (part : Raw) : List Raw :=
    if part.isEmpty || part == "." then done
    else if part == ".." then done.tail
    else part :: done
  "/" ++ "/".intercalate ((path.splitOn "/").foldl step []).reverse

/-- Goes to a directory, and tells where that is if it is asked to. -/
def goTo (s : State) (command target : Raw) (physical tells : Bool) : State :=
  let old := (s.value? "PWD").getD (Tool.pathOf s.home)
  match s.reach target with
  | .error f => s.refuse command (target ++ ": " ++ reason f) 1
  | .ok r =>
    if !r.node.isDirectory then s.refuse command (target ++ ": Not a directory") 1
    else
      let named := if target.startsWith "/" then tidy target else tidy (old ++ "/" ++ target)
      let shown := if physical then Tool.pathOf r.loc else named
      let s := { s with home := r.loc }
      let s := (s.setVariable "OLDPWD" old).setVariable "PWD" shown
      let s := match s.stored? "OLDPWD" with
        | some v => s.putVariable "OLDPWD" { v with exported := true }
        | none => s
      (if tells then s.say (shown ++ "\n") else s).withStatus 0

def richCd (s : State) (args : List Raw) : State :=
  s.withOptions "cd" "LPe@" "" false args fun g =>
    let physical := (g.options.filter fun o => o.2.1 != 'e').getLast?.any fun o => o.2.1 == 'P'
    match g.words with
    | [] =>
      match s.value? "HOME" with
      | none => s.refuse "cd" "HOME not set" 1
      | some home => if home.isEmpty then s.withStatus 0 else s.goTo "cd" home physical false
    | [a] =>
      if a == "-" then
        match s.value? "OLDPWD" with
        | some old => s.goTo "cd" old physical true
        | none => s.refuse "cd" "OLDPWD not set" 1
      else if a.isEmpty then s.withStatus 0
      else
        let isPlain := !(a.startsWith "/" || a.startsWith "./" || a.startsWith "../" || a == "." || a == "..")
        let leads := if isPlain then ((s.value? "CDPATH").getD "").splitOn ":" else []
        let found := (leads.filter (!·.isEmpty)).find? fun d =>
          (s.node? (Tool.inside d a)).any Node.isDirectory
        match found with
        | some d => s.goTo "cd" (Tool.inside d a) physical true
        | none => s.goTo "cd" a physical false
    | _ => s.refuse "cd" "too many arguments" 1

def richPwd (s : State) (args : List Raw) : State :=
  s.withOptions "pwd" "LP" "" false args fun g =>
    let physical := g.options.getLast?.any fun o => o.2.1 == 'P'
    let shown := if physical then Tool.pathOf s.home else (s.value? "PWD").getD (Tool.pathOf s.home)
    (s.withStatus 0).utter "pwd" (Raw.toBytes (shown ++ "\n"))

/-- The directories, the one where the script is first. -/
def directoryList (s : State) : List Raw :=
  (s.value? "PWD").getD (Tool.pathOf s.home) :: s.riches.directories

def keepDirectories (s : State) (ds : List Raw) : State :=
  { s with riches := { s.riches with directories := ds } }

/-- A path with the home directory shortened. -/
def shortened (s : State) (path : Raw) : Raw :=
  match s.value? "HOME" with
  | some home =>
    if home.isEmpty || home == "/" then path
    else if path == home then "~"
    else if path.startsWith (home ++ "/") then "~" ++ (path.drop home.length).toString
    else path
  | none => path

def showDirectories (s : State) : State :=
  (s.withStatus 0).say (" ".intercalate (s.directoryList.map s.shortened) ++ "\n")

/-- The place in the list of directories that a word with a sign stands for. -/
def directoryIndex? (s : State) (word : Raw) : Option (Option Nat) :=
  match word.toList with
  | sign :: ds =>
    if (sign == '+' || sign == '-') && !ds.isEmpty && ds.all Char.isDigit then
      let n := Tool.numeral ds
      let size := s.directoryList.length
      some (if size ≤ n then none else some (if sign == '+' then n else size - 1 - n))
    else none
  | [] => none

/-- Puts the directories behind the first, and goes to the first. -/
def turnTo (s : State) (command : Raw) (ds : List Raw) : State :=
  match ds with
  | [] => s
  | d :: rest =>
    let t := s.goTo command d false false
    if t.status != 0 then t else (t.keepDirectories rest).showDirectories

def pushd (s : State) (args : List Raw) : State :=
  let stays := args.contains "-n"
  let args := behindMark (args.filter (· != "-n"))
  match args with
  | [] =>
    match s.directoryList with
    | a :: b :: rest => if stays then s.withStatus 0 else s.turnTo "pushd" (b :: a :: rest)
    | _ => s.refuse "pushd" "no other directory" 1
  | a :: _ =>
    match s.directoryIndex? a with
    | some (some n) =>
      let ds := s.directoryList
      s.turnTo "pushd" (ds.drop n ++ ds.take n)
    | some none =>
      let what := if s.riches.directories.isEmpty then "directory stack empty"
        else a ++ ": directory stack index out of range"
      s.refuse "pushd" what 1
    | none =>
      if stays then (s.keepDirectories (a :: s.riches.directories)).showDirectories
      else
        let here := s.directoryList
        let t := s.goTo "pushd" a false false
        if t.status != 0 then t else (t.keepDirectories here).showDirectories

def popd (s : State) (args : List Raw) : State :=
  let stays := args.contains "-n"
  let args := behindMark (args.filter (· != "-n"))
  if s.riches.directories.isEmpty then s.refuse "popd" "directory stack empty" 1
  else
    match args with
    | [] =>
      if stays then (s.keepDirectories s.riches.directories.tail).showDirectories
      else s.turnTo "popd" s.riches.directories
    | a :: _ =>
      match s.directoryIndex? a with
      | some (some 0) => s.turnTo "popd" s.riches.directories
      | some (some n) => (s.keepDirectories (s.riches.directories.eraseIdx (n - 1))).showDirectories
      | some none => s.refuse "popd" (a ++ ": directory stack index out of range") 1
      | none => (s.refuse "popd" (a ++ ": invalid argument") 1).showUsage "popd"

def dirs (s : State) (args : List Raw) : State :=
  let indexed := args.find? fun a => (s.directoryIndex? a).isSome
  match indexed with
  | some a =>
    match s.directoryIndex? a with
    | some (some n) => (s.withStatus 0).say (s.shortened ((s.directoryList[n]?).getD "") ++ "\n")
    | _ => s.refuse "dirs" (a ++ ": directory stack index out of range") 1
  | none =>
    s.withOptions "dirs" "clpv" "" false args fun g =>
      if g.has 'c' then (s.keepDirectories []).withStatus 0
      else
        let show_ (d : Raw) : Raw := if g.has 'l' then d else s.shortened d
        let ds := s.directoryList.map show_
        let s := s.withStatus 0
        if g.has 'v' then
          s.say (String.join ((ds.zipIdx 0).map fun (d, n) =>
            String.ofList (List.replicate (2 - (toString n).length) ' ') ++ toString n ++ "  " ++ d ++ "\n"))
        else if g.has 'p' then s.say (String.join (ds.map (· ++ "\n")))
        else s.say (" ".intercalate ds ++ "\n")

/-! ## Signals -/

/-- The signals that only rich scripts know, which no process sends. -/
def ownSignals : List (Raw × Nat) := [("DEBUG", 65), ("ERR", 66), ("RETURN", 67)]

/-- The number of a signal, whose name may have its long form. -/
def richSignal? (spec : Raw) : Option Nat :=
  let name := String.ofList (spec.toList.map Char.toUpper)
  let plain := if name.startsWith "SIG" then (name.drop 3).toString else name
  (signalNumber? plain).or (ownSignals.lookup plain)

def richSignalName (n : Nat) : Raw :=
  if n = 0 then "EXIT"
  else
    match ownSignals.find? (·.2 = n) with
    | some (name, _) => name
    | none => "SIG" ++ (signalNames[n - 1]?).getD (toString n)

/-- All signals, five on a line. -/
def signalTable : Raw :=
  let extra : List Raw := (List.range 31).map fun k =>
    let n := k + 34
    if n = 34 then "RTMIN" else if n = 64 then "RTMAX"
    else if n < 50 then "RTMIN+" ++ toString (n - 34) else "RTMAX-" ++ toString (64 - n)
  let numbered := (signalNames.zipIdx 1).map (fun (n, k) => (k, n)) ++ (extra.zipIdx 34).map fun (n, k) => (k, n)
  let cell (c : Nat × Raw) : Raw :=
    (if c.1 < 10 then " " else "") ++ toString c.1 ++ ") SIG" ++ c.2
  let rec rows : Nat → List Raw → List Raw
    | 0, _ => []
    | fuel + 1, cs => if cs.isEmpty then [] else "\t".intercalate (cs.take 5) :: rows fuel (cs.drop 5)
  String.join ((rows 20 (numbered.map cell)).map (· ++ "\n"))

def richTrap (s : State) (args : List Raw) : State :=
  s.withOptions "trap" "lp" "" false args fun g =>
    let shown (t : Nat × Raw) : Raw := "trap -- " ++ Quote.single t.2 ++ " " ++ richSignalName t.1 ++ "\n"
    let sorted := s.traps.mergeSort fun a b => a.1 ≤ b.1
    let s := s.withStatus 0
    let set (action : Option Raw) (specs : List Raw) : State :=
      specs.foldl (fun s spec =>
        match richSignal? spec with
        | none => s.refuse "trap" (spec ++ ": invalid signal specification") 1
        | some n =>
          let others := s.traps.filter (·.1 != n)
          match action with
          | some a => { s with traps := (n, a) :: others }
          | none => { s with traps := others }) s
    if g.has 'l' then s.say signalTable
    else if g.has 'p' && !g.words.isEmpty then
      g.words.foldl (fun s spec =>
        match richSignal? spec with
        | none => s.refuse "trap" (spec ++ ": invalid signal specification") 1
        | some n =>
          match s.traps.lookup n with
          | some a => s.say (shown (n, a))
          | none => s) s
    else
      match g.words with
      | [] => s.say (String.join (sorted.map shown))
      | [spec] =>
        if (richSignal? spec).isSome then set none [spec] else s.showUsage "trap"
      | action :: specs =>
        if action == "-" then set none specs
        else if Tool.isNumeral action && (richSignal? action).isSome then set none (action :: specs)
        else set (some action) specs

def richSend (s : State) (signal : Nat) (targets : List Raw) : State :=
  targets.foldl (fun s p =>
    let (negative, digits) := match p.toList with
      | '-' :: cs => (true, String.ofList cs)
      | _ => (false, p)
    if p.startsWith "%" then
      match (s.jobNamed? p).filter (!·.known) with
      | some j => (s.killJob j signal).withStatus 0
      | none => s.refuse "kill" (p ++ ": no such job") 1
    else
      match number? digits with
      | none => s.refuse "kill" (p ++ ": arguments must be process or job IDs") 1
      | some pid =>
        if s.selves.contains pid || pid = 0 then
          let target := if pid = 0 then s.self else pid
          if signal = 0 then s.withStatus 0
          else { s with signals := s.signals ++ [(s.clock, target, signal)], status := 0 }
        else
          match s.jobs.find? fun j => j.pid = pid && !negative with
          | some j => (s.killJob j signal).withStatus 0
          | none => s.refuse "kill" ("(" ++ p ++ ") - No such process") 1) s

def richKill (s : State) (args : List Raw) : State :=
  let send (spec : Raw) (targets : List Raw) : State :=
    match richSignal? spec with
    | none => s.refuse "kill" (spec ++ ": invalid signal specification") 1
    | some signal => if targets.isEmpty then s.showUsage "kill" else s.richSend signal targets
  let named (spec : Raw) : Except Raw Raw :=
    if Tool.isNumeral spec then
      let n := Tool.numeral spec.toList
      match signalNames[(if 128 < n then n - 128 else n) - 1]? with
      | some name => .ok name
      | none => .error spec
    else
      match richSignal? spec with
      | some n => .ok (toString n)
      | none => .error spec
  match args with
  | [] => s.showUsage "kill"
  | "-l" :: specs | "-L" :: specs =>
    if specs.isEmpty then (s.withStatus 0).say signalTable
    else
      specs.foldl (fun s spec =>
        match named spec with
        | .ok r => s.say (r ++ "\n")
        | .error e => s.refuse "kill" (e ++ ": invalid signal specification") 1) (s.withStatus 0)
  | "-s" :: spec :: rest | "-n" :: spec :: rest => send spec rest
  | ["-s"] | ["-n"] => s.refuse "kill" (args.head?.getD "" ++ ": option requires an argument") 1
  | "--" :: rest => if rest.isEmpty then s.showUsage "kill" else s.richSend 15 rest
  | a :: rest =>
    match a.toList with
    | '-' :: cs =>
      let spec := match cs with
        | c :: more => if (c == 's' || c == 'n') && !more.isEmpty && (richSignal? (String.ofList cs)).isNone
          then String.ofList more else String.ofList cs
        | [] => ""
      send spec rest
    | _ => s.richSend 15 (a :: rest)

/-- Keeps that a part in the background has been waited for. -/
def knowing (s : State) (j : Job) : State :=
  { s with jobs := s.jobs.map fun (k : Job) => if k.pid = j.pid then { k with known := true } else k }

def richWait (s : State) (args : List Raw) : State :=
  s.withOptions "wait" "fn" "p" false args fun g =>
    let mine := s.jobs.filter fun j => j.parent = s.pid
    if g.words.isEmpty then
      if g.has 'n' then
        match (mine.filter fun j => !j.known).getLast? with
        | none => s.withStatus 127
        | some j =>
          ((s.await j.ends).withStatus j.status).knowing j
      else (mine.foldl (fun s j => if s.running then s.await j.ends else s) s).withStatus 0
    else
      g.words.foldl (fun s p =>
        let named := if p.startsWith "%" then (s.jobNamed? p).map (·.pid) else number? p
        match named with
        | none =>
          if p.startsWith "%" then s.refuse "wait" (p ++ ": no such job") 127
          else s.refuse "wait" ("\x60" ++ p ++ "': not a pid or valid job spec") 1
        | some pid =>
          match s.jobs.find? fun j => j.pid = pid && j.parent = s.pid with
          | none => s.refuse "wait" ("pid " ++ p ++ " is not a child of this shell") 127
          | some j => ((s.await j.ends).withStatus j.status).knowing j) s

/-! ## All of them -/

def richTest (s : State) (bracketed : Bool) (args : List Raw) : State :=
  let name : Raw := if bracketed then "[" else "test"
  if bracketed && args.getLast? != some "]" then s.refuse "[" "missing \x60]'" 2
  else
    match RichTest.holds s (if bracketed then args.dropLast else args) with
    | .ok b => s.withStatus (if b then 0 else 1)
    | .error e => s.refuse name e 2

def richGetopts (s : State) (args : List Raw) : State :=
  match args with
  | _ :: name :: _ =>
    if isName name then s.getOption args
    else s.refuse "getopts" ("\x60" ++ name ++ "': not a valid identifier") 1
  | _ => s.showUsage "getopts"

/-- Tells from where the function that runs has been called. -/
def caller (s : State) (args : List Raw) : State :=
  match args with
  | [] =>
    match s.riches.frames with
    | [] => s.withStatus 1
    | f :: rest =>
      let from_ := (rest.head?.map (·.speaker)).getD "NULL"
      (s.withStatus 0).say (toString f.line ++ " " ++ from_ ++ "\n")
  | a :: _ =>
    match integer? a with
    | none => (s.refuse "caller" (a ++ ": invalid number") 2).showUsage "caller"
    | some n =>
      let frames := s.riches.frames
      match frames[n.toNat]?, frames[n.toNat + 1]? with
      | some f, some g =>
        (s.withStatus 0).say (toString f.line ++ " " ++ g.name ++ " " ++ g.speaker ++ "\n")
      | _, _ => s.withStatus 1

/-- The names of all commands that are run by rich scripts themselves. -/
def richNames : List Raw :=
  [".", ":", "[", "alias", "bg", "bind", "break", "builtin", "caller", "cd", "command", "compgen",
    "complete", "compopt", "continue", "declare", "dirs", "disown", "echo", "enable", "eval", "exec",
    "exit", "export", "false", "fc", "fg", "getopts", "hash", "help", "history", "jobs", "kill", "let",
    "local", "logout", "mapfile", "popd", "printf", "pushd", "pwd", "read", "readarray", "readonly",
    "return", "set", "shift", "shopt", "source", "suspend", "test", "times", "trap", "true", "type",
    "typeset", "ulimit", "umask", "unalias", "unset", "wait"]

/-- Takes commands out of use or puts them back. -/
def enable (s : State) (args : List Raw) : State :=
  s.withOptions "enable" "adnps" "f" false args fun g =>
    let s := s.withStatus 0
    let off := s.riches.disabled
    if g.words.isEmpty then
      let shown := richNames.filter fun n => g.has 'a' || off.contains n == g.has 'n'
      s.say (String.join (shown.map fun n => (if off.contains n then "enable -n " else "enable ") ++ n ++ "\n"))
    else
      g.words.foldl (fun s n =>
        if !richNames.contains n then s.refuse "enable" (n ++ ": not a shell builtin") 1
        else
          let others := s.riches.disabled.filter (· != n)
          { s with riches := { s.riches with disabled := if g.has 'n' then n :: others else others } }) s

/-- Lists the parts that run in the background. -/
def richJobs (s : State) (args : List Raw) : State :=
  s.withOptions "jobs" "lnprsx" "" false args fun g =>
    match g.words.find? fun w => (s.jobNamed? w).isNone with
    | some w => s.refuse "jobs" (w ++ ": no such job") 1
    | none => if g.has 's' then s.withStatus 0 else s.listJobs (if g.has 'p' then ["-p"] else [])

/-- The commands by their names. -/
def richBuiltins : List (Raw × Action) :=
  [(":", fun s _ => s.withStatus 0), ("true", fun s _ => s.withStatus 0),
    ("false", fun s _ => s.withStatus 1), ("exit", richExit), ("return", richReturn),
    ("break", fun s => s.richLeave "break" .broke),
    ("continue", fun s => s.richLeave "continue" .continued), ("shift", richShift), ("let", richLet),
    ("cd", richCd), ("pwd", richPwd), ("pushd", pushd), ("popd", popd), ("dirs", dirs),
    ("trap", richTrap), ("kill", richKill), ("wait", richWait), ("test", fun s => s.richTest false),
    ("[", fun s => s.richTest true), ("getopts", richGetopts), ("caller", caller), ("enable", enable),
    ("echo", richEcho), ("printf", richPrintf), ("read", richRead), ("mapfile", mapfile "mapfile"),
    ("readarray", mapfile "readarray"), ("unset", richUnset), ("set", setRich), ("shopt", shopt),
    ("umask", richMask), ("ulimit", richLimit), ("alias", richAlias), ("unalias", richUnalias),
    ("jobs", richJobs),
    ("times", fun s _ => (s.say "0m0.000s 0m0.000s\n0m0.000s 0m0.000s\n").withStatus 0),
    ("fg", fun s _ => s.refuse "fg" "no job control" 1),
    ("bg", fun s _ => s.refuse "bg" "no job control" 1),
    ("disown", fun s _ => if s.jobs.isEmpty then s.refuse "disown" "current: no such job" 1
      else s.withStatus 0),
    ("suspend", fun s _ => s.refuse "suspend" "cannot suspend: no job control" 1),
    ("logout", fun s _ => s.refuse "logout" "not login shell: use \x60exit'" 1),
    ("history", fun s _ => s.withStatus 0), ("fc", fun s _ => s.withStatus 0),
    ("complete", fun s _ => s.withStatus 0), ("compopt", fun s _ => s.withStatus 0),
    ("compgen", fun s _ => s.withStatus 0),
    ("bind", fun s _ => s.refuse "bind" "warning: line editing not enabled" 0),
    ("help", fun s args => s.refuse "help"
      ("no help topics match \x60" ++ args.head?.getD "" ++ "'.  Try \x60help help' or \x60man -k " ++
        args.head?.getD "" ++ "' or \x60info " ++ args.head?.getD "" ++ "'.") 1)]

/-- Whether a rich script runs a command of this name itself. -/
def isRichBuiltin (s : State) (name : Raw) : Bool :=
  richNames.contains name && !s.riches.disabled.contains name

/-- The commands that declare variables. -/
def declarers : List Raw := ["declare", "typeset", "local", "export", "readonly"]

end State

end Host.Shell

end PolicyGate
