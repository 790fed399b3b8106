import PolicyGate.Host.Shell.State
import PolicyGate.Host.Tool.Say

/-!
# Programs that start others

What such a program is asked to do is read from its arguments first: the variables and the directory
that a command is given, how long it may take, or how an input is shared out among several commands.
-/

namespace PolicyGate

namespace Host.Shell

namespace Launch

open Tool

/-! ## Other surroundings -/

/-- What a command is given instead of what it would have. -/
structure Surroundings where
  clears : Bool := false
  dropped : List Raw := []
  given : List (Raw × Raw) := []
  directory : Option Raw := none
  /-- Whether names and values are listed with zeros at their ends. -/
  zeros : Bool := false
  command : List Raw := []

def surroundingsKnown : Known :=
  { tool := "env", plain := "i0v", withArgument := "uCS", refusal := 125, mixed := false
    long := [("ignore-environment", 'i'), ("null", '0'), ("unset", 'u'), ("chdir", 'C'),
      ("split-string", 'S'), ("debug", 'v')] }

/-- Cuts a text into words. Quotes keep blanks in a word, and a backslash what comes behind it. -/
def splitWords (value? : Raw → Option Raw) : Nat → Option (List Char) → List Char → List Raw
  | 0, _, _ => []
  | _ + 1, w, [] => (w.map fun cs => String.ofList cs.reverse).toList
  | fuel + 1, w, c :: cs =>
    let opened := w.getD []
    if c == ' ' || c == '\t' || c == '\n' then
      (w.map fun cs => String.ofList cs.reverse).toList ++ splitWords value? fuel none cs
    else if c == '\'' || c == '"' then
      let inside := cs.takeWhile (· != c)
      splitWords value? fuel (some (inside.reverse ++ opened)) (cs.drop (inside.length + 1))
    else if c == '#' && w.isNone then []
    else if c == '\\' then
      match cs with
      | '_' :: rest => if w.isSome then splitWords value? fuel none (' ' :: rest)
        else splitWords value? fuel none rest
      | 'n' :: rest => splitWords value? fuel (some ('\n' :: opened)) rest
      | 't' :: rest => splitWords value? fuel (some ('\t' :: opened)) rest
      | 'c' :: _ => (w.map fun cs => String.ofList cs.reverse).toList
      | d :: rest => splitWords value? fuel (some (d :: opened)) rest
      | [] => splitWords value? fuel w []
    else if c == '$' then
      match cs with
      | '{' :: rest =>
        let name := rest.takeWhile (· != '}')
        let value := (value? (String.ofList name)).getD ""
        splitWords value? fuel (some (value.toList.reverse ++ opened)) (rest.drop (name.length + 1))
      | _ => splitWords value? fuel (some (c :: opened)) cs
    else splitWords value? fuel (some (c :: opened)) cs

/-- The words of `env` with those that stand in one word split. -/
def withSplit (value? : Raw → Option Raw) : Nat → List Raw → List Raw
  | 0, ws => ws
  | fuel + 1, ws =>
    let split (text : Raw) : List Raw := splitWords value? (text.length + 2) none text.toList
    match ws with
    | "-S" :: text :: rest => withSplit value? fuel (split text ++ rest)
    | a :: rest =>
      if a.startsWith "-S" then withSplit value? fuel (split (a.drop 2).toString ++ rest)
      else if a.startsWith "--split-string=" then
        withSplit value? fuel (split (a.drop 15).toString ++ rest)
      else if a.startsWith "-" && a != "-" && a != "--" then
        match a.toList with
        | ['-', 'u'] | ['-', 'C'] =>
          match rest with
          | b :: rest => a :: b :: withSplit value? fuel rest
          | [] => [a]
        | _ => a :: withSplit value? fuel rest
      else a :: rest
    | [] => []

/-- Reads the arguments of `env`. -/
def surroundings (value? : Raw → Option Raw) (args : List Raw) : Except Ran Surroundings :=
  let k := surroundingsKnown
  let args := withSplit value? (args.length + 8) args
  match k.read args with
  | .error r => .error r
  | .ok o =>
    let clears := o.has 'i' || o.operands.head? == some "-"
    let operands := if o.operands.head? == some "-" then o.operands.tail else o.operands
    let isAssignment (a : Raw) : Bool := a.toList.contains '='
    let pairs := (operands.takeWhile isAssignment).map fun a =>
      let name := String.ofList (a.toList.takeWhile (· != '='))
      (name, String.ofList (a.toList.drop (name.length + 1)))
    let command := operands.dropWhile isAssignment
    let badName := (o.values 'u').find? fun n => n.isEmpty || n.toList.contains '='
    match badName with
    | some n => .error (complain ("env: cannot unset " ++ quoted n ++ ": Invalid argument") 125)
    | none =>
      if o.has '0' && !command.isEmpty then
        .error (k.refuse "cannot specify --null (-0) with command")
      else if (o.value? 'C').isSome && command.isEmpty then
        .error (k.refuse "must specify command with --chdir (-C)")
      else
        .ok { clears, dropped := o.values 'u', given := pairs, directory := o.value? 'C'
              zeros := o.has '0', command }

/-! ## Limits -/

/-- How long a command may take, and what becomes of it then. -/
structure Limit where
  ms : Nat
  signal : Nat := 15
  /-- When it is killed if it goes on all the same. -/
  killAfter : Option Nat := none
  /-- Whether its own status counts. -/
  keepsStatus : Bool := false
  tells : Bool := false
  command : List Raw := []

def limitKnown : Known :=
  { tool := "timeout", plain := "vp", withArgument := "ks", refusal := 125, mixed := false
    long := [("preserve-status", 'p'), ("foreground", 'f'), ("kill-after", 'k'), ("signal", 's'),
      ("verbose", 'v')] }

def limit (args : List Raw) : Except Ran Limit :=
  let k := limitKnown
  let badTime (r : Raw) : Ran := k.refuse ("invalid time interval " ++ quoted r)
  match k.read args with
  | .error r => .error r
  | .ok o =>
    let signal : Except Ran Nat := match o.value? 's' with
      | some name =>
        let plain := if name.startsWith "SIG" then (name.drop 3).toString else name
        match State.signalNumber? plain with
        | some n => .ok n
        | none => .error (k.refuse (quoted name ++ ": invalid signal"))
      | none => .ok 15
    let killAfter : Except Ran (Option Nat) := match o.value? 'k' with
      | some d =>
        match durationMs? d with
        | some ms => .ok (some ms)
        | none => .error (badTime d)
      | none => .ok none
    match signal, killAfter, o.operands with
    | .error r, _, _ | _, .error r, _ => .error r
    | _, _, [] | _, _, [_] => .error (complain ((k.hint.drop 1).toString) 125)
    | .ok signal, .ok killAfter, d :: command =>
      match durationMs? d with
      | none => .error (badTime d)
      | some ms =>
        .ok { ms, signal, killAfter, keepsStatus := o.has 'p', tells := o.has 'v', command }

/-! ## Batches -/

/-- How an input is shared out among commands. -/
structure Batch where
  /-- The most words of a command. -/
  size : Option Nat := none
  /-- The most lines of a command. -/
  lines : Option Nat := none
  /-- The mark in the command that each line is put in for. -/
  mark : Option Raw := none
  separator : Option Char := none
  /-- The word that ends the input. -/
  last : Option Raw := none
  skipsEmpty : Bool := false
  tells : Bool := false
  file : Option Raw := none
  /-- The most bytes of a command. -/
  room : Nat := 131072
  command : List Raw := []

def batchKnown : Known :=
  { tool := "xargs", plain := "0rtxpo", withArgument := "aEdILnsP", optional := "eil", mixed := false
    long := [("null", '0'), ("arg-file", 'a'), ("delimiter", 'd'), ("eof", 'e'), ("replace", 'i'),
      ("max-lines", 'l'), ("max-args", 'n'), ("max-procs", 'P'), ("interactive", 'p'),
      ("no-run-if-empty", 'r'), ("max-chars", 's'), ("verbose", 't'), ("exit", 'x'),
      ("open-tty", 'o')] }

/-- The character that a separator stands for. -/
def separator? (r : Raw) : Option Char :=
  match r.toList with
  | [c] => some c
  | '\\' :: cs =>
    match cs with
    | ['n'] => some '\n'
    | ['t'] => some '\t'
    | ['0'] => some '\x00'
    | ['r'] => some '\r'
    | ['\\'] => some '\\'
    | 'x' :: ds => some (Char.ofNat (ds.foldl (fun n d => n * 16 + (Double.hexDigit? d).getD 0) 0))
    | ds => if !ds.isEmpty && ds.all Char.isDigit then
        some (Char.ofNat (ds.foldl (fun n d => n * 8 + (d.toNat - 48)) 0)) else none
  | _ => none

def batch (args : List Raw) : Except Ran Batch :=
  let k := batchKnown
  match k.read args with
  | .error r => .error r
  | .ok o =>
    let step (acc : Except Ran Batch) (g : Char × Raw) : Except Ran Batch := do
      let b ← acc
      let number (least : Nat) : Except Ran Nat :=
        if !isNumeral g.2 then
          .error (k.refuse ("invalid number \"" ++ g.2 ++ "\" for -" ++ g.1.toString ++ " option"))
        else if numeral g.2.toList < least then
          .error (k.refuse ("value " ++ g.2 ++ " for -" ++ g.1.toString ++ " option should be >= " ++
            toString least))
        else .ok (numeral g.2.toList)
      match g.1 with
      | '0' => return { b with separator := some '\x00' }
      | 'r' => return { b with skipsEmpty := true }
      | 't' => return { b with tells := true }
      | 'a' => return { b with file := some g.2 }
      | 'E' => return { b with last := if g.2.isEmpty then none else some g.2 }
      | 'e' => return { b with last := if g.2.isEmpty then none else some g.2 }
      | 'I' => return { b with mark := some g.2 }
      | 'i' => return { b with mark := some (if g.2.isEmpty then "\x7b\x7d" else g.2) }
      | 'n' => return { b with size := some (← number 1), lines := none, mark := none }
      | 'L' => return { b with lines := some (← number 1), size := none, mark := none }
      | 'l' =>
        if g.2.isEmpty then return { b with lines := some 1, size := none, mark := none }
        else return { b with lines := some (← number 1), size := none, mark := none }
      | 's' => return { b with room := ← number 1 }
      | 'P' => do
        let _ ← number 0
        return b
      | 'd' =>
        match separator? g.2 with
        | some c => return { b with separator := some c }
        | none =>
          throw (complain ("xargs: Invalid input delimiter specification " ++ g.2 ++
            ": the delimiter must be either a single character or an escape sequence starting with \\.") 1)
      | _ => return b
    (o.given.foldl step (.ok {})).map fun b =>
      { b with command := if o.operands.isEmpty then ["echo"] else o.operands }

/-- Cuts an input into items, and says of each whether its line ends behind it. Quotes and backslashes
keep blanks in an item; with `whole` an item is a line. -/
def items (whole : Bool) : Nat → Option (List Char) → List Char → Except Raw (List (Raw × Bool))
  | 0, _, _ => .ok []
  | fuel + 1, w, cs =>
    let done (ends : Bool) : List (Raw × Bool) :=
      (w.map fun cs => (String.ofList cs.reverse, ends)).toList
    match cs with
    | [] => .ok (done true)
    | c :: rest =>
      if c == '\n' then (items whole fuel none rest).map (done true ++ ·)
      else if (c == ' ' || c == '\t') && !(whole && w.isSome) then
        (items whole fuel none rest).map (done false ++ ·)
      else if c == '\'' || c == '"' then
        let inside := rest.takeWhile fun d => d != c && d != '\n'
        match rest.drop inside.length with
        | d :: rest =>
          if d == c then items whole fuel (some (inside.reverse ++ w.getD [])) rest
          else .error (unmatched c)
        | [] => .error (unmatched c)
      else if c == '\\' then
        match rest with
        | d :: rest => items whole fuel (some (d :: w.getD [])) rest
        | [] => items whole fuel w []
      else items whole fuel (some (c :: w.getD [])) rest
where
  unmatched (c : Char) : Raw :=
    "xargs: unmatched " ++ (if c == '"' then "double" else "single") ++
      " quote; by default quotes are special to xargs unless you use the -0 option"

/-- Shares words out, given how many words and bytes there is room for. -/
def chunksOf (size room : Nat) : Nat → List Raw → Nat → List Raw → List (List Raw)
  | 0, _, _, _ => []
  | _ + 1, open_, _, [] => if open_.isEmpty then [] else [open_.reverse]
  | fuel + 1, open_, used, w :: ws =>
    let more := used + w.length + 1
    if open_.length < size && (more ≤ room || open_.isEmpty) then
      chunksOf size room fuel (w :: open_) more ws
    else open_.reverse :: chunksOf size room fuel [] 0 (w :: ws)

/-- The words of each number of lines. -/
def linesOf (count : Nat) : Nat → List Raw → Nat → List (Raw × Bool) → List (List Raw)
  | 0, _, _, _ => []
  | _ + 1, open_, _, [] => if open_.isEmpty then [] else [open_.reverse]
  | fuel + 1, open_, n, (w, ends) :: rest =>
    let n := if ends then n + 1 else n
    if n = count then (w :: open_).reverse :: linesOf count fuel [] 0 rest
    else linesOf count fuel (w :: open_) n rest

/-- The commands that an input is shared out among. -/
def batches (b : Batch) (input : Raw) : Except Raw (List (List Raw)) :=
  let all : Except Raw (List (Raw × Bool)) := match b.separator with
    | some c =>
      let parts := input.splitOn c.toString
      .ok ((if parts.getLast? == some "" then parts.dropLast else parts).map (·, true))
    | none => items b.mark.isSome (input.length + 2) none input.toList
  match all with
  | .error e => .error e
  | .ok all =>
    let all : List (Raw × Bool) := match b.last with
      | some l => if b.separator.isNone then all.takeWhile (·.1 != l) else all
      | none => all
    let fixed := (b.command.map fun w => w.length + 1).foldl (· + ·) 0
    match b.mark, b.lines with
    | some m, _ =>
      .ok (all.map fun (l, _) => b.command.map fun w => l.intercalate (w.splitOn m))
    | none, some n =>
      if all.isEmpty then .ok (if b.skipsEmpty then [] else [b.command])
      else .ok ((linesOf n (all.length + 1) [] 0 all).map (b.command ++ ·))
    | none, none =>
      let words := all.map (·.1)
      if words.any fun w => b.room < fixed + w.length + 1 then .error "xargs: argument line too long"
      else if words.isEmpty then .ok (if b.skipsEmpty then [] else [b.command])
      else
        let size := b.size.getD (words.length + 1)
        .ok ((chunksOf size (b.room - fixed) (2 * words.length + 2) [] 0 words).map (b.command ++ ·))

/-! ## Programs that change little -/

/-- The command behind the options of a program that starts it, or what is wrong. -/
def plainCommand (program : Raw) (args : List Raw) : Except Ran (List Raw) :=
  let read (k : Known) (check : Options → Option Ran) : Except Ran (List Raw) :=
    match k.read args with
    | .error r => .error r
    | .ok o =>
      match check o with
      | some r => .error r
      | none => .ok o.operands
  if program == "nohup" then
    let k : Known := { tool := "nohup", refusal := 125, mixed := false }
    read k fun o => if o.operands.isEmpty then some (k.refuse "missing operand") else none
  else if program == "setsid" then
    let k : Known := { tool := "setsid", plain := "cfw", refusal := 1, mixed := false }
    read k fun o => if o.operands.isEmpty then some (k.refuse "no command specified") else none
  else if program == "stdbuf" then
    let k : Known :=
      { tool := "stdbuf", withArgument := "ioe", refusal := 125, mixed := false
        long := [("input", 'i'), ("output", 'o'), ("error", 'e')] }
    read k fun o =>
      match o.given.find? fun g => g.2 != "L" && (count? g.2).isNone with
      | some g => some (complain ("stdbuf: invalid mode " ++ quoted g.2) 125)
      | none =>
        if o.operands.isEmpty then some (k.refuse "missing operand")
        else if o.given.isEmpty then some (k.refuse "you must specify a buffering mode option")
        else none
  else
    let args := match args with
      | a :: rest =>
        match a.toList with
        | '-' :: c :: cs => if c.isDigit then "-n" :: String.ofList (c :: cs) :: rest else args
        | _ => args
      | [] => []
    let k : Known :=
      { tool := "nice", withArgument := "n", refusal := 125, mixed := false
        long := [("adjustment", 'n')] }
    match k.read args with
    | .error r => .error r
    | .ok o =>
      let bad := (o.value? 'n').filter fun v =>
        !isNumeral (if v.startsWith "-" || v.startsWith "+" then (v.drop 1).toString else v)
      match bad, o.operands with
      | some v, _ => .error (complain ("nice: invalid adjustment " ++ quoted v) 125)
      | none, [] =>
        if (o.value? 'n').isSome then .error (k.refuse "a command must be given with an adjustment")
        else .error (said "0\n" 0)
      | none, command => .ok command

/-- How a program says that it could not start another. -/
def failure (program command : Raw) (what : Raw) : Raw :=
  if program == "xargs" then "xargs: " ++ command ++ ": " ++ what
  else if program == "setsid" then "setsid: failed to execute " ++ command ++ ": " ++ what
  else if program == "timeout" || program == "nohup" || program == "stdbuf" then
    program ++ ": failed to run command " ++ quoted command ++ ": " ++ what
  else program ++ ": " ++ quoted command ++ ": " ++ what

end Launch

end Host.Shell

end PolicyGate
