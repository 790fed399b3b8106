import PolicyGate.Host.Shell.State
import PolicyGate.Host.Tool.Mode

/-!
# Settings of a script

Its options, what new files may not be used for, and the names that stand for other texts.
-/

namespace PolicyGate

namespace Host.Shell

namespace State

/-! ## Words as numbers -/

/-- A number that a command asks for, within thirty-one bits. -/
def number? (r : Raw) : Option Nat :=
  if Tool.isNumeral r && Tool.numeral r.toList < Width.of31 then some (Tool.numeral r.toList) else none

/-- Ends the script because a word is no number. -/
def refuseNumber (s : State) (command word : Raw) : State :=
  s.abort (command ++ ": Illegal number: " ++ word)

/-- A text in single quotes, in which a quote stands in double quotes. -/
def quotedText (r : Raw) : Raw :=
  "'" ++ "'\"'\"'".intercalate (r.splitOn "'") ++ "'"

/-! ## Options -/

/-- The options of the script, by their letters and names. -/
def optionNames : List (Char × Raw) :=
  [('e', "errexit"), ('f', "noglob"), ('I', "ignoreeof"), ('i', "interactive"), ('m', "monitor"),
    ('n', "noexec"), ('s', "stdin"), ('x', "xtrace"), ('v', "verbose"), ('V', "vi"), ('E', "emacs"),
    ('C', "noclobber"), ('a', "allexport"), ('b', "notify"), ('u', "nounset"), ('p', "privileged"),
    ('l', "nolog"), ('d', "debug")]

/-- Sets an option or not. The letters of those that are set come in the reverse of the order in which
they are listed. -/
def setOption (s : State) (c : Char) (on : Bool) : State :=
  let cs := if on then c :: s.options else s.options.filter (· != c)
  { s with options := (optionNames.reverse.map (·.1)).filter cs.contains }

/-- All options and whether they are set, in words or as commands that set them. -/
def optionList (s : State) (asCommands : Bool) : Raw :=
  let line (o : Char × Raw) : Raw :=
    let on := s.options.contains o.1
    if asCommands then "set " ++ (if on then "-o " else "+o ") ++ o.2 ++ "\n"
    else
      o.2 ++ String.ofList (List.replicate (16 - o.2.length) ' ') ++ (if on then "on" else "off") ++ "\n"
  (if asCommands then "" else "Current option settings\n") ++ String.join (optionNames.map line)

/-- The variables and their values. -/
def variableList (s : State) : Raw :=
  let sorted := s.vars.mergeSort fun a b => a.1 ≤ b.1
  String.join (sorted.filterMap fun (n, v) => v.value.map fun r => n ++ "=" ++ quotedText r ++ "\n")

/-- Shows the variables, or sets options and arguments. -/
def setOptions (s : State) (args : List Raw) : State :=
  if args.isEmpty then (s.say (variableList s)).withStatus 0 else go s args
where
  go (s : State) : List Raw → State
    | [] => s.withStatus 0
    | a :: rest =>
      if a == "--" then { s with positional := rest, status := 0 }
      else if a == "-" then
        let s := (s.setOption 'x' false).setOption 'v' false
        if rest.isEmpty then s.withStatus 0 else { s with positional := rest, status := 0 }
      else if a == "-o" || a == "+o" then
        match rest with
        | [] => (s.say (optionList s (a == "+o"))).withStatus 0
        | name :: rest =>
          match optionNames.find? (·.2 == name) with
          | some (c, _) => go (s.setOption c (a == "-o")) rest
          | none => s.abort ("set: Illegal option " ++ a ++ " " ++ name)
      else
        match a.toList with
        | sign :: c :: cs =>
          if sign == '-' || sign == '+' then
            match (c :: cs).find? fun c => !(optionNames.any (·.1 == c)) && c != 'o' with
            | some bad => s.abort ("set: Illegal option " ++ String.ofList [sign, bad])
            | none =>
              let letters := (c :: cs).filter (· != 'o')
              let s := letters.foldl (fun s c => s.setOption c (sign == '-')) s
              if (c :: cs).contains 'o' then
                match rest with
                | name :: rest =>
                  match optionNames.find? (·.2 == name) with
                  | some (c, _) => go (s.setOption c (sign == '-')) rest
                  | none => s.abort ("set: Illegal option " ++ sign.toString ++ "o " ++ name)
                | [] => (s.say (optionList s (sign == '+'))).withStatus 0
              else go s rest
          else { s with positional := a :: rest, status := 0 }
        | _ => { s with positional := a :: rest, status := 0 }

/-! ## The mask -/

/-- What the mask lets through, in letters. -/
def maskLetters (mask : Nat) : Raw :=
  let three (shift : Nat) : Raw :=
    let bits := 7 - mask / shift % 8
    String.ofList ((if 4 ≤ bits then ['r'] else []) ++ (if bits / 2 % 2 == 1 then ['w'] else []) ++
      (if bits % 2 == 1 then ['x'] else []))
  "u=" ++ three 64 ++ ",g=" ++ three 8 ++ ",o=" ++ three 1

/-- Shows or sets the mask. -/
def umask (s : State) (args : List Raw) : State :=
  let letters := args.head? == some "-S"
  match if letters then args.tail else args with
  | [] =>
    (s.say ((if letters then maskLetters s.mask else Tool.octal 4 s.mask) ++ "\n")).withStatus 0
  | a :: _ =>
    let cs := a.toList
    if a.startsWith "-" then s.complain ("umask: Illegal option " ++ (a.take 2).toString) 2
    else if cs.head?.any Char.isDigit then
      if cs.all fun c => '0' ≤ c && c ≤ '7' then
        let n := cs.foldl (fun (v : Nat) c => v * 8 + (c.toNat - 48)) 0
        { s with mask := n % 512, status := 0 }
      else s.complain ("umask: Illegal number: " ++ a) 2
    else
      match Tool.modeFunction? 0 a with
      | some f => { s with mask := 0o777 &&& (0o777 ^^^ f false (0o777 ^^^ s.mask)), status := 0 }
      | none => s.complain ("umask: Illegal mode: " ++ a) 2

/-! ## Names for other texts -/

/-- Shows or gives names for texts. -/
def setAlias (s : State) (args : List Raw) : State :=
  let shown (n v : Raw) : Raw := n ++ "=" ++ quotedText v ++ "\n"
  if args.isEmpty then
    (s.say (String.join ((listed s.aliases).map fun (n, v) => shown n v))).withStatus 0
  else
    args.foldl (fun s a =>
      let name := String.ofList (a.toList.takeWhile (· != '='))
      if !name.isEmpty && name.length < a.length then
        let text := String.ofList (a.toList.drop (name.length + 1))
        { s with aliases := (name, text) :: s.aliases.filter (·.1 != name) }
      else
        match s.aliases.lookup a with
        | some v => s.say (shown a v)
        | none => (s.complainPlain ("alias: " ++ a ++ " not found")).withStatus 1) (s.withStatus 0)

/-- Takes names for texts away. -/
def unalias (s : State) (args : List Raw) : State :=
  if args.head? == some "-a" then { s with aliases := [], status := 0 }
  else
    args.foldl (fun s a =>
      if (s.aliases.lookup a).isSome then { s with aliases := s.aliases.filter (·.1 != a) }
      else (s.complainPlain ("unalias: " ++ a ++ " not found")).withStatus 1) (s.withStatus 0)

/-! ## Time and limits -/

/-- Shows the time that has been used, which is next to nothing. -/
def times (s : State) (_ : List Raw) : State :=
  (s.say (String.join (List.replicate 2 "0m0.000000s 0m0.000000s\n"))).withStatus 0

/-- Shows or sets limits. -/
def ulimit (s : State) (args : List Raw) : State :=
  let letters := args.filter fun a => a.startsWith "-" && a != "-H" && a != "-S"
  let value (c : Char) : Raw :=
    match c with
    | 'n' => "1048576"
    | 's' => if args.contains "-H" then "unlimited" else "8192"
    | 'c' => "0"
    | 'l' => "8192"
    | _ => "unlimited"
  match letters.head?.map fun l => (l.drop 1).toString.toList, args.find? fun a => !a.startsWith "-" with
  | some [c], none =>
    if "tfdsmcnlpvwr".toList.contains c then (s.say (value c ++ "\n")).withStatus 0
    else s.complain ("ulimit: Illegal option -" ++ c.toString) 2
  | _, none => (s.say "unlimited\n").withStatus 0
  | _, some a =>
    if Tool.isNumeral a || a == "unlimited" then s.withStatus 0 else s.complain "ulimit: bad number" 2

/-- Lists the parts that run in the background. -/
def listJobs (s : State) (args : List Raw) : State :=
  let mine := (s.jobs.filter fun j => j.parent = s.pid && j.ends.all (s.clock < ·)).reverse
  let line (j : Job) (n : Nat) : Raw :=
    if args.contains "-p" then toString j.pid ++ "\n"
    else
      let mark := if n = mine.length then "+" else if n + 1 = mine.length then "-" else " "
      "[" ++ toString n ++ "] " ++ mark ++ " " ++
        (if args.contains "-l" then toString j.pid ++ " Running              \n"
        else "Running                    \n")
  (s.say (String.join ((mine.zipIdx 1).map fun (j, n) => line j n))).withStatus 0

end State

end Host.Shell

end PolicyGate
