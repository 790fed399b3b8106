import PolicyGate.Host.Account
import PolicyGate.Host.Tool.Basic

/-!
# Tools that tell who runs them and on what

They tell of accounts and their groups, and of the machine. Everything is run by the first account,
and nobody has logged in.
-/

namespace PolicyGate

namespace Host.Tool

/-- A tool that has no options and takes no operands. -/
def alone (name : String) (status : Nat) (result : Ran) (args : List Raw) : Ran :=
  let k : Known := { tool := name, refusal := status }
  k.run args fun o =>
    match o.operands with
    | [] => result
    | extra :: _ => k.refuse ("extra operand " ++ quoted extra)

/-! ## Accounts -/

def idKnown : Known :=
  { tool := "id", plain := "agGnruZz"
    long := [("user", 'u'), ("group", 'g'), ("groups", 'G'), ("name", 'n'), ("real", 'r'), ("zero", 'z'),
      ("context", 'Z')] }

/-- A number with the name that belongs to it. -/
def numberWithName (number : Nat) (name : String) : Raw := toString number ++ "(" ++ name ++ ")"

/-- What is shown of an account. -/
def idText (o : Options) (a : Account) : Raw :=
  let group := Group.nameOf a.group
  if o.has 'u' then (if o.has 'n' then a.name else toString a.number)
  else if o.has 'g' || o.has 'G' then (if o.has 'n' then group else toString a.group)
  else
    "uid=" ++ numberWithName a.number a.name ++ " gid=" ++ numberWithName a.group group ++ " groups=" ++
      numberWithName a.group group

/-- What is shown of each account, or a complaint about a word that is none. -/
def ofAccounts (tool : String) (words : List Raw) (show_ : Account → Raw) : Ran :=
  let found := words.map fun w => (w, Account.named? w)
  { writes := found.map fun (w, a) =>
      match a with
      | some a => (false, Raw.toBytes (show_ a))
      | none => complaint (tool ++ ": '" ++ w ++ "': no such user")
    status := if found.all (·.2.isSome) then 0 else 1 }

def identity (args : List Raw) : Ran :=
  let k := idKnown
  k.run args fun o =>
    let chosen := "ugG".toList.filter o.has
    if o.has 'Z' then complain "id: --context (-Z) works only on an SELinux-enabled kernel" 1
    else if 1 < chosen.length then complain "id: cannot print \"only\" of more than one choice" 1
    else if chosen.isEmpty && (o.has 'n' || o.has 'r') then
      complain "id: cannot print only names or real IDs in default format" 1
    else if chosen.isEmpty && o.has 'z' then
      complain "id: option --zero not permitted in default format" 1
    else
      let ending := if o.has 'z' then "\x00" else "\n"
      let words := if o.operands.isEmpty then ["root"] else o.operands
      ofAccounts "id" words fun a =>
        idText o a ++ ending ++ if o.has 'z' && o.has 'G' && 1 < words.length then ending else ""

def groups (args : List Raw) : Ran :=
  let k : Known := { tool := "groups" }
  k.run args fun o =>
    if o.operands.isEmpty then said "root\n" 0
    else ofAccounts "groups" o.operands fun a => a.name ++ " : " ++ Group.nameOf a.group ++ "\n"

def whoami : List Raw → Ran := alone "whoami" 1 (said "root\n" 0)

def logname : List Raw → Ran := alone "logname" 1 (complain "logname: no login name" 1)

def tty (args : List Raw) : Ran :=
  let k : Known :=
    { tool := "tty", plain := "s", long := [("silent", 's'), ("quiet", 's')], refusal := 2 }
  k.run args fun o =>
    match o.operands with
    | [] => if o.has 's' then silent 1 else said "not a tty\n" 1
    | extra :: _ => k.refuse ("extra operand " ++ quoted extra)

def users (args : List Raw) : Ran :=
  let k : Known := { tool := "users" }
  k.run args fun o =>
    match o.operands with
    | _ :: extra :: _ => k.refuse ("extra operand " ++ quoted extra)
    | _ => silent 0

def who (args : List Raw) : Ran :=
  let k : Known :=
    { tool := "who", plain := "abdHlmpqrstTuw"
      long := [("all", 'a'), ("boot", 'b'), ("count", 'q'), ("dead", 'd'), ("heading", 'H'),
        ("login", 'l'), ("message", 'T'), ("mesg", 'T'), ("process", 'p'), ("runlevel", 'r'),
        ("short", 's'), ("time", 't'), ("users", 'u'), ("writable", 'T'), ("lookup", 's')] }
  k.run args fun o =>
    match o.operands with
    | _ :: _ :: extra :: _ => k.refuse ("extra operand " ++ quoted extra)
    | _ =>
      if o.has 'q' then said "\n# users=0\n" 0
      else if o.has 'H' then said "NAME     LINE         TIME             COMMENT\n" 0
      else silent 0

/-! ## The machine -/

/-- What is told of the machine, by the letter that asks for it, in the order in which it is told. -/
def machineFacts : List (Char × Raw) :=
  [('s', "Linux"), ('n', "localhost"), ('r', "6.1.0"), ('v', "#1 SMP PREEMPT_DYNAMIC"), ('m', "x86_64"),
    ('p', "x86_64"), ('i', "x86_64"), ('o', "GNU/Linux")]

def uname (args : List Raw) : Ran :=
  let k : Known :=
    { tool := "uname", plain := "asnrvmpio"
      long := [("all", 'a'), ("kernel-name", 's'), ("sysname", 's'), ("nodename", 'n'),
        ("kernel-release", 'r'), ("release", 'r'), ("kernel-version", 'v'), ("machine", 'm'),
        ("processor", 'p'), ("hardware-platform", 'i'), ("operating-system", 'o')] }
  k.run args fun o =>
    match o.operands with
    | extra :: _ => k.refuse ("extra operand " ++ quoted extra)
    | [] =>
      let asked := machineFacts.filter fun f => o.has 'a' || o.has f.1
      said (" ".intercalate (if o.given.isEmpty then ["Linux"] else asked.map (·.2)) ++ "\n") 0

def arch : List Raw → Ran := alone "arch" 1 (said "x86_64\n" 0)

def hostid : List Raw → Ran := alone "hostid" 1 (said "007f0100\n" 0)

/-- How many programs run at once. -/
def processors : Nat := 4

def nproc (args : List Raw) : Ran :=
  let k : Known :=
    { tool := "nproc", plain := "\x01", withArgument := "\x02"
      long := [("all", '\x01'), ("ignore", '\x02')] }
  k.run args fun o =>
    match o.operands, (o.values '\x02').find? fun v => !isNumeral v with
    | _, some v => complain ("nproc: invalid number: " ++ quoted v) 1
    | extra :: _, _ => k.refuse ("extra operand " ++ quoted extra)
    | [], none =>
      let ignored := ((o.value? '\x02').map fun v => numeral v.toList).getD 0
      said (toString (max 1 (processors - ignored)) ++ "\n") 0

def hostname (args : List Raw) : Ran :=
  let k : Known := { tool := "hostname", plain := "aAdfiIsy", long := [("fqdn", 'f'), ("short", 's')] }
  k.run args fun _ => said "localhost\n" 0

end Host.Tool

end PolicyGate
