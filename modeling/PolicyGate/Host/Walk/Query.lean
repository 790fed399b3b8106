import PolicyGate.Host.Calendar
import PolicyGate.Host.Regex.Written
import PolicyGate.Host.Tool.Mode

/-!
# Queries on files

A query is asked of each file on a walk. It is built from tests and actions, which are joined by words; the
words have to come in an order that makes sense, and each test has to be given what it compares with.
-/

namespace PolicyGate

namespace Host.Walk

/-- A number to compare with: an equal one is asked for, a larger one or a smaller one. -/
structure Bound where
  how : Ordering
  number : Nat
  deriving DecidableEq, Repr

def Bound.holds (b : Bound) (n : Nat) : Bool := compare n b.number == b.how

inductive Query where
  | always (holds : Bool)
  /-- What the last name, the whole path, and the target of a link are to look like. -/
  | name (pattern : Raw) (folds : Bool)
  | path (pattern : Raw) (folds : Bool)
  | target (pattern : Raw) (folds : Bool)
  | expression (r : Regex) (folds : Bool)
  /-- The letters of the kinds, and whether links are followed. -/
  | kind (letters : List Char) (behind : Bool)
  | empty
  | size (b : Bound) (unit : Nat)
  /-- The age in parts of so many seconds. -/
  | age (b : Bound) (unit : Nat)
  | newer (moment : Int)
  | links (b : Bound)
  | node (number : Nat)
  | inode (b : Bound)
  /-- All of some bits, one of them, or just them. -/
  | mode (how : Char) (bits : Nat)
  | runnable
  | show (ending : Raw)
  | format (form : Raw)
  | long
  /-- A command that is run, in the directory or not, and only if that is wanted. -/
  | run (words : List Raw) (inside asks : Bool)
  /-- A command that is run on many files at once. -/
  | gather (key : Nat) (words : List Raw) (inside : Bool)
  | remove
  | passOver
  | quit
  | not (q : Query)
  | both (a b : Query)
  | either (a b : Query)
  | also (a b : Query)

/-- What is asked for besides the query. -/
structure Setting where
  most : Option Nat := none
  least : Nat := 0
  /-- Whether what is in a directory comes before it. -/
  inwards : Bool := false
  follows : Bool := false
  /-- Whether only the paths that are given are followed. -/
  followsGiven : Bool := false
  /-- Whether something is done with files, so that they need not be shown. -/
  acts : Bool := false

/-- A word of a query. -/
inductive Sign where
  | query (q : Query) (word : Raw)
  | opens
  | closes
  | not (word : Raw)
  | and (word : Raw)
  | or (word : Raw)
  | also

abbrev Read (α : Type) := Except Raw α

/-! ## Tests with what they compare with -/

/-- A number with its sign. -/
def bound? (cs : List Char) : Option (Bound × List Char) :=
  let (how, rest) : Ordering × List Char := match cs with
    | '+' :: rest => (.gt, rest)
    | '-' :: rest => (.lt, rest)
    | rest => (.eq, rest)
  let ds := rest.takeWhile Char.isDigit
  if ds.isEmpty then none else some (⟨how, Tool.numeral ds⟩, rest.drop ds.length)

/-- The whole of a text as a number with its sign. -/
def wholeBound? (r : Raw) : Option Bound :=
  match bound? r.toList with
  | some (b, []) => some b
  | _ => none

def sizeUnit? : List Char → Option Nat
  | [] | ['b'] => some 512
  | ['c'] => some 1
  | ['w'] => some 2
  | ['k'] => some 1024
  | ['M'] => some 1048576
  | ['G'] => some 1073741824
  | _ => none

/-- An expression in the notation of this walk, in which repetitions have no backslash. -/
def plainSigns : List Char → List Char
  | '\\' :: c :: cs => if c == '+' || c == '?' || c == '{' then '[' :: c :: ']' :: plainSigns cs
    else '\\' :: c :: plainSigns cs
  | c :: cs => if c == '+' || c == '?' then '\\' :: c :: plainSigns cs else c :: plainSigns cs
  | [] => []

/-- The letters of kinds, which commas separate. -/
def kinds? (word r : Raw) : Read (List Char) :=
  let bad (cs : List Char) : Read (List Char) :=
    .error ("Unknown argument to " ++ word ++ ": " ++ String.ofList cs)
  let rec go : Nat → List Char → Read (List Char)
    | 0, _ => .ok []
    | fuel + 1, cs =>
      match cs with
      | [c] => if "bcdpflsD".toList.contains c then .ok [c] else bad cs
      | c :: ',' :: rest =>
        if !"bcdpflsD".toList.contains c then bad cs
        else if rest.isEmpty then .error ("Last file type in list argument to " ++ word ++ " is missing, i.e., list is ending on: ','")
        else (go fuel rest).map (c :: ·)
      | _ :: _ => .error ("Must separate multiple arguments to " ++ word ++ " using: ','")
      | [] => .error ("Arguments to " ++ word ++ " should contain at least one letter")
  go (r.length + 1) r.toList

/-- The mode a test compares with, and how. -/
def modeAsked? (r : Raw) : Option (Char × Nat) :=
  let (how, rest) := match r.toList with
    | '-' :: rest => ('-', rest)
    | '/' :: rest => ('/', rest)
    | rest => ('=', rest)
  (Tool.modeFunction? 0 (String.ofList rest)).map fun f => (how, f false 0)

/-- Whether a format ends behind a sign that needs more. -/
def isOpenFormat : List Char → Bool
  | ['%'] => true
  | '%' :: _ :: cs => isOpenFormat cs
  | _ :: cs => isOpenFormat cs
  | [] => false

/-- The words of a command up to its end, whether it takes many files, and the words behind it. -/
def commandWords : List Raw → List Raw → Option (List Raw × Bool × List Raw)
  | _, [] => none
  | done, ";" :: rest => some (done.reverse, false, rest)
  | done, "+" :: rest =>
    if done.head? == some "\x7b\x7d" then some (done.reverse, true, rest) else commandWords ("+" :: done) rest
  | done, w :: rest => commandWords (w :: done) rest

/-- The words that are given without an argument, and what they ask. -/
def plainWord? (w : Raw) : Option Query :=
  match w with
  | "-true" | "-noleaf" | "-daystart" | "-xdev" | "-mount" | "-warn" | "-nowarn" | "-ignore_readdir_race"
    | "-noignore_readdir_race" => some (.always true)
  | "-false" | "-nouser" | "-nogroup" => some (.always false)
  | "-empty" => some .empty
  | "-print" => some (.show "\n")
  | "-print0" => some (.show "\x00")
  | "-ls" => some .long
  | "-delete" => some .remove
  | "-prune" => some .passOver
  | "-quit" => some .quit
  | "-readable" | "-writable" => some (.always true)
  | "-executable" => some .runnable
  | _ => none

def isAction (w : Raw) : Bool := ["-print", "-print0", "-ls", "-delete", "-printf", "-fprint", "-fprintf"].contains w

/-- The words that take an argument. -/
def withArgument : List Raw :=
  ["-name", "-iname", "-path", "-wholename", "-ipath", "-iwholename", "-lname", "-ilname", "-regex", "-iregex",
    "-type", "-xtype", "-size", "-mtime", "-atime", "-ctime", "-mmin", "-amin", "-cmin", "-newer", "-anewer",
    "-cnewer", "-links", "-inum", "-perm", "-user", "-group", "-uid", "-gid", "-samefile", "-maxdepth",
    "-mindepth", "-printf", "-regextype", "-fstype", "-used"]

/-- How expressions are written. -/
structure Writing where
  extended : Bool := false
  plain : Bool := true

/-- What a test with its argument asks. The third argument gives the node at a path. -/
def argumentQuery (n : Writing) (node : Raw → Except Raw Reached) (w a : Raw) : Read Query :=
  let number (f : Bound → Query) : Read Query :=
    match wholeBound? a with
    | some b => .ok (f b)
    | none => .error ("invalid argument \x60" ++ a ++ "' to \x60" ++ w ++ "'")
  let known (r : Except Raw Reached) (f : Reached → Query) : Read Query :=
    match r with
    | .ok r => .ok (f r)
    | .error e => .error (Tool.quoted a ++ ": " ++ e)
  match w with
  | "-name" => .ok (.name a false)
  | "-iname" => .ok (.name a true)
  | "-path" | "-wholename" => .ok (.path a false)
  | "-ipath" | "-iwholename" => .ok (.path a true)
  | "-lname" => .ok (.target a false)
  | "-ilname" => .ok (.target a true)
  | "-regex" | "-iregex" =>
    let written := if n.plain then String.ofList (plainSigns a.toList) else a
    match Regex.parse { extended := n.extended, lenient := true } written with
    | .ok r => .ok (.expression r (w == "-iregex"))
    | .error f => .error ("failed to compile regular expression '" ++ a ++ "': " ++ Regex.Fault.message f)
  | "-type" | "-xtype" => (kinds? w a).map fun cs => .kind cs (w == "-xtype")
  | "-size" =>
    match bound? a.toList with
    | some (b, rest) =>
      match sizeUnit? rest with
      | some unit => .ok (.size b unit)
      | none => .error ("invalid -size type \x60" ++ (rest.getLast?.getD ' ').toString ++ "'")
    | none =>
      let c := a.toList.getLast?.getD ' '
      if a.isEmpty then .error "invalid null argument to -size"
      else if "bcwkMG".toList.contains c || c.isDigit then .error ("Invalid argument \x60" ++ a ++ "' to -size")
      else .error ("invalid -size type \x60" ++ c.toString ++ "'")
  | "-mtime" | "-atime" | "-ctime" => number fun b => .age b 86400
  | "-mmin" | "-amin" | "-cmin" => number fun b => .age b 60
  | "-newer" | "-anewer" | "-cnewer" => known (node a) fun r => .newer r.node.modified
  | "-samefile" => known (node a) fun r => .node r.number
  | "-links" => number .links
  | "-inum" => number .inode
  | "-uid" | "-gid" => number fun b => .always (b.holds 0)
  | "-user" | "-group" =>
    if a == "root" || a == "0" then .ok (.always true)
    else if a.toList.all Char.isDigit && !a.isEmpty then .ok (.always false)
    else if w == "-user" then .error (Tool.quoted a ++ " is not the name of a known user")
    else .error (Tool.quoted a ++ " is not the name of an existing group")
  | "-perm" =>
    match modeAsked? a with
    | some (how, bits) => .ok (.mode how bits)
    | none => .error ("invalid mode " ++ Tool.quoted a)
  | "-printf" =>
    if isOpenFormat a.toList then .error "error: % at end of format string" else .ok (.format a)
  | _ => .ok (.always true)

/-! ## Words -/

/-- What is known while words are read. -/
structure Reading where
  setting : Setting := {}
  writing : Writing := {}
  /-- The word before. -/
  before : Option Raw := none
  signs : List Sign := []

def Reading.add (r : Reading) (s : Sign) (w : Raw) : Reading :=
  { r with signs := s :: r.signs, before := some w }

/-- Reads the words of a query. The first argument bounds their number. -/
def signsFrom (node : Raw → Except Raw Reached) : Nat → Reading → List Raw → Read Reading
  | 0, r, _ => .ok r
  | _ + 1, r, [] => .ok r
  | fuel + 1, r, w :: rest =>
    let go := signsFrom node fuel
    let always : Reading := r.add (.query (.always true) w) w
    if w == "(" then go (r.add .opens w) rest
    else if w == ")" then go (r.add .closes w) rest
    else if w == "!" || w == "-not" then go (r.add (.not w) w) rest
    else if w == "-a" || w == "-and" then go (r.add (.and w) w) rest
    else if w == "-o" || w == "-or" then go (r.add (.or w) w) rest
    else if w == "," then go (r.add .also w) rest
    else if !w.startsWith "-" || w == "-" then
      .error ("paths must precede expression: \x60" ++ w ++ "'" ++
        (match r.before, node w with
          | some b, .ok _ => "\nfind: possible unquoted pattern after predicate \x60" ++ b ++ "'?"
          | _, _ => ""))
    else if w == "-depth" || w == "-d" then
      go { always with setting := { always.setting with inwards := true } } rest
    else if w == "-follow" then go { always with setting := { always.setting with follows := true } } rest
    else if ["-exec", "-execdir", "-ok", "-okdir"].contains w then
      let missing : Read Reading := .error ("missing argument to \x60" ++ w ++ "'")
      let inside := w == "-execdir" || w == "-okdir"
      let asks := w == "-ok" || w == "-okdir"
      match commandWords [] rest with
      | none => missing
      | some ([], _, _) =>
        if rest.head? == some ";" then .error ("invalid argument \x60;' to \x60" ++ w ++ "'") else missing
      | some (words, many, rest) =>
        let holes := (words.filter fun x => x.toList.length ≥ 2 && (x.splitOn "\x7b\x7d").length > 1).length
        if many && asks then missing
        else if many && 1 < holes then .error ("Only one instance of \x7b\x7d is supported with " ++ w ++ " ... +")
        else
          let q : Query := if many then .gather r.signs.length words.dropLast inside else .run words inside asks
          let r := r.add (.query q w) w
          go { r with setting := { r.setting with acts := true } } rest
    else
      match plainWord? w with
      | some q =>
        let r := r.add (.query q w) w
        let r := if isAction w then { r with setting := { r.setting with acts := true } } else r
        go (if w == "-delete" then { r with setting := { r.setting with inwards := true } } else r) rest
      | none =>
        if !withArgument.contains w then .error ("unknown predicate \x60" ++ w ++ "'")
        else
          match rest with
          | [] => .error ("missing argument to \x60" ++ w ++ "'")
          | a :: rest =>
            if w == "-maxdepth" || w == "-mindepth" then
              if a.isEmpty || !a.toList.all Char.isDigit then
                .error ("Expected a positive decimal integer argument to " ++ w ++ ", but got " ++ Tool.quoted a)
              else
                let n := Tool.numeral a.toList
                let s := always.setting
                go { always with setting := if w == "-maxdepth" then { s with most := some n } else { s with least := n } } rest
            else if w == "-regextype" then
              let extended := ["posix-extended", "egrep", "posix-egrep", "awk", "gnu-awk", "posix-awk"].contains a
              go { always with writing := { extended, plain := a == "emacs" || a == "findutils-default" } } rest
            else
              match argumentQuery r.writing node w a with
              | .error e => .error e
              | .ok q =>
                let r := r.add (.query q w) w
                go (if isAction w then { r with setting := { r.setting with acts := true } } else r) rest

/-! ## How words belong together -/

mutual

/-- Reads queries that a comma separates. -/
def alsoFrom : Nat → List Sign → Read (Query × List Sign)
  | 0, _ => .error "invalid expression"
  | fuel + 1, ss => do
    let (a, rest) ← eitherFrom fuel ss
    alsoRest fuel a rest

def alsoRest : Nat → Query → List Sign → Read (Query × List Sign)
  | 0, _, _ => .error "invalid expression"
  | fuel + 1, a, ss =>
    match ss with
    | .also :: rest => do
      let (b, rest) ← eitherFrom fuel rest
      alsoRest fuel (.also a b) rest
    | ss => .ok (a, ss)

def eitherFrom : Nat → List Sign → Read (Query × List Sign)
  | 0, _ => .error "invalid expression"
  | fuel + 1, ss => do
    let (a, rest) ← bothFrom fuel ss
    eitherRest fuel a rest

def eitherRest : Nat → Query → List Sign → Read (Query × List Sign)
  | 0, _, _ => .error "invalid expression"
  | fuel + 1, a, ss =>
    match ss with
    | .or w :: rest => do
      if rest.isEmpty then Except.error ("expected an expression after '" ++ w ++ "'")
      let (b, rest) ← bothFrom fuel rest
      eitherRest fuel (.either a b) rest
    | ss => .ok (a, ss)

def bothFrom : Nat → List Sign → Read (Query × List Sign)
  | 0, _ => .error "invalid expression"
  | fuel + 1, ss => do
    let (a, rest) ← oneFrom fuel ss
    bothRest fuel a rest

def bothRest : Nat → Query → List Sign → Read (Query × List Sign)
  | 0, _, _ => .error "invalid expression"
  | fuel + 1, a, ss =>
    match ss with
    | .and w :: rest => do
      if rest.isEmpty then Except.error ("expected an expression after '" ++ w ++ "'")
      let (b, rest) ← oneFrom fuel rest
      bothRest fuel (.both a b) rest
    | .query _ _ :: _ | .opens :: _ | .not _ :: _ => do
      let (b, rest) ← oneFrom fuel ss
      bothRest fuel (.both a b) rest
    | ss => .ok (a, ss)

def oneFrom : Nat → List Sign → Read (Query × List Sign)
  | 0, _ => .error "invalid expression"
  | fuel + 1, ss =>
    let lone (w : Raw) : Read (Query × List Sign) :=
      .error ("invalid expression; you have used a binary operator '" ++ w ++ "' with nothing before it.")
    match ss with
    | .query q _ :: rest => .ok (q, rest)
    | .not w :: rest =>
      if rest.isEmpty then .error ("expected an expression after '" ++ w ++ "'")
      else do
        let (q, rest) ← oneFrom fuel rest
        return (.not q, rest)
    | .opens :: .closes :: _ => .error "invalid expression; empty parentheses are not allowed."
    | .opens :: rest => do
      let unclosed := "invalid expression; I was expecting to find a ')' somewhere but did not see one."
      if rest.isEmpty then Except.error unclosed
      let (q, rest) ← alsoFrom fuel rest
      match rest with
      | .closes :: rest => return (q, rest)
      | _ => .error unclosed
    | .closes :: _ => .error "invalid expression; you have too many ')'"
    | .and w :: _ | .or w :: _ => lone w
    | .also :: _ => lone ","
    | [] => .error "invalid expression"

end

/-- Reads the words of a query, and how the walk is to be made. -/
def read (node : Raw → Except Raw Reached) (setting : Setting) (words : List Raw) : Read (Query × Setting) := do
  let r ← signsFrom node (words.length + 1) { setting } words
  let signs := r.signs.reverse
  let show_ : Query := .show "\n"
  if signs.isEmpty then return (show_, r.setting)
  else
    let (q, rest) ← alsoFrom (8 * signs.length + 16) signs
    match rest with
    | [] => return (if r.setting.acts then q else .both q show_, r.setting)
    | .closes :: _ => .error "you have too many ')'"
    | _ => .error "invalid expression"

end Host.Walk

end PolicyGate
