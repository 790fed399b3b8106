import PolicyGate.Host.Files
import PolicyGate.Host.Stream

/-!
# What a tool sees and does

A tool is given its arguments and a *scene*: the files, a directory it starts from, and its input.
What it does is a `Ran`: what it writes, its status, how the files have changed and how long it
took. The readers of options here are those that all tools share.
-/

namespace PolicyGate

namespace Host

/-- A run of a tool. -/
structure Ran where
  /-- What it writes, in order, and whether as a complaint. -/
  writes : List (Bool × List UInt8) := []
  /-- What it writes to further descriptors. -/
  aside : List (Nat × List UInt8) := []
  /-- What it goes on to write for ever. -/
  endless : List UInt8 := []
  status : Nat := 0
  /-- How long it waits before it writes, in milliseconds. -/
  waitMs : Nat := 0
  /-- What it leaves of its input, if it has read any. -/
  rest : Option Stream := none
  /-- Whether it takes whole blocks from a pipe, even if it uses less. -/
  inBlocks : Bool := false
  /-- The files, if it has changed them. -/
  files : Option Files := none
  /-- Whether it writes what it reads at once. -/
  direct : Bool := false
  /-- Whether it never ends, although it writes no more. -/
  hangs : Bool := false
  /-- The signal that ends it. -/
  killed : Option Nat := none

/-- What a tool works on. -/
structure Scene where
  files : Files
  home : List String := []
  input : Stream := .empty
  /-- Whether the input is a file, rather than a pipe. -/
  inputIsFile : Bool := false
  /-- What can be read at further descriptors. -/
  descriptors : List (Nat × Stream) := []
  /-- What has been written to channels, by their nodes. -/
  channels : List (Nat × Stream) := []
  /-- The variables that the tool is told of. -/
  environment : List (Raw × Raw) := []
  /-- What new files may not be used for. -/
  mask : Nat := 0o022
  /-- Runs a command on some files and an input, or tells why it cannot be run. -/
  launch : Files → Stream → List Raw → Except Raw Ran := fun _ _ _ => .error "No such file or directory"

/-- Why a path leads nowhere, without a number. -/
def reason : PathFault → Raw
  | .notFound => "No such file or directory"
  | .notADirectory => "Not a directory"
  | .isADirectory => "Is a directory"
  | .nameTooLong => "File name too long"
  | .tooManyLinks => "Too many levels of symbolic links"
  | .holdsNul | .notText => "Invalid argument"

/-- Bytes without an order that can be seen. -/
def noise : List UInt8 :=
  ((List.range 4096).foldl (fun ((done, x) : List UInt8 × UInt32) _ =>
    let x := x * 1664525 + 1013904223
    ((x >>> 24).toUInt8 :: done, x)) ([], 2463534242)).1

namespace Scene

def reach (s : Scene) (path : Raw) : Except PathFault Reached :=
  Host.reach s.files s.home (Raw.toText path)

/-- What a path leads to, without following a link at its end. -/
def reachName (s : Scene) (path : Raw) : Except PathFault Reached :=
  Host.reachName s.files s.home (Raw.toText path)

def place (s : Scene) (path : Raw) : Except PathFault (List String) :=
  Host.place s.files s.home (Raw.toText path)

/-- What there is to read at a node, or why there is nothing. -/
def contentOf (s : Scene) (r : Reached) : Except Raw Stream :=
  match r.node.content with
  | .file bytes => .ok ⟨bytes, []⟩
  | .program _ => .ok ⟨r.node.bytes, []⟩
  | .directory => .error (reason .isADirectory)
  | .link _ => .ok .empty
  | .channel => .ok ((s.channels.lookup r.number).getD .empty)
  | .device .null => .ok .empty
  | .device .zero | .device .full => .ok ⟨[], [0]⟩
  | .device .random => .ok ⟨noise, noise⟩
  | .device .terminal => .error "No such device or address"
  | .device (.descriptor 0) => .ok s.input
  | .device (.descriptor n) =>
    match s.descriptors.lookup n with
    | some t => .ok t
    | none => .error (reason .notFound)

/-- What a path holds for reading. -/
def open? (s : Scene) (path : Raw) : Except Raw Stream :=
  if path == "-" then .ok s.input
  else
    match s.reach path with
    | .ok r => (s.contentOf r).mapError fun e => path ++ ": " ++ e
    | .error e => .error (path ++ ": " ++ reason e)

/-- The mode of a new file and of a new directory. -/
def fileMode (s : Scene) : Nat := 0o666 &&& (0o777 ^^^ s.mask)
def directoryMode (s : Scene) : Nat := 0o777 &&& (0o777 ^^^ s.mask)

/-- Writes a file in a scene. -/
def written (s : Scene) (path : Raw) (bytes : List UInt8) (append : Bool) : Except Raw Files :=
  match Host.seek s.files s.home (Raw.toText path) true with
  | .error e => .error (reason e)
  | .ok (loc, none) => .ok (s.files.create loc (.file bytes) s.fileMode)
  | .ok (_, some r) =>
    match r.node.content with
    | .directory => .error (reason .isADirectory)
    | .device _ | .channel => .ok s.files
    | _ => .ok (s.files.fill r.number ((if append then r.node.bytes else []) ++ bytes))

end Scene

namespace Ran

/-- Puts complaints in front of a run, and the status that goes with them. -/
def after (complaints : List Raw) (status : Nat) (r : Ran) : Ran :=
  if complaints.isEmpty then r
  else
    { r with
      writes := complaints.map (fun c => (true, Raw.toBytes (c ++ "\n"))) ++ r.writes
      status := max r.status status }

end Ran

namespace Tool

/-! ## Names in complaints -/

/-- Whether a character is shown as it is. -/
def isShown (c : Char) : Bool := ' ' ≤ c && c ≤ '~'

def octal3 (n : Nat) : List Char :=
  [Char.ofNat (48 + n / 64 % 8), Char.ofNat (48 + n / 8 % 8), Char.ofNat (48 + n % 8)]

/-- A character that is not shown, in an escape. -/
def escapedChar (c : Char) : List Char :=
  match "\x07a\x08b\tt\nn\x0bv\x0cf\rr".toList.idxOf? c with
  | some i => '\\' :: (("\x07a\x08b\tt\nn\x0bv\x0cf\rr".toList)[i + 1]?).toList
  | none => '\\' :: octal3 c.toNat

/-- The inside of a text in single quotes, given whether an escape is open. -/
def quotedInside : Bool → List Char → List Char
  | open_, [] => if open_ then ['\''] else []
  | open_, c :: cs =>
    if isShown c then
      let here := if c == '\'' then "'\\''".toList else [c]
      (if open_ then "''".toList else []) ++ here ++ quotedInside false cs
    else (if open_ then [] else "'$'".toList) ++ escapedChar c ++ quotedInside true cs

/-- A name in quotes, as it stands in complaints. A quote in it is put in double quotes. -/
def quoted (path : Raw) : Raw :=
  let cs := path.toList
  if cs.contains '\'' && cs.all isShown && !cs.any fun c => "\"$\\!".toList.contains c || c == '\x60' then
    "\"" ++ path ++ "\""
  else
    let inside := String.ofList (quotedInside false cs)
    if inside.endsWith "'" && cs.getLast?.any fun c => !isShown c then "'" ++ inside
    else "'" ++ inside ++ "'"

/-- A name that is put in quotes only if it would not be read as itself. -/
def quotedIfNeeded (path : Raw) : Raw :=
  let cs := path.toList
  let isSpecial (c : Char) : Bool := " !\"$&()*;<=>?[^\x60|'\\".toList.contains c || !isShown c
  let first := cs.head?.any fun c => c == '~' || c == '#'
  if cs.isEmpty || cs == ['\x7b'] || cs == ['\x7d'] || first || cs.any isSpecial then quoted path else path

/-! ## Output -/

def silent (status : Nat) : Ran := { status }

def wrote (bytes : List UInt8) (status : Nat) : Ran := { writes := [(false, bytes)], status }

def said (r : Raw) (status : Nat) : Ran := wrote r.toBytes status

def complaint (r : Raw) : Bool × List UInt8 := (true, Raw.toBytes (r ++ "\n"))

def complain (r : Raw) (status : Nat) : Ran := { writes := [complaint r], status }

/-- Saves what a tool makes at a path, which may be one of its own descriptors. -/
def saved (s : Scene) (path : Raw) (bytes : List UInt8) : Except Raw Ran :=
  let own : Option Nat := match s.reach path with
    | .ok ⟨_, _, { content := .device (.descriptor n), .. }⟩ => some n
    | _ => none
  match own with
  | some 1 => .ok (wrote bytes 0)
  | some 2 => .ok { writes := [(true, bytes)] }
  | some n => .ok { aside := [(n, bytes)] }
  | none => (s.written path bytes false).map fun files => { silent 0 with files := some files }

/-! ## Work on files -/

/-- What a tool has done so far that changes files one after another. -/
structure Work where
  files : Files
  /-- What it has written, the latest first. -/
  shown : List (Bool × List UInt8) := []
  status : Nat := 0

namespace Work

def say (w : Work) (r : Raw) : Work := { w with shown := (false, Raw.toBytes (r ++ "\n")) :: w.shown }

/-- Writes bytes, as a complaint or not. -/
def put (w : Work) (isComplaint : Bool) (bytes : List UInt8) : Work :=
  { w with shown := (isComplaint, bytes) :: w.shown }

def fail (w : Work) (r : Raw) : Work := { w with shown := complaint r :: w.shown, status := 1 }

def ran (w : Work) : Ran := { writes := w.shown.reverse, status := w.status, files := some w.files }

end Work

/-! ## Lines -/

/-- A line without its newline. -/
def strip (line : List UInt8) : List UInt8 :=
  if line.getLast? = some 0x0A then line.dropLast else line

/-- The lines of a stream without their newlines. -/
def plainLines (bytes : List UInt8) : List Raw := (byteLines bytes).map fun l => Raw.ofBytes (strip l)

def ended (line : Raw) : List UInt8 := Raw.toBytes line ++ [0x0A]

/-! ## Options -/

structure Options where
  /-- The options with their arguments, in order. -/
  given : List (Char × Raw) := []
  operands : List Raw := []

namespace Options

def has (o : Options) (c : Char) : Bool := o.given.any (·.1 == c)

/-- The last argument of an option. -/
def value? (o : Options) (c : Char) : Option Raw := (o.given.reverse.find? (·.1 == c)).map (·.2)

def values (o : Options) (c : Char) : List Raw := (o.given.filter (·.1 == c)).map (·.2)

end Options

/-- The options that a tool knows. -/
structure Known where
  tool : String
  plain : String := ""
  withArgument : String := ""
  /-- The options whose argument may be missing, and then only stands in the same word. -/
  optional : String := ""
  /-- The long names of options. -/
  long : List (String × Char) := []
  /-- What is said on its use, where the rest is refused. -/
  usage : Raw := ""
  /-- What is said in front of the hint at more information. -/
  advice : Raw := ""
  /-- Whether the hint at more information starts with its name. -/
  named : Bool := false
  /-- The status of a run with an option that it does not know. -/
  refusal : Nat := 1
  /-- Whether options may come behind operands. -/
  mixed : Bool := true

namespace Known

def takes (k : Known) (c : Char) : Bool := k.withArgument.toList.contains c

def hint (k : Known) : Raw :=
  (if k.usage.isEmpty then "" else "\nUsage: " ++ k.usage) ++ k.advice ++ "\n" ++
    (if k.named then k.tool ++ ": " else "") ++ "Try '" ++ k.tool ++ " --help' for more information."

def refuse (k : Known) (what : Raw) : Ran := complain (k.tool ++ ": " ++ what ++ k.hint) k.refusal

/-- Reads the letters behind a dash. What is left behind an option with an argument is the argument;
if nothing is left, the next word is. -/
def letters (k : Known) (o : Options) : List Char → List Raw → Except Ran (Options × List Raw)
  | [], rest => .ok (o, rest)
  | c :: cs, rest =>
    if k.optional.toList.contains c then
      .ok ({ o with given := o.given ++ [(c, String.ofList cs)] }, rest)
    else if k.takes c then
      if !cs.isEmpty then .ok ({ o with given := o.given ++ [(c, String.ofList cs)] }, rest)
      else
        match rest with
        | a :: rest => .ok ({ o with given := o.given ++ [(c, a)] }, rest)
        | [] => .error (k.refuse ("option requires an argument -- '" ++ c.toString ++ "'"))
    else if k.plain.toList.contains c then
      letters k { o with given := o.given ++ [(c, "")] } cs rest
    else .error (k.refuse ("invalid option -- '" ++ c.toString ++ "'"))

/-- The long options that a name, which may be cut short, can stand for. -/
def candidates (k : Known) (name : String) : List (String × Char) :=
  match k.long.filter (·.1 == name) with
  | [] => k.long.filter fun l => l.1.startsWith name
  | exact => exact

/-- Reads a long option without its dashes. -/
def longOption (k : Known) (o : Options) (word : String) (rest : List Raw) :
    Except Ran (Options × List Raw) :=
  let name := String.ofList (word.toList.takeWhile (· != '='))
  let value := (word.toList.drop (name.length + 1))
  let hasValue := name.length < word.length
  match k.candidates name with
  | (full, c) :: more =>
    if more.any (·.2 != c) then
      .error (k.refuse ("option '--" ++ word ++ "' is ambiguous; possibilities:" ++
        String.join ((k.candidates name).map fun l => " '--" ++ l.1 ++ "'")))
    else if k.optional.toList.contains c then
      .ok ({ o with given := o.given ++ [(c, String.ofList value)] }, rest)
    else if k.takes c then
      if hasValue then .ok ({ o with given := o.given ++ [(c, String.ofList value)] }, rest)
      else
        match rest with
        | a :: rest => .ok ({ o with given := o.given ++ [(c, a)] }, rest)
        | [] => .error (k.refuse ("option '--" ++ full ++ "' requires an argument"))
    else if hasValue then
      .error (k.refuse ("option '--" ++ full ++ "' doesn't allow an argument"))
    else .ok ({ o with given := o.given ++ [(c, "")] }, rest)
  | [] => .error (k.refuse ("unrecognized option '--" ++ name ++ "'"))

/-- Reads all words. Two dashes end the options. The first argument bounds their number. -/
def readFrom (k : Known) : Nat → Options → List Raw → Except Ran Options
  | 0, o, _ => .ok o
  | _ + 1, o, [] => .ok o
  | fuel + 1, o, a :: rest =>
    match a.toList with
    | ['-', '-'] => .ok { o with operands := o.operands ++ rest }
    | '-' :: '-' :: cs =>
      match k.longOption o (String.ofList cs) rest with
      | .error r => .error r
      | .ok (o, rest) => readFrom k fuel o rest
    | '-' :: c :: cs =>
      match k.letters o (c :: cs) rest with
      | .error r => .error r
      | .ok (o, rest) => readFrom k fuel o rest
    | _ =>
      if k.mixed then readFrom k fuel { o with operands := o.operands ++ [a] } rest
      else .ok { o with operands := o.operands ++ a :: rest }

def read (k : Known) (args : List Raw) : Except Ran Options := k.readFrom (args.length + 1) {} args

/-- Runs a tool with the options that it reads. -/
def run (k : Known) (args : List Raw) (body : Options → Ran) : Ran :=
  match k.read args with
  | .error r => r
  | .ok o => body o

end Known

/-! ## Numbers -/

def isNumeral (r : Raw) : Bool := !r.isEmpty && r.toList.all Char.isDigit

def numeral (cs : List Char) : Nat :=
  (cs.takeWhile Char.isDigit).foldl (fun (v : Nat) (c : Char) => v * 10 + (c.toNat - 48)) 0

/-- The factor that a letter behind a number of bytes stands for. -/
def unit? (cs : List Char) : Option Nat :=
  match cs with
  | [] => some 1
  | ['b'] => some 512
  | ['k'] | ['K'] | ['k', 'B'] | ['K', 'i', 'B'] => some (if cs.length = 2 then 1000 else 1024)
  | ['M'] => some 1048576
  | ['M', 'B'] => some 1000000
  | ['G'] => some 1073741824
  | _ => none

/-- A count with the letter of its unit. -/
def count? (r : Raw) : Option Nat :=
  let digits := r.toList.takeWhile Char.isDigit
  if digits.isEmpty then none else (unit? (r.toList.drop digits.length)).map (numeral digits * ·)

/-! ## What is read -/

/-- What a path holds for reading, or only the reason why it cannot be read. -/
def contents? (s : Scene) (path : Raw) : Except Raw Stream :=
  if path == "-" then .ok s.input
  else
    match s.reach path with
    | .ok r => s.contentOf r
    | .error e => .error (reason e)

/-- What some paths hold for those who read them one after another. Nothing is left of the input for the
second time. -/
def contentsInTurn (s : Scene) (paths : List Raw) : List (Raw × Except Raw Stream) :=
  paths.zipIdx.map fun (p, i) =>
    (p, if p == "-" && (paths.take i).contains "-" then .ok .empty else contents? s p)

/-- What there is to read, each with the name it was asked for by, and the complaints about the rest in
some words. Without a name it is the input. -/
def sourcesBy (words : Raw → Raw → Raw) (s : Scene) (paths : List Raw) :
    List (Raw × Stream) × List Raw :=
  if paths.isEmpty then ([("-", s.input)], [])
  else
    let all := contentsInTurn s paths
    (all.filterMap fun (p, r) => (r.toOption).map (p, ·),
      all.filterMap fun (p, r) =>
        match r with
        | .ok _ => none
        | .error e => some (words p e))

/-- What there is to read, where the complaints are in the usual words. -/
def sources (tool : String) (s : Scene) (paths : List Raw) : List (Raw × Stream) × List Raw :=
  sourcesBy (fun p e => tool ++ ": " ++ p ++ ": " ++ e) s paths

def isDirectoryReason (e : Raw) : Bool := e == reason .isADirectory

/-- Words that tell files that cannot be opened from directories, which cannot be read. -/
def openWords (tool : String) (p e : Raw) : Raw :=
  tool ++ (if isDirectoryReason e then ": error reading " else ": cannot open ") ++ quoted p ++
    (if isDirectoryReason e then ": " else " for reading: ") ++ e

/-- Whether a tool with these operands reads its input. -/
def readsInput (paths : List Raw) : Bool := paths.isEmpty || paths.contains "-"

/-- Everything there is to read, in a row. -/
def joined (sources : List (Raw × Stream)) : Stream :=
  sources.foldr (fun s t => s.2.append t) .empty

/-- A run that has read its input to the end, if it reads it at all. -/
def reading (paths : List Raw) (r : Ran) : Ran :=
  if readsInput paths then { r with rest := some .empty } else r

end Tool

end Host

end PolicyGate
