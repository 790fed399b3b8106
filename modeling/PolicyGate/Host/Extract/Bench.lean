import PolicyGate.Host.Extract.Reading
import PolicyGate.Host.Regex.Rich
import PolicyGate.Host.Tool.Basic

/-!
# What an extraction script works on

A script has variables, doors through which it reads and writes, and what the last pattern has fitted.
What it writes to its output is held back until the end, or until it starts a program; complaints are
written at once.
-/

namespace PolicyGate

namespace Host.Extract

/-- Why a script does not just go on. -/
inductive Stop where
  | exit (status : Nat)
  | died (why : Value)
  /-- The next round of a loop, and its end, by the label of the loop. -/
  | next (label : Raw)
  | last (label : Raw)
  /-- A function gives its values. -/
  | gave (vs : List Value)
  | killed (signal : Nat)
  /-- The script has gone on for too long. -/
  | tired

/-- What a door leads to. -/
inductive Way where
  /-- What is still to be read. -/
  | source (rest : Stream)
  /-- A file that is written, by the number of its node. -/
  | file (number : Nat)
  /-- The output of the script, or its complaints. -/
  | standard (complains : Bool)
  /-- A program that is run on what is written when the door is closed. -/
  | program (words : List Raw) (bytes : List UInt8)

structure Door where
  way : Way
  /-- How it is called in complaints. -/
  shown : Raw
  /-- The number of lines that have been read. -/
  lines : Nat := 0

/-- What the last pattern has fitted. -/
structure Fitted where
  chars : List Char := []
  found : Regex.Found := ⟨0, 0, []⟩
  names : List (String × Nat) := []

/-- Where values are kept. -/
inductive Target where
  | scalar (name : Raw)
  | row (name : Raw)
  | table (name : Raw)
  | item (name : Raw) (index : Int)
  | entry (name key : Raw)
  | several (ts : List Target)
  /-- A part of the text that another target keeps. -/
  | part (t : Target) (start size : Nat)
  | nowhere

/-- What a variable was before a block. -/
inductive Kept where
  | scalar (name : Raw) (old : Option Value)
  | row (name : Raw) (old : Option (List Value))
  | table (name : Raw) (old : Option (List (Raw × Value)))

structure Bench where
  scene : Scene
  /-- The name of the script in complaints. -/
  script : Raw := "-e"
  line : Nat := 0
  scalars : List (Raw × Value) := []
  rows : List (Raw × List Value) := []
  tables : List (Raw × List (Raw × Value)) := []
  functions : List (Raw × List Stmt) := []
  /-- The number of functions that run. -/
  calls : Nat := 0
  /-- Whether the function that runs is asked for a list. -/
  wantsList : Bool := false
  /-- What to give back at the end of the blocks that run, the latest first. -/
  kept : List Kept := []
  fitted : Fitted := {}
  /-- Where the next search in a text starts, by the name of the text. -/
  marks : List (Raw × Nat) := []
  /-- The ranges of rounds that are open. -/
  ranges : List Nat := []
  doors : List (Raw × Door) := []
  /-- The door through which something was read last. -/
  lastDoor : Raw := ""
  /-- The door through which is written if none is named. -/
  selected : Raw := "STDOUT"
  /-- Whether the files that are named as arguments have been begun. -/
  begun : Bool := false
  /-- Whether the loop around the script reads its files. -/
  looped : Bool := false
  /-- The ending of copies if files are changed in place. -/
  inPlace : Option Raw := none
  /-- The number of the last failure. -/
  failure : Nat := 0
  /-- What is held back, the latest first. -/
  pending : List Raw := []
  shown : List (Bool × List UInt8) := []
  waitedMs : Nat := 0
  steps : Nat := 0
  nextDoor : Nat := 1

abbrev Act := EStateM Stop Bench

/-! ## Variables -/

/-- Puts a value under a name. -/
def placedAt {α : Type} (name : Raw) (v : α) : List (Raw × α) → List (Raw × α)
  | [] => [(name, v)]
  | (n, w) :: rest => if n == name then (n, v) :: rest else (n, w) :: placedAt name v rest

/-- Puts a value at a number in a row, which is filled up to there. -/
def setItem (vs : List Value) (i : Nat) (v : Value) : List Value :=
  if i < vs.length then vs.set i v else vs ++ List.replicate (i - vs.length) .absent ++ [v]

/-- The failures of the system by their numbers. -/
def failures : List (Nat × Raw) :=
  [(1, "Operation not permitted"), (2, "No such file or directory"), (9, "Bad file descriptor"),
    (13, "Permission denied"), (17, "File exists"), (20, "Not a directory"), (21, "Is a directory"),
    (22, "Invalid argument"), (25, "Inappropriate ioctl for device"), (36, "File name too long"),
    (39, "Directory not empty"), (40, "Too many levels of symbolic links")]

def failureNumber (text : Raw) : Nat := ((failures.find? (·.2 == text)).map (·.1)).getD 5

namespace Bench

def row (b : Bench) (name : Raw) : List Value := (b.rows.lookup name).getD []

def table (b : Bench) (name : Raw) : List (Raw × Value) := (b.tables.lookup name).getD []

/-- What a group has fitted. -/
def group (b : Bench) (n : Nat) : Value :=
  let span := if n = 0 then some (b.fitted.found.start, b.fitted.found.stop)
    else b.fitted.found.groups.lookup n
  match span with
  | some (i, j) => .text (String.ofList ((b.fitted.chars.drop i).take (j - i)))
  | none => .absent

def scalar (b : Bench) (name : Raw) : Value :=
  if name == "0" then .text b.script
  else if !name.isEmpty && name.toList.all Char.isDigit then b.group (numberOf name.toList)
  else if name == "&" then b.group 0
  else if name == "\x60" then .text (String.ofList (b.fitted.chars.take b.fitted.found.start))
  else if name == "'" then .text (String.ofList (b.fitted.chars.drop b.fitted.found.stop))
  else if name == "+" then
    b.group ((b.fitted.found.groups.map (·.1)).foldl max 0)
  else if name == "." then
    match b.doors.lookup b.lastDoor with
    | some d => .whole d.lines
    | none => .absent
  else if name == "!" then
    .text (if b.failure = 0 then "" else (failures.lookup b.failure).getD "Input/output error")
  else if name == "$" then .whole 4242
  else (b.scalars.lookup name).getD .absent

def setScalar (b : Bench) (name : Raw) (v : Value) : Bench :=
  if name == "!" then { b with failure := v.toInt.toNat }
  else if name == "." then
    match b.doors.lookup b.lastDoor with
    | some d => { b with doors := placedAt b.lastDoor { d with lines := v.toInt.toNat } b.doors }
    | none => b
  else if name == "0" then { b with script := v.toText }
  else
    { b with
      scalars := placedAt name v b.scalars
      marks := if b.marks.isEmpty then [] else b.marks.filter (·.1 != name) }

def setRow (b : Bench) (name : Raw) (vs : List Value) : Bench := { b with rows := placedAt name vs b.rows }

def setTable (b : Bench) (name : Raw) (vs : List (Raw × Value)) : Bench :=
  { b with tables := placedAt name vs b.tables }

/-- The place in a row that a number stands for. Negative numbers count from the end. -/
def place? (vs : List Value) (i : Int) : Option Nat :=
  let n := if i < 0 then i + vs.length else i
  if n < 0 then none else some n.toNat

def item (b : Bench) (name : Raw) (i : Int) : Value :=
  let vs := b.row name
  ((place? vs i).bind fun n => vs[n]?).getD .absent

/-- What a name in the last pattern has fitted. -/
def entry (b : Bench) (name key : Raw) : Value :=
  if name == "+" then ((b.fitted.names.lookup key).map b.group).getD .absent
  else ((b.table name).lookup key).getD .absent

def fetch (b : Bench) : Target → Value
  | .scalar n => b.scalar n
  | .row n => .whole (b.row n).length
  | .table n => .whole (b.table n).length
  | .item n i => b.item n i
  | .entry n k => b.entry n k
  | .part t i n => .text (String.ofList (((b.fetch t).toText.toList.drop i).take n))
  | .several _ | .nowhere => .absent

def store (b : Bench) (t : Target) (v : Value) : Bench :=
  match t with
  | .scalar n => b.setScalar n v
  | .row n => b.setRow n [v]
  | .table n => b.setTable n []
  | .item n i =>
    let vs := b.row n
    match place? vs i with
    | some k => b.setRow n (setItem vs k v)
    | none => b
  | .entry n k => b.setTable n (placedAt k v (b.table n))
  | .part t i n =>
    let cs := (b.fetch t).toText.toList
    b.store t (.text (String.ofList (cs.take i ++ v.toText.toList ++ cs.drop (i + n))))
  | .several _ | .nowhere => b

/-- Keys and values in pairs. -/
def pairs : List Value → List (Raw × Value) → List (Raw × Value)
  | k :: v :: rest, done => pairs rest (placedAt k.toText v done)
  | [k], done => placedAt k.toText .absent done
  | [], done => done

mutual

/-- Gives a target its share of some values, and tells what is left. -/
def fill (b : Bench) (vs : List Value) : Target → Bench × List Value
  | .row n => (b.setRow n vs, [])
  | .table n => (b.setTable n (pairs vs []), [])
  | .several ts => fillAll b vs ts
  | .nowhere => (b, vs.tail)
  | t => (b.store t (vs.head?.getD .absent), vs.tail)

def fillAll (b : Bench) (vs : List Value) : List Target → Bench × List Value
  | [] => (b, vs)
  | t :: ts =>
    let (b, vs) := fill b vs t
    fillAll b vs ts

end

mutual

/-- The values that a target keeps. -/
def values (b : Bench) : Target → List Value
  | .row n => b.row n
  | .table n => (b.table n).flatMap fun (k, v) => [.text k, v]
  | .several ts => valuesAll b ts
  | t => [b.fetch t]

def valuesAll (b : Bench) : List Target → List Value
  | [] => []
  | t :: ts => values b t ++ valuesAll b ts

end

/-! ## Blocks -/

/-- Notes what a variable is, and empties it. -/
def keep (b : Bench) : Target → Bench
  | .scalar n =>
    let old := b.scalars.lookup n
    { b with kept := .scalar n old :: b.kept, scalars := b.scalars.filter (·.1 != n) }
  | .row n =>
    { b with kept := .row n (b.rows.lookup n) :: b.kept, rows := b.rows.filter (·.1 != n) }
  | .table n =>
    { b with kept := .table n (b.tables.lookup n) :: b.kept, tables := b.tables.filter (·.1 != n) }
  | .entry n _ => { b with kept := .table n (b.tables.lookup n) :: b.kept }
  | .item n _ => { b with kept := .row n (b.rows.lookup n) :: b.kept }
  | _ => b

/-- Gives back one variable. -/
def giveBack (b : Bench) : Kept → Bench
  | .scalar n old =>
    match old with
    | some v => { b with scalars := placedAt n v b.scalars }
    | none => { b with scalars := b.scalars.filter (·.1 != n) }
  | .row n old =>
    match old with
    | some v => { b with rows := placedAt n v b.rows }
    | none => { b with rows := b.rows.filter (·.1 != n) }
  | .table n old =>
    match old with
    | some v => { b with tables := placedAt n v b.tables }
    | none => { b with tables := b.tables.filter (·.1 != n) }

/-- Gives back what has been noted since there were so many notes. -/
def leave (b : Bench) (depth : Nat) : Bench :=
  let n := b.kept.length - depth
  if n = 0 then b
  else { (b.kept.take n).foldl giveBack b with kept := b.kept.drop n }

/-! ## Output -/

/-- Writes what has been held back. -/
def flush (b : Bench) : Bench :=
  if b.pending.isEmpty then b
  else
    { b with pending := [], shown := b.pending.map (fun r => (false, Raw.toBytes r)) ++ b.shown }

/-- Writes a complaint. -/
def tell (b : Bench) (r : Raw) : Bench := { b with shown := (true, Raw.toBytes r) :: b.shown }

/-- Writes to the output, which is held back. -/
def hold (b : Bench) (r : Raw) : Bench :=
  let b := { b with pending := r :: b.pending }
  if (b.scalar "|").isTrue then b.flush else b

/-- Writes through a door, and tells whether that is possible. -/
def write (b : Bench) (door text : Raw) : Bench × Bool :=
  let name := if door.isEmpty then b.selected else door
  match b.doors.lookup name with
  | some d =>
    match d.way with
    | .file n =>
      let files := b.scene.files
      match (files.nodes.lookup n).filter Node.isFile with
      | some node =>
        ({ b with scene := { b.scene with files := files.fill n (node.bytes ++ Raw.toBytes text) } }, true)
      | none => (b, true)
    | .standard complains => (if complains then b.tell text else b.hold text, true)
    | .program ws bytes =>
      ({ b with doors := placedAt name { d with way := .program ws (bytes ++ Raw.toBytes text) } b.doors },
        true)
    | .source _ => (b, false)
  | none =>
    if name == "STDOUT" then
      (b.hold text, true)
    else if name == "STDERR" then (b.tell text, true)
    else ({ b with failure := 9 }, false)

/-- Where the script is, as complaints end. -/
def whereabouts (b : Bench) : Raw :=
  let read := match b.doors.lookup b.lastDoor with
    | some d => if d.lines = 0 then "" else ", <" ++ d.shown ++ "> line " ++ toString d.lines
    | none => ""
  " at " ++ b.script ++ " line " ++ toString b.line ++ read ++ ".\n"

/-! ## Input -/

/-- The text behind which lines end: none if everything is one line, and an empty one if empty lines
separate the parts. -/
def separator (b : Bench) : Option Raw :=
  match b.scalar "/" with
  | .absent => none
  | v => some v.toText

end Bench

/-- Cuts bytes behind the first place at which some stand. -/
def cutBehind (mark : List UInt8) : List UInt8 → List UInt8 → Option (List UInt8 × List UInt8)
  | done, bytes =>
    match bytes with
    | [] => none
    | x :: xs =>
      if mark.isPrefixOf bytes then some (done.reverse ++ mark, bytes.drop mark.length)
      else cutBehind mark (x :: done) xs

/-- Takes a line. -/
def takeLine (separator : Option Raw) (s : Stream) : Option (Raw × Stream) :=
  match separator with
  | none => if s.bytes.isEmpty then none else some (Raw.ofBytes s.bytes, { s with bytes := [] })
  | some "" =>
    let bytes := s.bytes.dropWhile (· == 0x0A)
    if bytes.isEmpty then none
    else
      match cutBehind [0x0A, 0x0A] [] bytes with
      | some (l, rest) => some (Raw.ofBytes l, { s with bytes := rest.dropWhile (· == 0x0A) })
      | none => some (Raw.ofBytes bytes, { s with bytes := [] })
  | some mark =>
    let whole := if s.isEndless then s.unroll (s.bytes.length + 2 * s.cycle.length) else s.bytes
    match cutBehind mark.toBytes [] whole with
    | some (l, rest) => some (Raw.ofBytes l, { s with bytes := rest })
    | none => if whole.isEmpty then none else some (Raw.ofBytes whole, { s with bytes := [] })

namespace Bench

/-- Opens the standard input, unless that has been done. -/
def withInput (b : Bench) : Bench :=
  match b.doors.lookup "STDIN" with
  | some _ => b
  | none => { b with doors := ("STDIN", { way := .source b.scene.input, shown := "STDIN" }) :: b.doors }

/-- Whether the arguments have led to the standard input, which is then read through their door. -/
def sharesInput (b : Bench) : Bool :=
  b.begun && (b.scalar "ARGV").toText == "-" && (b.doors.lookup "ARGV").isSome

/-- Reads a line through a door. -/
def readDoor (b : Bench) (name : Raw) : Option Raw × Bench :=
  let b := if name == "STDIN" then b.withInput else b
  let name := if name == "STDIN" && b.sharesInput then "ARGV" else name
  match b.doors.lookup name with
  | some d =>
    match d.way with
    | .source rest =>
      let b := { b with lastDoor := name }
      match takeLine b.separator rest with
      | some (l, rest) =>
        (some l, { b with doors := placedAt name { d with way := .source rest, lines := d.lines + 1 } b.doors })
      | none => (none, b)
    | _ => (none, b)
  | none => (none, b)

/-- The name of the copy that is kept of a file: an asterisk stands for its name. -/
def copyName (ending path : Raw) : Raw :=
  if ending.toList.contains '*' then ending.replace "*" path else path ++ ending

/-- Empties a file that is changed in place, of which a copy may be kept. -/
def turnOver (b : Bench) (path : Raw) (bytes : List UInt8) (ending : Raw) : Bench :=
  match b.scene.reach path with
  | .error _ => b
  | .ok r =>
    let files := if ending.isEmpty then b.scene.files
      else (b.scene.written (copyName ending path) bytes false).toOption.getD b.scene.files
    let files := files.fill r.number []
    { b with
      scene := { b.scene with files }
      doors := placedAt "ARGVOUT" { way := .file r.number, shown := "ARGVOUT" } b.doors
      selected := "ARGVOUT" }

/-- Takes what is left of the standard input. -/
def inputTaken (b : Bench) : Stream × Bench :=
  match b.doors.lookup "STDIN" with
  | some ⟨.source s, shown, lines⟩ =>
    (s, { b with doors := placedAt "STDIN" ⟨.source .empty, shown, lines⟩ b.doors })
  | _ => (.empty, b)

/-- Opens the next file that is named as an argument, and tells whether there is one. -/
def openNext : Nat → Bench → Bool × Bench
  | 0, b => (false, b)
  | fuel + 1, b =>
    let lines := ((b.doors.lookup "ARGV").map (·.lines)).getD 0
    let opened (b : Bench) (path : Raw) (s : Stream) : Bench :=
      { b with
        doors := placedAt "ARGV" { way := .source s, shown := "", lines } b.doors
        begun := true }.setScalar "ARGV" (.text path)
    let fromInput (b : Bench) : Bench :=
      let (rest, b) := b.withInput.inputTaken
      opened b "-" rest
    match b.row "ARGV" with
    | [] => if b.begun then (false, b) else (true, fromInput b)
    | v :: vs =>
      let b := { b with begun := true }.setRow "ARGV" vs
      let path := v.toText
      if path == "-" then (true, fromInput b)
      else
      match Tool.contents? b.scene path with
      | .ok s =>
        match b.inPlace with
        | some ending => (true, opened (b.turnOver path s.bytes ending) path s)
        | none => (true, opened b path s)
      | .error why =>
        if Tool.isDirectoryReason why then (true, opened b path .empty)
        else
          let here := b.whereabouts
          let behind := if b.looped then
              (if lines = 0 then "" else ", <> line " ++ toString lines) ++ ".\n"
            else here
          openNext fuel ({ b with failure := failureNumber why }.tell
            ("Can't open " ++ path ++ ": " ++ why ++ behind))

/-- Reads a line of the files that are named as arguments. -/
def readArguments : Nat → Bench → Option Raw × Bench
  | 0, b => (none, b)
  | fuel + 1, b =>
    let (line, b) := if b.begun then b.readDoor "ARGV" else (none, b)
    match line with
    | some l => (some l, b)
    | none =>
      let (found, b) := openNext ((b.row "ARGV").length + 2) b
      if found then readArguments fuel b
      else (none, { b with selected := if b.selected == "ARGVOUT" then "STDOUT" else b.selected })

def read (b : Bench) (name : Raw) : Option Raw × Bench :=
  if name.isEmpty || name == "ARGV" then b.readArguments ((b.row "ARGV").length + 3) else b.readDoor name

/-- Whether nothing is left behind a door. -/
def isAtEnd (b : Bench) (name : Raw) : Bool :=
  let b := if name == "STDIN" then b.withInput else b
  match b.doors.lookup name with
  | some ⟨.source s, _, _⟩ => s.bytes.isEmpty && s.cycle.isEmpty
  | _ => true

/-- Opens a door to a file, or tells why that fails. -/
def openFile (b : Bench) (door shown mode path : Raw) : Except Raw Bench :=
  let put (b : Bench) (w : Way) : Bench :=
    { b with doors := placedAt door { way := w, shown } b.doors, failure := 25 }
  if mode == "<" || mode == "+<" then
    match Tool.contents? b.scene path with
    | .ok s => .ok (put b (.source s))
    | .error why => if Tool.isDirectoryReason why then .ok (put b (.source .empty)) else .error why
  else
    match b.scene.reach path with
    | .ok r =>
      if r.node.isDirectory then .error (reason .isADirectory)
      else
        let files := if mode == ">" && r.node.isFile then b.scene.files.fill r.number [] else b.scene.files
        match r.node.content with
        | .device (.descriptor n) => .ok (put b (.standard (n = 2)))
        | _ => .ok (put { b with scene := { b.scene with files } } (.file r.number))
    | .error _ =>
      match b.scene.written path [] false with
      | .error why => .error why
      | .ok files =>
        let b := { b with scene := { b.scene with files } }
        match b.scene.reach path with
        | .ok r => .ok (put b (.file r.number))
        | .error e => .error (reason e)

end Bench

end Host.Extract

end PolicyGate
