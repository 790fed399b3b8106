import PolicyGate.Host.Regex.Written
import PolicyGate.Host.Scan.Reading
import PolicyGate.Host.Tool.Basic

/-!
# What a scanning program works on

The record and its fields, variables, tables, and what is read and written. A table gives its keys in an
order that depends on a number made of each key; keys whose numbers fall together come in the order in which
they have been used, the latest first.
-/

namespace PolicyGate

namespace Host.Scan

/-! ## Tables -/

/-- An entry of a table. A key that has been given as a number is kept apart until all keys are asked for. -/
structure Entry where
  key : Raw
  isWhole : Bool
  value : Value

abbrev Table := List Entry

/-- The number made of a text. -/
def mixed (r : Raw) : UInt32 :=
  r.toList.foldl (fun (h : UInt32) c => (h ^^^ c.toNat.toUInt32) * 16777619) 2166136261

namespace Table

def entry? (t : Table) (key : Raw) : Option Entry := List.find? (fun e : Entry => e.key == key) t

def without (t : Table) (key : Raw) : Table := List.filter (fun e : Entry => e.key != key) t

def find? (t : Table) (key : Raw) : Option Value := (t.entry? key).map (·.value)

/-- The table with an entry in front. -/
def put (t : Table) (key : Raw) (isWhole : Bool) (v : Value) : Table :=
  match t.entry? key with
  | some old => { old with value := v } :: t.without key
  | none => ⟨key, isWhole, v⟩ :: t

/-- How many lists the entries of a table are spread over. -/
def spreadOver (size : Nat) : Nat :=
  (List.range 24).foldl (fun k _ => if 12 * k < size then 2 * k else k) 64

/-- All keys, in their order. -/
def keys (t : Table) : List Raw :=
  let n := spreadOver (List.length t)
  let wholeAt (e : Entry) : Nat := ((Value.text e.key).toInt % n).toNat
  let wholes := (List.filter (·.isWhole) t).mergeSort fun a b => wholeAt a ≤ wholeAt b
  let rows := wholes.reverse ++ List.filter (fun e : Entry => !e.isWhole) t
  let place (r : Raw) : Nat := (mixed r).toNat % n
  (rows.map fun e => (place e.key, e.key)).mergeSort (fun a b => a.1 ≤ b.1) |>.map (·.2)

end Table

/-! ## The desk -/

inductive Stop where
  | next
  | nextFile
  | exit (status : Option Nat)
  | gave (v : Value)
  /-- The end of a loop, and the next round. -/
  | stop
  | goOn
  | fatal (r : Raw)
  | tired

/-- What a local name stands for: a value, or something that may yet turn out to be a table. -/
inductive Local where
  | value (v : Value)
  | shared (table : Raw)

/-- Where written text goes. -/
inductive Way where
  | file (number : Nat)
  | standard (complains : Bool)
  | program (bytes : List UInt8)

structure Desk where
  scene : Scene
  vars : List (Raw × Value) := []
  tables : List (Raw × Table) := []
  frame : List (Raw × Local) := []
  functions : List Function := []
  record : Raw := ""
  fields : List Value := []
  /-- What is still to be read from the file that is looked at, and the place of the next argument. -/
  main : Option Stream := none
  argument : Nat := 1
  /-- Whether an argument has named a file. -/
  named : Bool := false
  readers : List (Raw × Stream) := []
  writers : List (Raw × Way) := []
  pending : List Raw := []
  shown : List (Bool × List UInt8) := []
  waitedMs : Nat := 0
  ranges : List Nat := []
  steps : Nat := 0
  calls : Nat := 0
  nextTable : Nat := 0
  status : Nat := 0

abbrev Act := EStateM Stop Desk

/-- The number of steps after which a program counts as one that never ends. -/
def stepLimit : Nat := 4000000

/-- How deep functions may call each other. -/
def callLimit : Nat := 4000

def step : Act Unit := fun d =>
  if stepLimit ≤ d.steps then .error .tired d else .ok () { d with steps := d.steps + 1 }

/-- Puts a value under a name. -/
def placedAt {α : Type} (name : Raw) (v : α) : List (Raw × α) → List (Raw × α)
  | [] => [(name, v)]
  | (n, w) :: rest => if n == name then (n, v) :: rest else (n, w) :: placedAt name v rest

/-- An expression as it is written in a program. Escapes of characters are replaced first. -/
def patternText : List Char → List Char
  | '\\' :: c :: cs =>
    match "a\x07f\x0cn\nr\rt\tv\x0b//\"\"".toList.idxOf? c with
    | some i =>
      if i % 2 = 0 then (("a\x07f\x0cn\nr\rt\tv\x0b//\"\"".toList)[i + 1]?).getD c :: patternText cs
      else '\\' :: c :: patternText cs
    | none => '\\' :: c :: patternText cs
  | c :: cs => c :: patternText cs
  | [] => []

def compiled? (r : Raw) : Option Regex :=
  (Regex.parse { extended := true, lenient := true } (String.ofList (patternText r.toList))).toOption

def subjectOf (r : Raw) : Subject := { chars := r.toList.toArray }

/-- Where an expression fits a text, from a place on, again and again. Right behind a part that fits, an
empty part does not count. -/
def findAll (s : Subject) (r : Regex) : Nat → Nat → Option Nat → List Regex.Found
  | 0, _, _ => []
  | fuel + 1, i, before =>
    match Regex.search s r i with
    | none => []
    | some f =>
      if f.start = f.stop then
        let more := findAll s r fuel (f.stop + 1) before
        if before == some f.start then more else f :: more
      else f :: findAll s r fuel f.stop (some f.stop)

def slice (cs : Array Char) (i j : Nat) : Raw := String.ofList (cs.extract i j).toList

/-- The parts of a text between what fits an expression. -/
def splitBy (r : Regex) (text : Raw) : List Raw :=
  let s := subjectOf text
  let found := (findAll s r (s.chars.size + 2) 0 none).filter fun f => f.start != f.stop
  let (done, from_) : List Raw × Nat :=
    found.foldl (fun (done, i) f => (slice s.chars i f.start :: done, f.stop)) ([], 0)
  if text.isEmpty then [] else (slice s.chars from_ s.chars.size :: done).reverse

/-- The fields of a text, by what separates them. -/
def fieldsBy (separator : Raw) (text : Raw) : List Raw :=
  if separator == " " then
    ((text.toList.splitOnP fun c => c == ' ' || c == '\t' || c == '\n').filter (!·.isEmpty)).map String.ofList
  else if separator.isEmpty then text.toList.map Char.toString
  else if text.isEmpty then []
  else
    match separator.toList with
    | [c] => if c == '\\' then [text] else (text.toList.splitOn c).map String.ofList
    | _ =>
      match compiled? separator with
      | some r => splitBy r text
      | none => [text]

namespace Desk

def var (d : Desk) (name : Raw) : Value :=
  match d.frame.lookup name with
  | some (.value v) => v
  | some (.shared _) => .unset
  | none => if name == "NF" then .ofNat d.fields.length else (d.vars.lookup name).getD .unset

/-- How numbers are written in texts, and in output. -/
def convert (d : Desk) : Raw := ((d.vars.lookup "CONVFMT").getD (.text "%.6g")).toText "%.6g"

def textOf (d : Desk) (v : Value) : Raw := v.toText d.convert

def shownText (d : Desk) (v : Value) : Raw := v.toText (d.textOf (d.var "OFMT"))

def varText (d : Desk) (name : Raw) : Raw := d.textOf (d.var name)

/-- Takes a text as the record. -/
def setRecord (d : Desk) (r : Raw) : Desk :=
  let separator := d.varText "FS"
  let separator := if (d.varText "RS").isEmpty && separator != " " then
      (if separator.length = 1 && !"\\^$.*+?()[]|".toList.contains (separator.toList.head?.getD ' ') then
          separator ++ "|\n"
        else if separator.length = 1 then "[" ++ separator ++ "\n]" else "(" ++ separator ++ ")|\n")
    else separator
  { d with record := r, fields := (fieldsBy separator r).map .field }

/-- Makes the record of its fields. -/
def rejoined (d : Desk) : Desk :=
  { d with record := (d.varText "OFS").intercalate (d.fields.map d.textOf) }

def setCount (d : Desk) (n : Nat) : Desk :=
  { d with fields := d.fields.take n ++ List.replicate (n - d.fields.length) (Value.text "") }.rejoined

def setVar (d : Desk) (name : Raw) (v : Value) : Desk :=
  match d.frame.lookup name with
  | some _ => { d with frame := placedAt name (.value v) d.frame }
  | none => if name == "NF" then d.setCount v.toInt.toNat else { d with vars := placedAt name v d.vars }

def field (d : Desk) (i : Nat) : Value :=
  if i = 0 then .field d.record else (d.fields[i - 1]?).getD .unset

def setField (d : Desk) (i : Nat) (v : Value) : Desk :=
  if i = 0 then d.setRecord (d.textOf v)
  else
    let fields := d.fields ++ List.replicate (i - d.fields.length) (Value.text "")
    { d with fields := fields.set (i - 1) v }.rejoined

/-- The table that a name stands for. -/
def tableName (d : Desk) (name : Raw) : Raw :=
  match d.frame.lookup name with
  | some (.shared t) => t
  | _ => name

def table (d : Desk) (name : Raw) : Table := (d.tables.lookup (d.tableName name)).getD []

def setTable (d : Desk) (name : Raw) (t : Table) : Desk :=
  { d with tables := placedAt (d.tableName name) t d.tables }

/-! ## Output -/

def flush (d : Desk) : Desk :=
  if d.pending.isEmpty then d
  else { d with pending := [], shown := d.pending.map (fun r => (false, Raw.toBytes r)) ++ d.shown }

def tell (d : Desk) (r : Raw) : Desk := { d with shown := (true, Raw.toBytes r) :: d.shown }

/-- Opens a file for writing, or tells why that fails. -/
def openFile (d : Desk) (path : Raw) (append : Bool) : Except Raw Desk :=
  let put (d : Desk) (w : Way) : Desk := { d with writers := d.writers ++ [(path, w)] }
  if path == "/dev/stdout" || path == "-" then .ok (put d (.standard false))
  else if path == "/dev/stderr" then .ok (put d (.standard true))
  else
    match d.scene.written path [] append with
    | .error why => .error why
    | .ok files =>
      let d := { d with scene := { d.scene with files } }
      match d.scene.reach path with
      | .ok r => .ok (put d (.file r.number))
      | .error e => .error (reason e)

/-- Writes through something that is open. -/
def write (d : Desk) (name text : Raw) : Desk :=
  match d.writers.lookup name with
  | some (.file n) =>
    match (d.scene.files.nodes.lookup n).filter Node.isFile with
    | some node =>
      { d with scene := { d.scene with files := d.scene.files.fill n (node.bytes ++ Raw.toBytes text) } }
    | none => d
  | some (.standard complains) =>
    if complains then d.tell text else { d with pending := text :: d.pending }
  | some (.program bytes) =>
    { d with writers := placedAt name (.program (bytes ++ Raw.toBytes text)) d.writers }
  | none => d

/-- Takes over what a program has done. -/
def after (d : Desk) (r : Ran) (taken : Bool) : Desk :=
  let own := r.writes.filter fun w => !(taken && !w.1)
  { d with
    shown := own.reverse ++ d.shown, waitedMs := d.waitedMs + r.waitMs
    scene := { d.scene with files := r.files.getD d.scene.files } }

/-- Closes what is open under a name, and tells the status. -/
def close (d : Desk) (name : Raw) : Option Int × Desk :=
  let read := (d.readers.lookup name).isSome
  let d := { d with readers := d.readers.filter (·.1 != name) }
  match d.writers.lookup name with
  | some (.program bytes) =>
    let d := { d with writers := d.writers.filter (·.1 != name) }.flush
    match d.scene.launch d.scene.files ⟨bytes, []⟩ ["/bin/sh", "-c", name] with
    | .ok r => (some r.status, d.after r false)
    | .error _ => (some 127, d)
  | some _ => (some 0, { d with writers := d.writers.filter (·.1 != name) })
  | none => (if read then some 0 else none, d)

/-! ## Input -/

/-- Cuts a text behind the first place at which an expression fits. -/
def cutBy (r : Regex) (text : Raw) : Option (Raw × Raw) :=
  let s := subjectOf text
  match (findAll s r (s.chars.size + 2) 0 none).find? fun f => f.start != f.stop with
  | some f => some (slice s.chars 0 f.start, slice s.chars f.stop s.chars.size)
  | none => none

/-- Takes a record. -/
def takeRecord (separator : Raw) (s : Stream) : Option (Raw × Stream) :=
  let whole := if s.isEndless then s.unroll (s.bytes.length + 2 * s.cycle.length) else s.bytes
  if whole.isEmpty then none
  else
    match separator.toList with
    | [c] =>
      let b := UInt8.ofNat c.toNat
      let line := whole.takeWhile (· != b)
      some (Raw.ofBytes line, { s with bytes := whole.drop (line.length + 1) })
    | [] =>
      let text := whole.dropWhile (· == 0x0A)
      if text.isEmpty then none
      else
        match cutBy (.seq (.set (.one '\n')) (.many 1 none (.set (.one '\n')))) (Raw.ofBytes text) with
        | some (r, rest) => some (r, { s with bytes := Raw.toBytes rest })
        | none => some (Raw.ofBytes (if text.getLast? == some 0x0A then text.dropLast else text), { s with bytes := [] })
    | _ =>
      match (compiled? separator).bind fun r => cutBy r (Raw.ofBytes whole) with
      | some (r, rest) => some (r, { s with bytes := Raw.toBytes rest })
      | none =>
        some (Raw.ofBytes (if whole.getLast? == some 0x0A then whole.dropLast else whole), { s with bytes := [] })

/-- Goes on with the input, of which nothing is left for others. -/
def readsInput (d : Desk) : Desk :=
  { d with main := some d.scene.input, scene := { d.scene with input := .empty } }

/-- Opens the next file that an argument names. An argument that assigns is followed. Without any the input
is read. -/
def openNext : Nat → Desk → Except Stop (Bool × Desk)
  | 0, d => .ok (false, d)
  | fuel + 1, d =>
    let count := (d.var "ARGC").toInt.toNat
    if d.argument < count then
      let arg := d.textOf (((d.table "ARGV").find? (toString d.argument)).getD (.text ""))
      let d := { d with argument := d.argument + 1 }
      let name := arg.toList.takeWhile (· != '=')
      let assigns := name.length < arg.length && name.head?.any isNameStart && name.all isNamePart
      if arg.isEmpty then openNext fuel d
      else if assigns then
        let value := String.ofList (unescaped (arg.toList.drop (name.length + 1)))
        openNext fuel (d.setVar (String.ofList name) (.field value))
      else
        let d := { (d.setVar "FILENAME" (.text arg)).setVar "FNR" (.number 0) with named := true }
        if arg == "-" then .ok (true, d.readsInput)
        else
          match Tool.contents? d.scene arg with
          | .ok s => .ok (true, { d with main := some s })
          | .error why =>
            if Tool.isDirectoryReason why then .ok (true, { d with main := some .empty })
            else .error (.fatal ("cannot open \"" ++ arg ++ "\" (" ++ why ++ ")"))
    else if d.named || d.main.isSome then .ok (false, d)
    else .ok (true, { d.readsInput with named := true })

/-- Reads a record of the files that are named as arguments. -/
def readMain : Nat → Desk → Except Stop (Option Raw × Desk)
  | 0, d => .ok (none, d)
  | fuel + 1, d =>
    match d.main.bind (takeRecord (d.varText "RS")) with
    | some (r, rest) =>
      let d := { d with main := some rest }
      let d := d.setVar "NR" (.number ((d.var "NR").toFloat + 1))
      .ok (some r, d.setVar "FNR" (.number ((d.var "FNR").toFloat + 1)))
    | none =>
      match openNext ((d.var "ARGC").toInt.toNat + 2) d with
      | .error e => .error e
      | .ok (true, d) => readMain fuel d
      | .ok (false, d) => .ok (none, d)

/-- The end of a complaint about a run. -/
def whereabouts (d : Desk) : Raw :=
  "\n\tFILENAME=\"" ++ d.varText "FILENAME" ++ "\" FNR=" ++ d.varText "FNR" ++ " NR=" ++ d.varText "NR"

end Desk

end Host.Scan

end PolicyGate
