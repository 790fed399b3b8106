import PolicyGate.Host.Scan.Run

/-!
# The scanner

A scanning program is given as a word or in files, with values for its variables. What it writes to its
output is held back until it ends or starts another program; programs that it writes to run when they are
closed, or at the end.
-/

namespace PolicyGate

namespace Host.Tool

open Scan

/-- How the scanner is to work. -/
structure Scanning where
  files : List Raw := []
  separator : Option Raw := none
  given : List (Raw × Raw) := []

def scannerUsage : Raw :=
  "Usage: mawk [Options] [Program] [file ...]\n\nProgram:\n" ++
  "    The -f option value is the name of a file containing program text.\n" ++
  "    If no -f option is given, a \"--\" ends option processing; the following\n" ++
  "    parameters are the program text.\n\nOptions:\n" ++
  "    -f program-file  Program  text is read from file instead of from the\n" ++
  "                     command-line.  Multiple -f options are accepted.\n" ++
  "    -F value         sets the field separator, FS, to value.\n" ++
  "    -v var=value     assigns value to program variable var.\n" ++
  "    --               unambiguous end of options.\n\n" ++
  "    Implementation-specific options are prefixed with \"-W\".  They can be\n    abbreviated:\n\n" ++
  "    -W version       show version information and exit.\n" ++
  "    -W compat        pre-POSIX 2001.\n" ++
  "    -W dump          show assembler-like listing of program and exit.\n" ++
  "    -W help          show this message and exit.\n" ++
  "    -W interactive   set unbuffered output, line-buffered input.\n" ++
  "    -W exec file     use file as program as well as last option.\n" ++
  "    -W posix         stricter POSIX checking.\n" ++
  "    -W random=number set initial random seed.\n" ++
  "    -W sprintf=number adjust size of sprintf buffer.\n" ++
  "    -W usage         show this message and exit."

/-- Reads the options. The first argument bounds their number. -/
def scanningOptions (name : Raw) : Nat → Scanning → List Raw → Except Ran (Scanning × List Raw)
  | 0, x, ws => .ok (x, ws)
  | _ + 1, x, [] => .ok (x, [])
  | fuel + 1, x, w :: ws =>
    let valued (cs : List Char) (use : Raw → Scanning) : Except Ran (Scanning × List Raw) :=
      if !cs.isEmpty then scanningOptions name fuel (use (String.ofList cs)) ws
      else
        match ws with
        | v :: ws => scanningOptions name fuel (use v) ws
        | [] => .error (complain (name ++ ": option requires an argument -- " ++ String.ofList (w.toList.drop 1)) 2)
    match w.toList with
    | ['-', '-'] => .ok (x, ws)
    | '-' :: 'F' :: cs => valued cs fun v => { x with separator := some (String.ofList (unescaped v.toList)) }
    | '-' :: 'f' :: cs => valued cs fun v => { x with files := x.files ++ [v] }
    | '-' :: 'v' :: cs =>
      let v := if cs.isEmpty then ws.head?.getD "" else String.ofList cs
      let n := v.toList.takeWhile (· != '=')
      if n.length = v.length || !n.head?.any isNameStart || !n.all isNamePart then
        .error (complain (name ++ ": improper assignment: -v " ++ v) 2)
      else
        let value := String.ofList (unescaped (v.toList.drop (n.length + 1)))
        scanningOptions name fuel { x with given := x.given ++ [(String.ofList n, value)] }
          (if cs.isEmpty then ws.tail else ws)
    | '-' :: 'W' :: cs =>
      let what := if cs.isEmpty then ws.head?.getD "" else String.ofList cs
      if what.startsWith "u" || what.startsWith "h" then .error (complain scannerUsage 0)
      else scanningOptions name fuel x (if cs.isEmpty then ws.tail else ws)
    | '-' :: _ :: _ => .error (complain (name ++ ": not an option: " ++ w) 2)
    | _ => .ok (x, w :: ws)

/-- How a program has ended: the status, what it complains about, and whether it goes on for ever. -/
structure Scanned where
  status : Option Nat := none
  complaint : Option Raw := none
  isTired : Bool := false

/-- Runs a part of a program. -/
def scanned (x : Scan.Act Unit) (d : Desk) : Scanned × Bool × Desk :=
  match x d with
  | .ok _ d => ({}, true, d)
  | .error why d =>
    match why with
    | .exit status => ({ status }, false, d)
    | .fatal r => ({ status := some 2, complaint := some r }, false, d)
    | .tired => ({ isTired := true }, false, d)
    | _ => ({}, true, d)

/-- Runs a program that has been read. -/
def scanning (x : Scanning) (s : Scene) (name : Raw) (p : Program) (args : List Raw) : Ran :=
  let number (n : Nat) : Value := .ofNat n
  let given : List (Raw × Value) := x.given.map fun (k, v) => (k, .field v)
  let vars : List (Raw × Value) :=
    [("FS", .text (x.separator.getD " ")), ("OFS", .text " "), ("RS", .text "\n"), ("ORS", .text "\n"),
      ("NR", number 0), ("FNR", number 0), ("SUBSEP", .text "\x1c"), ("CONVFMT", .text "%.6g"),
      ("OFMT", .text "%.6g"), ("ARGC", number (args.length + 1)), ("RSTART", number 0),
      ("RLENGTH", .ofInt (-1))]
  let vars := given.foldl (fun vs g => placedAt g.1 g.2 vs) vars
  let arguments : Table := ("awk" :: args).zipIdx.map fun (a, i) => ⟨toString i, true, .field a⟩
  let environment : Table := s.environment.map fun (k, v) => ⟨k, false, .field v⟩
  let d : Desk :=
    { scene := s, vars, tables := [("ARGV", arguments), ("ENVIRON", environment)], functions := p.functions }
  let isFirst (r : When × Option (List Stmt)) : Bool := match r.1 with
    | .first => true
    | _ => false
  let isLast (r : When × Option (List Stmt)) : Bool := match r.1 with
    | .last => true
    | _ => false
  let firsts := p.rules.filter isFirst
  let lasts := p.rules.filter isLast
  let main := p.rules.filter fun r => !isFirst r && !isLast r
  let (a, goesOn, d) := scanned (runEdge firsts) d
  let (b, _, d) := if !goesOn || (main.isEmpty && lasts.isEmpty) then (a, goesOn, d)
    else scanned (scan main stepLimit) d
  let (c, _, d) := if b.isTired || b.complaint.isSome || lasts.isEmpty then ({}, true, d)
    else scanned (runEdge lasts) d
  let ended : Scanned := if b.isTired || c.isTired then { isTired := true }
    else if b.complaint.isSome then b
    else if c.complaint.isSome then c
    else { status := c.status.or b.status }
  let lastShown := d.pending.head?.map Raw.toBytes
  let d := d.flush
  let d := if ended.isTired then d else d.writers.foldl (fun d w => (d.close w.1).2) d
  let told := (ended.complaint.map fun r => complaint (name ++ ": " ++ r)).toList
  let usesInput := d.varText "FILENAME" == "" || d.varText "FILENAME" == "-"
  { writes := d.shown.reverse ++ told, status := ended.status.getD 0
    endless := if ended.isTired then lastShown.getD [] else []
    hangs := ended.isTired && lastShown.isNone
    waitMs := d.waitedMs, files := some d.scene.files, inBlocks := true
    rest := some (if usesInput then d.main.getD s.input else s.input) }

/-- Runs a scanning program over files. -/
def awk (s : Scene) (args : List Raw) : Ran :=
  let name : Raw := "mawk"
  match scanningOptions name (args.length + 1) {} args with
  | .error r => r
  | .ok (x, rest) =>
    let texts : Except Raw (List Raw) := x.files.mapM fun p =>
      match if p == "-" then .ok s.input else contents? s p with
      | .ok t => .ok (Raw.ofBytes t.bytes)
      | .error why => .error ("cannot open \"" ++ p ++ "\" (" ++ why ++ ")")
    match texts with
    | .error why => complain (name ++ ": " ++ why) 2
    | .ok texts =>
      let source : Option (Raw × List Raw) := match x.files, rest with
        | [], p :: more => some (p, more)
        | [], [] => none
        | _, more => some ("\n".intercalate texts, more)
      match source with
      | none => complain scannerUsage 0
      | some (text, rest) =>
        match program text with
        | .error f => complain (name ++ ": " ++ f.message) 2
        | .ok p => scanning x s name p rest

end Host.Tool

end PolicyGate
