import PolicyGate.Host.Edit.Run
import PolicyGate.Host.Edit.Written

/-!
# The line editor

An edit script is run over what is read, or over each file in its place. The files that a script
writes to are emptied before it starts. A directory among the files ends the run; a file that is not
there does not.
-/

namespace PolicyGate

namespace Host.Tool

def sedKnown : Known :=
  { tool := "sed", plain := "nErsuzb", withArgument := "efl", optional := "i"
    long := [("binary", 'b'), ("regexp-extended", 'E'), ("debug", 'D'), ("in-place", 'i'),
      ("expression", 'e'), ("file", 'f'), ("line-length", 'l'), ("null-data", 'z'),
      ("zero-terminated", 'z'), ("quiet", 'n'), ("posix", 'P'), ("silent", 'n'), ("sandbox", 'S'),
      ("separate", 's'), ("unbuffered", 'u'), ("version", 'V'), ("help", 'H'),
      ("follow-symlinks", 'F')] }

/-- The jump to a label that is not there. -/
def lostLabel? (commands : Array Edit.Command) : Option Raw :=
  commands.findSome? fun c =>
    match c.act with
    | .jump n | .jumpIfReplaced n | .jumpUnlessReplaced n =>
      if n.isEmpty || (Edit.Desk.placeOf? commands n).isSome then none else some n
    | _ => none

/-- The files that a script writes to. -/
def scriptOutputs (commands : Array Edit.Command) : List Raw :=
  (commands.toList.filterMap fun c =>
    match c.act with
    | .writeFile p | .writeFirstLine p => some p
    | .substitute s => s.file
    | _ => none).eraseDups.filter fun p => p != "/dev/stdout" && p != "/dev/stderr"

/-- The pieces of a script, in order, or why one cannot be read. -/
def scriptPieces (s : Scene) (given : List (Char × Raw)) : Except Ran (List Edit.Piece) :=
  (given.filter fun g => g.1 == 'e' || g.1 == 'f').mapM fun (c, r) =>
    if c == 'e' then .ok { text := r }
    else
      match s.open? r with
      | .ok t => .ok { file := some r, text := Raw.ofBytes t.bytes }
      | .error e => .error (complain ("sed: couldn't open file " ++ e) 4)

/-- The name of the copy that is kept of a file: an asterisk stands for its name. -/
def backupName (ending path : Raw) : Raw :=
  let parts := path.splitOn "/"
  let name := parts.getLast?.getD ""
  let backup := if ending.toList.contains '*' then ending.replace "*" name else name ++ ending
  if backup.toList.contains '/' then backup else "/".intercalate (parts.dropLast ++ [backup])

/-- Puts a new file in the place of another, of which a copy may be kept. -/
def replaced (s : Scene) (files : Files) (path : Raw) (backup : Raw) (follows : Bool)
    (bytes : List UInt8) : Files :=
  let here : Scene := { s with files }
  match if follows then here.reach path else here.reachName path with
  | .error _ => files
  | .ok r =>
    let mode := ((here.reach path).toOption.map (·.node.mode)).getD 0o644
    let files := if backup.isEmpty then files
      else
        match here.place (backupName backup path) with
        | .ok loc => files.addName loc r.number
        | .error _ => files
    files.create r.loc (.file bytes) mode

/-- What becomes of the files that a script is run over: what there is to edit, the complaints about
the others, and whether one of them ends the run. -/
def editSources (s : Scene) (inPlace : Bool) (paths : List Raw) :
    List (Raw × Stream) × List Raw × Option Raw :=
  match paths with
  | [] => ([], [], none)
  | p :: ps =>
    let isInput := p == "-" && !inPlace
    let target : Except Raw Stream := if isInput then .ok s.input
      else
        match s.reach p with
        | .ok r =>
          if inPlace && !r.node.isFile then .error ("sed: couldn't edit " ++ p ++ ": not a regular file")
          else (s.contentOf r).mapError fun e => "sed: read error on " ++ p ++ ": " ++ e
        | .error e => .error ("sed: can't read " ++ p ++ ": " ++ reason e)
    match target with
    | .ok t =>
      let left := if isInput then { s with input := .empty } else s
      let (ts, bad, fatal) := editSources left inPlace ps
      ((p, t) :: ts, bad, fatal)
    | .error e =>
      if e.startsWith "sed: can't read" then
        let (ts, bad, fatal) := editSources s inPlace ps
        (ts, e :: bad, fatal)
      else ([], [], some e)

/-- Runs commands over some files. -/
def editing (s : Scene) (o : Options) (commands : Array Edit.Command) (quiet : Bool) (paths : List Raw) :
    Ran :=
  let inPlace := o.has 'i'
  let ending : UInt8 := if o.has 'z' then 0 else 0x0A
  let (sources, bad, fatal) := editSources s inPlace (if paths.isEmpty then ["-"] else paths)
  let outputs := scriptOutputs commands
  let cleared := outputs.foldl (fun (r : Except Raw Files) p => r.bind fun files =>
    (({ s with files } : Scene).written p [] false).mapError fun e =>
      "sed: couldn't open file " ++ p ++ ": " ++ e) (.ok s.files)
  match cleared with
  | .error e => complain e 4
  | .ok files =>
    let set : Edit.Settings :=
      { commands, quiet, inPlace, ending, traces := o.has 'D'
        depths := ((Edit.depths 0 commands.toList).map (·.1)).toArray
        separate := inPlace || o.has 's'
        strict := o.has 'P'
        width := ((o.value? 'l').map fun v => numeral v.toList).getD 70
        read := fun files p =>
          if p == "/dev/stdin" && readsInput paths then none
          else (({ s with files } : Scene).open? p).toOption.map (·.bytes)
        write := fun files p bytes => (({ s with files } : Scene).written p bytes true).toOption.getD files
        launch := fun files command =>
          s.launch files (if readsInput paths && !inPlace then .empty else s.input) command }
    let isEndless := sources.any fun t => t.2.isEndless
    let lines := sources.zipIdx.flatMap fun (t, k) =>
      Edit.linesOf ending t.1 k (t.2.unroll (if t.2.isEndless then 65536 else 0))
    let (d, status) := Edit.Desk.run set (4 * lines.length + 100000) false { coming := lines, files }
    let d := d.settled set
    let goesOn := status.isSome && d.coming.isEmpty && isEndless
    let leadIn := if o.has 'D' then [(false, Raw.toBytes (Edit.listing commands.toList))] else []
    let fault := d.fault.or (if d.coming.isEmpty then fatal.map fun e => (e.drop 5).toString else none)
    let faults := (fault.map fun f => complaint ("sed: " ++ f)).toList
    let last := match status with
      | some n =>
        if d.fault.isSome then n
        else if d.coming.isEmpty && fatal.isSome then 4
        else if bad.isEmpty then n
        else 2
      | none => 0
    let touched := sources.zipIdx.filter fun (_, k) => d.coming.isEmpty || k ≤ d.line.file
    let pages := (d.line.file, d.page.reverse.flatten) :: d.pages
    let files := if inPlace then
        touched.foldl (fun files (t, k) =>
          replaced s files t.1 ((o.value? 'i').getD "") (o.has 'F') ((pages.lookup k).getD [])) d.files
      else d.files
    let (told, shown) := d.shown.reverse.partition (·.1)
    let left := ((d.coming.filter (·.source == "-")).map fun l =>
      Raw.toBytes (String.ofList l.text.chars) ++ (if l.text.ended then [ending] else [])).flatten
    { writes := bad.map complaint ++ told ++ faults ++ leadIn ++ shown
      status := last, files := some files, waitMs := d.waitMs
      hangs := status.isNone || (goesOn && d.shown.isEmpty)
      endless := if goesOn then (d.shown.head?.map (·.2)).getD [] else []
      inBlocks := !o.has 'u'
      rest := if readsInput paths && !inPlace then some ⟨left, s.input.cycle⟩ else none }

/-- Runs an edit script over what it reads, or over each file in its place. -/
def sed (s : Scene) (args : List Raw) : Ran :=
  sedKnown.run args fun o =>
    let usage := complain "Usage: sed [OPTION]... \x7bscript-only-if-no-other-script\x7d [input-file]..." 1
    match scriptPieces s o.given with
    | .error r => r
    | .ok given =>
      let (script, paths) : List Edit.Piece × List Raw := match given, o.operands with
        | [], p :: paths => ([{ text := p }], paths)
        | ps, paths => (ps, paths)
      let dialect : Edit.Dialect :=
        { extended := o.has 'E' || o.has 'r', strict := o.has 'P', guarded := o.has 'S' }
      if o.has 'V' then said "sed (GNU sed) 4.9\n" 0
      else if script.isEmpty then usage
      else
        match Edit.parse dialect script with
        | .error e => complain ("sed: " ++ e) 1
        | .ok commands =>
          let commands := commands.toArray
          match lostLabel? commands with
          | some n => complain ("sed: can't find label for jump to \x60" ++ n ++ "'") 4
          | none =>
            if paths.isEmpty && o.has 'i' then complain "sed: no input files" 4
            else editing s o commands (o.has 'n' || Edit.asksForQuiet script) paths

end Host.Tool

end PolicyGate
