import PolicyGate.Host.Extract.Run

/-!
# The extractor

An extraction script is run once, or once for each line of what is read. Parts of the script can run
before all else or after it. What it writes to its output is lost if it is killed.
-/

namespace PolicyGate

namespace Host.Tool

open Extract

/-- How the extractor is to work. -/
structure Extraction where
  /-- The script, in parts. -/
  code : List Raw := []
  loops : Bool := false
  prints : Bool := false
  splits : Bool := false
  /-- What separates the parts of a line. -/
  between : Option Raw := none
  /-- Whether lines lose their ends and get back what is given here. -/
  ends : Option Raw := none
  /-- What separates lines. -/
  separator : Option Raw := some "\n"
  inPlace : Option Raw := none
  onlyChecks : Bool := false
  /-- Whether words that start with a dash set variables. -/
  setsVariables : Bool := false

/-- Why the extractor does not start. -/
def unstarted (what : Raw) : Except Ran (Extraction × List Raw) := .error (complain what 29)

/-- The text that a number of a byte in octal digits asks for. -/
def octalByte (ds : List Char) : Option Raw :=
  let n := ds.foldl (fun n c => 8 * n + (c.toNat - 48)) 0
  if n = 0 && ds.length = 2 then some ""
  else if 255 < n then none
  else some (Char.ofNat n).toString

/-- Reads the letters behind a dash. -/
def extractionLetters : Nat → Extraction → List Char → List Raw → Except Ran (Extraction × List Raw)
  | 0, x, _, rest => .ok (x, rest)
  | _ + 1, x, [], rest => .ok (x, rest)
  | fuel + 1, x, c :: cs, rest =>
    if c == 'e' || c == 'E' then
      if !cs.isEmpty then .ok ({ x with code := x.code ++ [String.ofList cs] }, rest)
      else
        match rest with
        | a :: rest => .ok ({ x with code := x.code ++ [a] }, rest)
        | [] => unstarted ("No code specified for -" ++ c.toString ++ ".")
    else if c == 'n' then extractionLetters fuel { x with loops := true } cs rest
    else if c == 'p' then extractionLetters fuel { x with loops := true, prints := true } cs rest
    else if c == 'a' then extractionLetters fuel { x with loops := true, splits := true } cs rest
    else if c == 'l' then
      let ds := (cs.take 3).takeWhile isOctal
      let ends := if ds.isEmpty then x.separator.getD "" else (octalByte ds).getD ""
      extractionLetters fuel { x with ends := some ends } (cs.drop ds.length) rest
    else if c == '0' then
      let ds := cs.takeWhile isOctal
      extractionLetters fuel { x with separator := octalByte (c :: ds) } (cs.drop ds.length) rest
    else if c == 'F' then
      let (given, rest) := if cs.isEmpty then (rest.head?.getD "", rest.tail) else (String.ofList cs, rest)
      .ok ({ x with loops := true, splits := true, between := some given }, rest)
    else if c == 'i' then .ok ({ x with inPlace := some (String.ofList cs) }, rest)
    else if c == 'M' || c == 'm' then .ok (x, rest)
    else if c == 'I' then .ok (x, if cs.isEmpty then rest.tail else rest)
    else if c == 'c' then extractionLetters fuel { x with onlyChecks := true } cs rest
    else if c == 's' then extractionLetters fuel { x with setsVariables := true } cs rest
    else if "wWXtTuUSf".toList.contains c then extractionLetters fuel x cs rest
    else if c == '-' && cs.isEmpty then .ok (x, rest)
    else unstarted ("Unrecognized switch: -" ++ String.ofList (c :: cs) ++ "  (-h will show valid options).")

/-- Reads the words up to the first that is no option. -/
def extractionOptions : Nat → Extraction → List Raw → Except Ran (Extraction × List Raw)
  | 0, x, ws => .ok (x, ws)
  | _ + 1, x, [] => .ok (x, [])
  | fuel + 1, x, w :: ws =>
    match w.toList with
    | ['-', '-'] => .ok (x, ws)
    | '-' :: c :: cs =>
      match extractionLetters (cs.length + 2) x (c :: cs) ws with
      | .error r => .error r
      | .ok (x, ws) => extractionOptions fuel x ws
    | _ => .ok (x, w :: ws)

/-- The text of a script that runs once for each line of what is read. -/
def aroundLines (x : Extraction) (code : Raw) : Raw :=
  let pattern : Raw := match x.between with
    | none => "' '"
    | some r =>
      match r.toList with
      | m :: more =>
        if (m == '/' || m == '"' || m == '\'') && more.getLast? == some m then r
        else if r == " " then "' '"
        else "/" ++ r.replace "/" "\\/" ++ "/"
      | [] => "//"
  if x.loops then
    "LINE: while (<>) \x7b" ++ (if x.ends.isSome then "chomp;" else "") ++
      (if x.splits then "our @F=split(" ++ pattern ++ ");" else "") ++ code ++ "\n;\x7d" ++
      (if x.prints then "continue\x7bprint\x7d" else "")
  else code

/-- What is said about a script that cannot be read, given its name and its text. -/
def unread (name : Raw) (place : Place) : Extract.Fault → Raw :=
  let aborted := "Execution of " ++ name ++ " aborted due to compilation errors.\n"
  let at_ (rest : List Char) : Raw := " at " ++ name ++ " line " ++ toString (place.line rest)
  fun
  | .misplaced rest =>
    let cs := passed rest
    "syntax error" ++ at_ cs ++ ", " ++
      (if cs.isEmpty then "at EOF" else "near \"" ++ String.ofList (cs.takeWhile (· != '\n')) ++ "\"") ++
      "\n" ++ aborted
  | .unended what rest =>
    if what == "]" || what == "\x7d" then "syntax error" ++ at_ [] ++ ", at EOF\n" ++ aborted
    else
    let said := if what.startsWith "string" then "Can't find " ++ what ++ " anywhere before EOF"
      else if what == "s text" then "Substitution pattern not terminated"
      else if what == "s" then "Substitution replacement not terminated"
      else if what == "tr text" || what == "y text" then "Transliteration pattern not terminated"
      else if what == "tr" || what == "y" then "Transliteration replacement not terminated"
      else if what.startsWith "q" then
        let mark := (rest.head?.map closing).getD ' '
        let quote := if mark == '"' then "'" else "\""
        "Can't find string terminator " ++ quote ++ mark.toString ++ quote ++ " anywhere before EOF"
      else "Search pattern not terminated"
    said ++ at_ rest ++ ".\n"
  | .unclosed rest =>
    "Missing right curly or square bracket" ++ at_ rest ++ ", at end of line\nsyntax error" ++ at_ rest ++
      ", at EOF\n" ++ aborted
  | .badPattern what => what ++ at_ [] ++ ".\n"

/-- What a script ends with: its status, the signal that has killed it, and whether it never ends. -/
structure Ended where
  status : Nat := 0
  signal : Option Nat := none
  isTired : Bool := false

/-- Runs some actions to their end. -/
def finished (x : Extract.Act (List Value)) (b : Bench) : Ended × Bench :=
  match x b with
  | .ok _ b => ({}, b)
  | .error stop b =>
    match stop with
    | .exit n => ({ status := n }, b)
    | .died why =>
      let code := ((b.scalar "?").toInt / 256 % 256).toNat
      let status := if b.failure % 256 != 0 then b.failure % 256 else if code != 0 then code else 255
      ({ status }, b.tell why.toText)
    | .next l => ({ status := 255 }, b.tell (lost "next" l ++ b.whereabouts))
    | .last l => ({ status := 255 }, b.tell (lost "last" l ++ b.whereabouts))
    | .gave _ => ({ status := 255 }, b.tell ("Can't return outside a subroutine" ++ b.whereabouts))
    | .killed n => ({ status := 128 + n, signal := some n }, b)
    | .tired => ({ isTired := true }, b)
where
  lost (what label : Raw) : Raw :=
    if label.isEmpty then "Can't \"" ++ what ++ "\" outside a loop block"
    else "Label not found for \"" ++ what ++ " " ++ label ++ "\""

def closeAll : List Raw → Extract.Act Unit
  | [] => return ()
  | d :: ds => do
    let _ ← closed d
    closeAll ds

/-- How deep scripts go at most. -/
def scriptDepth : Nat := 100000000

/-- Runs a script that has been read. -/
def extracted (x : Extraction) (s : Scene) (name : Raw) (data : Option Raw) (body : List Stmt)
    (args : List Raw) : Ran :=
  let defined := definitionsIn body
  let sets := if x.setsVariables then (args.takeWhile fun a => a.startsWith "-" && a != "--") else []
  let args := args.drop sets.length
  let args := if x.setsVariables && args.head? == some "--" then args.tail else args
  let variables_ := sets.map fun a =>
    let cs := a.toList.drop 1
    let n := cs.takeWhile (· != '=')
    (String.ofList n, if n.length < cs.length then Value.text (String.ofList (cs.drop (n.length + 1)))
      else .whole 1)
  let separator : Value := match x.separator with
    | some r => .text r
    | none => .absent
  let b : Bench :=
    { scene := s, script := name, looped := x.loops, inPlace := x.inPlace
      functions := defined.reverse.filter fun d => d.1 != "BEGIN" && d.1 != "END"
      scalars := variables_ ++ [("/", separator), ("\"", .text " "), ("|", .whole 0), ("@", .text ""),
        ("\\", (x.ends.map Value.text).getD .absent)]
      rows := [("ARGV", args.map Value.text)]
      tables := [("ENV", s.environment.map fun (k, v) => (k, .text v))]
      doors := match data with
        | some r => [("DATA", { way := .source ⟨r.toBytes, []⟩, shown := "DATA" })]
        | none => [] }
  let begins := (defined.filter (·.1 == "BEGIN")).map fun d => Stmt.block "" d.2
  let ends := ((defined.filter (·.1 == "END")).map fun d => Stmt.block "" d.2).reverse
  let (done, b) := finished (runAll scriptDepth false (begins ++ body)) b
  let (last, b) := if ends.isEmpty || done.isTired || done.signal.isSome then (done, b)
    else
      let (e, b) := finished (runAll scriptDepth false ends) b
      (if e.status != 0 || e.isTired || e.signal.isSome then e else done, b)
  let left : Option Stream :=
    match b.doors.lookup (if b.begun && (b.scalar "ARGV").toText == "-" then "ARGV" else "STDIN") with
    | some ⟨.source t, _, _⟩ => some t
    | _ => none
  let b := if last.isTired || last.signal.isSome then b
    else
      match closeAll ((b.doors.map (·.1)).filter (· != "STDIN")) b with
      | .ok _ c | .error _ c => c
  let lastShown := b.pending.head?.map Raw.toBytes
  let b := if last.signal.isSome then b else b.flush
  { writes := b.shown.reverse, status := last.status, killed := last.signal
    endless := if last.isTired then lastShown.getD [] else []
    hangs := last.isTired && lastShown.isNone
    waitMs := b.waitedMs, files := some b.scene.files, inBlocks := true
    rest := some (left.getD b.scene.input) }

/-- The options in the first line of a script. -/
def firstLineOptions (text : Raw) : List Raw :=
  if text.startsWith "#!" then
    let ws := (wordsOf (text.toList.takeWhile (· != '\n'))).tail
    (ws.dropWhile fun w => !w.startsWith "-").filter (·.startsWith "-")
  else []

/-- Runs an extraction script that is given in the options, in a file, or at the input. -/
def perl (s : Scene) (args : List Raw) : Ran :=
  match extractionOptions (args.length + 1) {} args with
  | .error r => r
  | .ok (x, args) =>
    let source : Except Ran (Raw × Raw × List Raw × Scene) := match x.code, args with
      | c :: cs, args => .ok ("-e", "\n".intercalate (c :: cs), args, s)
      | [], [] => .ok ("-", Raw.ofBytes s.input.bytes, [], { s with input := .empty })
      | [], "-" :: more => .ok ("-", Raw.ofBytes s.input.bytes, more, { s with input := .empty })
      | [], path :: more =>
        match contents? s path with
        | .ok t => .ok (path, Raw.ofBytes t.bytes, more, s)
        | .error why => .error (complain ("Can't open perl script \"" ++ path ++ "\": " ++ why)
            (failureNumber why))
    match source with
    | .error r => r
    | .ok (name, text, args, s) =>
      let x := match extractionOptions 9 x (if x.code.isEmpty then firstLineOptions text else []) with
        | .ok (y, _) => { y with code := [] }
        | .error _ => x
      let lines := text.splitOn "\n"
      let isEnd (l : Raw) : Bool := l == "__END__" || l == "__DATA__"
      let body := lines.takeWhile fun l => !isEnd l
      let data := (lines.drop (body.length + 1))
      let code := aroundLines x ("\n".intercalate body)
      match script code with
      | .error f => { writes := [(true, Raw.toBytes (unread name { ends := code.toList.count '\n' } f))], status := 255 }
      | .ok stmts =>
        if x.onlyChecks then complain (name ++ " syntax OK") 0
        else extracted x s name (if body.length < lines.length then some ("\n".intercalate data) else none) stmts args

end Host.Tool

end PolicyGate
