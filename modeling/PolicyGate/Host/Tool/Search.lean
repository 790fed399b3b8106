import PolicyGate.Host.Regex.Rich
import PolicyGate.Host.Regex.Written
import PolicyGate.Host.Shell.Pattern
import PolicyGate.Host.Tool.Basic

/-!
# Finding lines

A search has one or more patterns, which are fixed texts or regular expressions. A line is found if
one of them fits a part of it; the part may have to be the whole line, or whole words.
-/

namespace PolicyGate

namespace Host.Tool

/-- A place in a line where a pattern fits: where that starts and ends. -/
abbrev Match := Nat × Nat

structure Search where
  patterns : List Regex
  fold : Bool := false
  wholeLine : Bool := false
  wholeWords : Bool := false
  /-- Whether the lines that do not fit are wanted. -/
  inverted : Bool := false
  /-- Whether the first way to fit counts, rather than the longest. -/
  eager : Bool := false

/-- A fixed text as an expression. -/
def literal (cs : List Char) : Regex :=
  cs.foldr (fun c r =>
    match r with
    | .empty => .set (.one c)
    | r => .seq (.set (.one c)) r) .empty

namespace Search

/-- What an expression has to fit for the search. -/
def framed (s : Search) (r : Regex) : Regex :=
  if s.wholeLine then .seq (.edge .start) (.seq r (.edge .finish)) else r

/-- Whether no letter of a word is next to a part of a line. -/
def isolated (chars : Array Char) (m : Match) : Bool :=
  let isWord (i : Nat) : Bool := (chars[i]?).any Regex.isWordChar
  (m.1 == 0 || !isWord (m.1 - 1)) && !isWord m.2

/-- The first fit at a place or behind it. -/
def fitFrom (s : Search) (chars : Array Char) : Nat → Nat → Option Match
  | 0, _ => none
  | fuel + 1, i =>
    let found := s.patterns.filterMap fun r =>
      (Regex.search ⟨chars, s.fold, s.eager⟩ (s.framed r) i).map fun f => (f.start, f.stop)
    match found with
    | [] => none
    | m :: ms =>
      let best := ms.foldl (fun (b c : Match) =>
        if c.1 < b.1 || (c.1 == b.1 && b.2 < c.2) then c else b) m
      if !s.wholeWords || isolated chars best then some best
      else
        match shorter s chars best with
        | some m => some m
        | none => if best.1 < chars.size then fitFrom s chars fuel (best.1 + 1) else none
where
  /-- A shorter fit at the same place that is a whole word. -/
  shorter (s : Search) (chars : Array Char) (m : Match) : Option Match :=
    let stops := s.patterns.flatMap fun r =>
      (Regex.ends ⟨chars, s.fold, s.eager⟩ (s.framed r) ⟨m.1, []⟩).map (·.index)
    let fine := stops.filter fun e => isolated chars (m.1, e)
    fine.foldl (fun (best : Option Match) e =>
      if best.all (·.2 < e) then some (m.1, e) else best) none

def fit (s : Search) (chars : Array Char) (i : Nat) : Option Match :=
  s.fitFrom chars (chars.size + 2 - i) i

/-- Whether a line is wanted. -/
def wants (s : Search) (line : Raw) : Bool :=
  (s.fit line.toList.toArray 0).isSome != s.inverted

/-- All fits in a line that are not empty. -/
def fits (s : Search) (chars : Array Char) : Nat → Nat → List Match
  | 0, _ => []
  | fuel + 1, i =>
    match s.fit chars i with
    | none => []
    | some m =>
      if m.1 < m.2 then m :: fits s chars fuel m.2
      else if m.1 < chars.size then fits s chars fuel (m.1 + 1)
      else []

end Search

/-! ## Options -/

def grepKnown : Known :=
  { tool := "grep", plain := "EFGPivcnqoswxlLhHzabrRyIUTZu8", withArgument := "efmABCDd1234579@"
    optional := "6", refusal := 2, usage := "grep [OPTION]... PATTERNS [FILE]..."
    long := [("extended-regexp", 'E'), ("fixed-strings", 'F'), ("fixed-regexp", 'F'),
      ("basic-regexp", 'G'), ("perl-regexp", 'P'), ("ignore-case", 'i'), ("no-ignore-case", '8'),
      ("invert-match", 'v'), ("count", 'c'), ("line-number", 'n'), ("byte-offset", 'b'),
      ("quiet", 'q'), ("silent", 'q'), ("only-matching", 'o'), ("no-messages", 's'),
      ("word-regexp", 'w'), ("line-regexp", 'x'), ("files-with-matches", 'l'),
      ("files-without-match", 'L'), ("no-filename", 'h'), ("with-filename", 'H'), ("regexp", 'e'),
      ("file", 'f'), ("max-count", 'm'), ("after-context", 'A'), ("before-context", 'B'),
      ("context", 'C'), ("text", 'a'), ("null-data", 'z'), ("null", 'Z'), ("recursive", 'r'),
      ("dereference-recursive", 'R'), ("initial-tab", 'T'), ("binary", 'U'), ("line-buffered", 'u'),
      ("include", '1'), ("exclude", '2'), ("exclude-dir", '3'), ("exclude-from", '4'),
      ("label", '5'), ("color", '6'), ("colour", '6'), ("binary-files", '7'),
      ("group-separator", '9'), ("no-group-separator", 'u'), ("directories", 'd'),
      ("devices", 'D'), ("version", 'V')] }

/-- Words such as `-5`, which ask for lines around, in the usual way. -/
def contextWritten (words : List Raw) : List Raw :=
  words.flatMap fun w =>
    match w.toList with
    | '-' :: c :: cs =>
      if c.isDigit then
        let digits := (c :: cs).takeWhile Char.isDigit
        let more := (c :: cs).drop digits.length
        ("-C" ++ String.ofList digits) :: (if more.isEmpty then [] else [String.ofList ('-' :: more)])
      else [w]
    | _ => [w]

/-- The patterns of a run, which are those of the options or the first operand, and the paths. -/
def patternsOf (s : Scene) (o : Options) : Except Ran (List Raw × List Raw) :=
  let lists : Except Ran (List (List Raw)) :=
    (o.given.filter fun g => g.1 == 'e' || g.1 == 'f').mapM fun g =>
      if g.1 == 'e' then .ok (g.2.splitOn "\n")
      else
        match s.open? g.2 with
        | .ok t => .ok (plainLines t.bytes)
        | .error e => .error (complain ("grep: " ++ e) 2)
  match lists with
  | .error r => .error r
  | .ok [] =>
    match o.operands with
    | [] => .error (complain (grepKnown.hint.drop 1).toString 2)
    | p :: paths => .ok (p.splitOn "\n", paths)
  | .ok lists => .ok (lists.flatten, o.operands)

/-- The last of some options that exclude each other. -/
def lastOf (o : Options) (among : String) : Option Char :=
  (o.given.filter fun g => among.toList.contains g.1).getLast?.map (·.1)

/-- Whether a set starts and ends with a colon, as only a class inside a set may. -/
def looseClass : Nat → List Char → Bool
  | 0, _ => false
  | fuel + 1, cs =>
    match cs with
    | '\\' :: _ :: rest => looseClass fuel rest
    | '[' :: rest =>
      let inside := if rest.head? == some '^' then rest.tail else rest
      let name := inside.takeWhile (· != ']')
      let plain := name.all fun c => c != '[' && c != '-'
      (plain && 2 < name.length && name.head? == some ':' && name.getLast? == some ':') ||
        (match Regex.setAfter rest with
          | .ok (_, rest) => looseClass fuel rest
          | .error _ => false)
    | _ :: rest => looseClass fuel rest
    | [] => false

/-- Reads one pattern, and gives what is said about it. -/
def patternRead (kind : Char) (p : Raw) : Except Raw (Regex × List Raw) :=
  if kind == 'F' then .ok (literal p.toList, [])
  else if kind == 'P' then
    match Regex.parseRich {} p with
    | .ok (r, _) => .ok (r, [])
    | .error e => .error e.message
  else
    let style : Regex.Style := { extended := kind == 'E', lenient := true }
    if looseClass (p.length + 1) p.toList then
      .error "character class syntax is [[:space:]], not [:space:]"
    else
      match Regex.parse style p with
      | .ok r =>
        let idle := if kind == 'E' then Regex.idleRepetitions style (p.length + 1) true p.toList else []
        .ok (r, idle.map fun t => "grep: warning: " ++ t ++ " at start of expression")
      | .error e => .error e.message

/-- What is searched for, and what is said about the patterns. -/
def searchOf (o : Options) (patterns : List Raw) : Except Ran (Search × List Raw) :=
  let kinds := (o.given.filter fun g => "EFGP".toList.contains g.1).map (·.1)
  let kind := (kinds.head?).getD 'G'
  if kinds.any (· != kind) then .error (complain "grep: conflicting matchers specified" 2)
  else if kind == 'P' && 1 < patterns.length then
    .error (complain "grep: the -P option only supports a single pattern" 2)
  else
    match patterns.mapM (patternRead kind) with
    | .error e => .error (complain ("grep: " ++ e) 2)
    | .ok read =>
      let none_ := patterns.isEmpty
      let fold := (lastOf o "iy8").any (· != '8')
      .ok (
        { patterns := if none_ then [.empty] else read.map (·.1)
          fold, wholeLine := o.has 'x' && !none_, wholeWords := o.has 'w' && !none_
          inverted := o.has 'v' != none_, eager := kind == 'P' },
        read.flatMap (·.2))

/-! ## Lines -/

/-- A line with its number and the place of its first byte. -/
structure Line where
  text : Raw
  number : Nat
  offset : Nat

def linesOf (ending : UInt8) (bytes : List UInt8) : List Line :=
  let step : List Line × Nat × Nat → List UInt8 → List Line × Nat × Nat :=
    fun (done, number, offset) l =>
      let text := Raw.ofBytes (if l.getLast? == some ending then l.dropLast else l)
      (⟨text, number, offset⟩ :: done, number + 1, offset + l.length)
  ((linesEndedBy ending bytes).foldl step ([], 1, 0)).1.reverse

/-- The lines that are wanted, up to a number of them, and how many lines it took to find them. -/
def wantedLines (s : Search) : Option Nat → List Line → List Line
  | some 0, _ => []
  | _, [] => []
  | room, l :: ls =>
    if s.wants l.text then l :: wantedLines s (room.map (· - 1)) ls else wantedLines s room ls

/-- How lines are shown. -/
structure Shown where
  name : Option Raw
  /-- What ends a name. -/
  nameEnd : Option Char
  numbers : Bool
  offsets : Bool
  parts : Bool
  /-- The width of numbers, if a tab follows them. -/
  tabs : Option Nat
  colours : Bool
  before : Nat
  after : Nat
  /-- What stands between lines that are apart. -/
  gap : Option Raw

namespace Shown

def paint (v : Shown) (colour : Raw) (text : Raw) : Raw :=
  if v.colours then "\x1b[" ++ colour ++ "m\x1b[K" ++ text ++ "\x1b[m\x1b[K" else text

/-- What comes in front of a line. -/
def front (v : Shown) (mark : String) (l : Line) (offset : Nat) : Raw :=
  let sign := v.paint "36" mark
  let aligned (n : Nat) : Raw :=
    String.ofList (List.replicate (v.tabs.getD 0 - (toString n).length) ' ') ++ toString n
  let number (n : Nat) : Raw := v.paint "32" (aligned n) ++ sign
  let name := match v.name, v.nameEnd with
    | some name, some c => v.paint "35" name ++ c.toString
    | some name, none => v.paint "35" name ++ sign
    | none, _ => ""
  name ++ (if v.numbers then number l.number else "") ++ (if v.offsets then number offset else "") ++
    (if v.tabs.isSome && (v.name.isSome || v.numbers || v.offsets) then "\t" else "")

/-- A line in which the parts that fit are painted. -/
def painted (v : Shown) (s : Search) (text : Raw) : Raw :=
  if !v.colours || s.inverted then text
  else
    let cs := text.toList
    let chars := cs.toArray
    let step : Raw × Nat → Match → Raw × Nat := fun (done, i) m =>
      (done ++ String.ofList ((cs.take m.1).drop i) ++
        v.paint "01;31" (String.ofList ((cs.take m.2).drop m.1)), m.2)
    let (done, i) := (s.fits chars (chars.size + 2) 0).foldl step ("", 0)
    done ++ String.ofList (cs.drop i)

/-- The lines of one input as they are shown, given those that are wanted and whether others have been
shown before. -/
def lines (v : Shown) (s : Search) (started : Bool) (all wanted : List Line) : List Raw :=
  if v.parts then
    if s.inverted then []
    else
      wanted.flatMap fun l =>
        let chars := l.text.toList.toArray
        (s.fits chars (chars.size + 2) 0).map fun m =>
          v.front ":" l (l.offset + m.1) ++
            v.paint "01;31" (String.ofList ((l.text.toList.take m.2).drop m.1))
  else if v.before = 0 && v.after = 0 then
    wanted.map fun l => v.front ":" l l.offset ++ v.painted s l.text
  else
    let isNear (n : Nat) : Bool :=
      wanted.any fun w => w.number ≤ n + v.before && n ≤ w.number + v.after
    let step : List Raw × Option Nat → Line → List Raw × Option Nat := fun (done, last) l =>
      let isWanted := wanted.any fun w => w.number == l.number
      let apart := match last with
        | some m => decide (m + 1 < l.number)
        | none => started
      let line := v.front (if isWanted then ":" else "-") l l.offset ++
        (if isWanted then v.painted s l.text else l.text)
      let gaps := if apart then (v.gap.map (v.paint "36")).toList else []
      (line :: gaps ++ done, some l.number)
    ((all.filter fun l => isNear l.number).foldl step ([], none)).1.reverse

end Shown

/-! ## Inputs -/

/-- What is searched: its name, and what there is to read or why there is nothing. -/
abbrev Searched := Raw × Except Raw Stream

/-- Whether a name fits one of some patterns for names, as a whole or behind a slash. -/
def fitsName (patterns : List Raw) (path : Raw) : Bool :=
  let base := (path.splitOn "/").getLastD path
  patterns.any fun p =>
    let items := Shell.Pattern.items (p.toList.map (·, false))
    Shell.Pattern.fits items base.toList || Shell.Pattern.fits items path.toList

/-- The files below a path, with the names that lead to them from it. -/
def searchedBelow (s : Scene) (o : Options) (path : Raw) (r : Reached) : List Searched :=
  let front := if path.isEmpty then "" else if path.endsWith "/" then path else path ++ "/"
  (s.files.below r.loc).filterMap fun found =>
    let names := (found.loc.drop r.loc.length).map Raw.ofText
    let base := names.getLastD ""
    let isFollowed := o.has 'R' && found.node.isLink
    let fine := (found.node.isFile || isFollowed) &&
      (!o.has '1' || fitsName (o.values '1') base) && !fitsName (o.values '2') base &&
      !names.dropLast.any fun n => fitsName (o.values '3') n
    let name := front ++ "/".intercalate names
    if fine then some (name, if isFollowed then contents? s name else s.contentOf found) else none

/-- All that is searched. -/
def searchedIn (s : Scene) (o : Options) (paths : List Raw) : List Searched :=
  let deep := o.has 'r' || o.has 'R' || o.value? 'd' == some "recurse"
  if paths.isEmpty && !deep then [("-", .ok s.input)]
  else
    (if paths.isEmpty then [""] else paths).zipIdx.flatMap fun (p, i) =>
      if p == "-" then [(p, .ok (if (paths.take i).contains "-" then .empty else s.input))]
      else
        match s.reach (if p.isEmpty then "." else p) with
        | .error e => [(p, .error (reason e))]
        | .ok r =>
          if r.node.isDirectory then
            if deep then searchedBelow s o p r
            else if o.value? 'd' == some "skip" then []
            else [(p, .error (reason .isADirectory))]
          else if (o.has '1' && !fitsName (o.values '1') p) || fitsName (o.values '2') p then []
          else [(p, s.contentOf r)]

/-- What is found in one input: what is written, and whether anything is wanted. -/
structure Finding where
  writes : List (Bool × List UInt8) := []
  any : Bool := false
  failed : Bool := false
  /-- How many bytes were looked at, if not all. -/
  seen : Option Nat := none

/-- Searches one input, given whether it is a pipe and whether lines have been shown before. -/
def findingIn (o : Options) (search : Search) (names isPipe started : Bool) (s : Searched) : Finding :=
  let number (c : Char) : Option Nat := (o.value? c).bind count?
  let ending : UInt8 := if o.has 'z' then 0 else 0x0A
  let shownName := if s.1 == "-" then (o.value? '5').getD "(standard input)" else s.1
  let name : Option Raw := if names then some shownName else none
  match s.2 with
  | .error e =>
    { writes := if o.has 's' then [] else [complaint ("grep: " ++ s.1 ++ ": " ++ e)], failed := true }
  | .ok t =>
    let quick := o.has 'q' || o.has 'l' || o.has 'L'
    let limit := if quick then some (min 1 ((number 'm').getD 1)) else number 'm'
    let room := if t.isEndless then t.bytes.length + 64 * (t.cycle.length + 1) + 4096 else 0
    let bytes := t.unroll room
    let all := linesOf ending bytes
    let types := o.value? '7'
    let isBinary := !o.has 'z' && bytes.contains 0 && !(o.has 'a' || types == some "text")
    let skipped := isBinary && (o.has 'I' || types == some "without-match")
    let wanted := if skipped then [] else wantedLines search limit all
    let colours := o.value? '6' == some "always"
    let shown : Shown :=
      { name, nameEnd := if o.has 'Z' then some '\x00' else none
        numbers := o.has 'n', offsets := o.has 'b', parts := o.has 'o', colours
        tabs := if o.has 'T' then some (if isPipe then 20 else (toString bytes.length).length) else none
        before := ((number 'B').or (number 'C')).getD 0
        after := ((number 'A').or (number 'C')).getD 0
        gap := if o.has 'u' && !o.has '9' then none else some ((o.value? '9').getD "--") }
    let endedBy (e : UInt8) (r : Raw) : List UInt8 := r.toBytes ++ [e]
    let listed := [(false, endedBy (if o.has 'Z' then 0 else 0x0A) (shown.paint "35" shownName))]
    let writes : List (Bool × List UInt8) :=
      if o.has 'q' then []
      else if o.has 'l' then if wanted.isEmpty then [] else listed
      else if o.has 'L' then if wanted.isEmpty then listed else []
      else if o.has 'c' then
        let front : Raw := match name, shown.nameEnd with
          | some n, some c => n ++ c.toString
          | some n, none => shown.paint "35" n ++ shown.paint "36" ":"
          | none, _ => ""
        [(false, ended (front ++ toString wanted.length))]
      else if isBinary then
        if wanted.isEmpty then [] else [complaint ("grep: " ++ shownName ++ ": binary file matches")]
      else [(false, (shown.lines search started all wanted).flatMap (endedBy ending))]
    let stopped := limit == some wanted.length
    let seen := if stopped && (t.isEndless || !quick) then
        some ((wanted.getLast?.map fun l => l.offset + l.text.length + 1).getD 0)
      else none
    { writes, any := !wanted.isEmpty, seen }

/-! ## The tool -/

/-- A complaint about an argument that is to be a number and is none. -/
def badNumber? (o : Options) : Option Raw :=
  let bad (c : Char) : Option Raw := (o.values c).find? fun v => !isNumeral v
  match (['A', 'B', 'C'].filterMap bad).head? with
  | some v => some ("grep: " ++ v ++ ": invalid context length argument")
  | none =>
    if (o.values 'm').any fun v => !isNumeral v && !v.startsWith "-" then some "grep: invalid max count"
    else none

/-- Finds lines. -/
def grep (s : Scene) (args : List Raw) : Ran :=
  grepKnown.run (contextWritten args) fun o =>
    match badNumber? o, patternsOf s o with
    | some e, _ => complain e 2
    | none, .error r => r
    | none, .ok (patterns, paths) =>
      match searchOf o patterns with
      | .error r => r
      | .ok (search, notes) =>
        let nothing := patterns == [""] && o.has 'v' && !o.has 'x' && !o.has 'w'
        if (nothing || o.value? 'm' == some "0") && !o.has 'L' then silent 1
        else
          let deep := o.has 'r' || o.has 'R' || o.value? 'd' == some "recurse"
          let isDirectory (p : Raw) : Bool := match s.reach p with
            | .ok r => r.node.isDirectory
            | .error _ => false
          let many := 1 < paths.length || (deep && (paths.isEmpty || paths.any isDirectory))
          let names := (lastOf o "hH").map (· == 'H') |>.getD many
          let step : List Finding → Searched → List Finding := fun done next =>
            if o.has 'q' && done.any (·.any) then done
            else
              let isPipe := next.1 == "-" && !s.inputIsFile
              done ++ [findingIn o search names isPipe (done.any (·.any)) next]
          let found := (searchedIn s o paths).foldl step []
          let any := found.any (·.any)
          let failed := found.any (·.failed)
          let status := if failed && !(o.has 'q' && any) then 2 else if any then 0 else 1
          let endless := s.input.isEndless && (readsInput paths && !deep)
          let seen := (found.find? fun f => f.seen.isSome).bind (·.seen)
          let left : Option Stream :=
            if !readsInput paths || (paths.isEmpty && deep) then none
            else
              match seen with
              | some n => some ⟨s.input.bytes.drop n, s.input.cycle⟩
              | none => some .empty
          { writes := notes.map complaint ++ found.flatMap (·.writes), status, rest := left
            inBlocks := true, hangs := endless && seen.isNone }

end Host.Tool

end PolicyGate
