import PolicyGate.Host.Format
import PolicyGate.Host.Tool.Basic

/-!
# Tools that pass lines on

They show, cut, count and join what they read, byte by byte or line by line.
-/

namespace PolicyGate

namespace Host.Tool

/-! ## Showing -/

/-- A byte as `cat -v` shows it. -/
def visible (tabs : Bool) (b : UInt8) : List UInt8 :=
  let low (b : UInt8) : List UInt8 :=
    if b < 0x20 then [0x5E, b + 0x40] else if b = 0x7F then [0x5E, 0x3F] else [b]
  if b = 0x09 then if tabs then [0x5E, 0x49] else [b]
  else if b = 0x0A then [b]
  else if b < 0x80 then low b
  else [0x4D, 0x2D] ++ low (b - 0x80)

def padLeft (width : Nat) (r : Raw) : Raw :=
  String.ofList (List.replicate (width - r.length) ' ') ++ r

/-- Drops repeated empty lines. -/
def squeezed (lines : List (List UInt8)) : List (List UInt8) :=
  let step : List (List UInt8) × Bool → List UInt8 → List (List UInt8) × Bool :=
    fun (done, empty) l =>
      let e := l == [0x0A]
      (if e && empty then done else l :: done, e)
  (lines.foldl step ([], false)).1.reverse

/-- Puts numbers in front of lines, of all or of those with something in them. -/
def numbered (all : Bool) (gap : Raw) (n : Nat) : List (List UInt8) → List (List UInt8)
  | [] => []
  | l :: ls =>
    if all || strip l != [] then
      (Raw.toBytes (padLeft 6 (toString n) ++ "\t") ++ l) :: numbered all gap (n + 1) ls
    else (Raw.toBytes gap ++ l) :: numbered all gap n ls

def catKnown : Known :=
  { tool := "cat", plain := "AbeEnstTuv"
    long := [("number", 'n'), ("number-nonblank", 'b'), ("squeeze-blank", 's'), ("show-ends", 'E'),
      ("show-tabs", 'T'), ("show-all", 'A'), ("show-nonprinting", 'v')] }

def cat (s : Scene) (args : List Raw) : Ran :=
  catKnown.run args fun o =>
    let paths := o.operands
    if o.given.all (·.1 == 'u') then
      let all := contentsInTurn s (if paths.isEmpty then ["-"] else paths)
      let writes := all.map fun (p, r) =>
        match r with
        | .ok t => (false, t.bytes)
        | .error e => complaint ("cat: " ++ p ++ ": " ++ e)
      let endless := (all.filterMap fun p => p.2.toOption).find? (·.isEndless)
      reading paths
        { writes, endless := (endless.map (·.cycle)).getD [],
          status := if writes.any (·.1) then 1 else 0, direct := paths.isEmpty }
    else
      let (found, bad) := sources "cat" s paths
      let any (cs : String) : Bool := cs.toList.any o.has
      let lines := byteLines (joined found).bytes
      let lines := if o.has 's' then squeezed lines else lines
      let shown := lines.map fun l =>
        let body := strip l
        let body := if any "vAet" then body.flatMap (visible (any "TAt"))
          else if any "T" then body.flatMap fun b => if b = 0x09 then [0x5E, 0x49] else [b]
          else body
        let mark : List UInt8 := if any "EAe" && strip l != l then [0x24] else []
        body ++ mark ++ (if strip l == l then [] else [0x0A])
      let shown := if o.has 'b' then numbered false "" 1 shown
        else if o.has 'n' then numbered true "" 1 shown else shown
      reading paths ((wrote shown.flatten 0).after bad 1)

/-! ## First and last parts -/

/-- How much of each input to show. -/
structure Portion where
  /-- Whether it is counted in bytes, not in lines. -/
  bytes : Bool := false
  count : Nat := 10
  /-- The sign in front of the count. -/
  sign : Option Char := none
  /-- What ends a line. -/
  ending : UInt8 := 0x0A

/-- Reads a count with its sign, or complains about it. -/
def portion (tool : String) (bytes : Bool) (r : Raw) : Except Ran Portion :=
  let sign := r.toList.head?.filter fun c => c == '-' || c == '+'
  let digits := if sign.isSome then String.ofList r.toList.tail else r
  match count? digits with
  | some n => .ok { bytes, count := n, sign }
  | none =>
    .error (complain (tool ++ ": invalid number of " ++ (if bytes then "bytes" else "lines") ++
      ": " ++ quoted digits) 1)

/-- The words with a first word such as `-5` or `+5` written out. -/
def writtenOut (plus : Bool) : List Raw → List Raw
  | a :: rest =>
    match a.toList with
    | sign :: c :: cs =>
      if (sign == '-' || (plus && sign == '+')) && c.isDigit then
        let digits := (c :: cs).takeWhile Char.isDigit
        let unit := (c :: cs).drop digits.length
        let amount := (if sign == '+' then "+" else "") ++ String.ofList digits
        let letters := unit.filter fun c => "qvzfF".toList.contains c
        (if unit.contains 'c' then "-c" else "-n") :: amount ::
          ((if letters.isEmpty then [] else [String.ofList ('-' :: letters)]) ++ rest)
      else a :: rest
    | _ => a :: rest
  | [] => []

/-- The portion that the options ask for. The last option counts. -/
def portionOf (tool : String) (o : Options) : Except Ran Portion :=
  let ending : UInt8 := if o.has 'z' then 0 else 0x0A
  match (o.given.filter fun g => g.1 == 'n' || g.1 == 'c').getLast? with
  | some (c, r) => (portion tool (c == 'c') r).map ({ · with ending })
  | none => .ok { ending }

/-- What each input shows, with its name in front where there are several. One that cannot be read has
its name shown only if it was opened. -/
def titled (o : Options) (found : List (Raw × Stream)) (many : Bool)
    (show_ : Stream → List UInt8) : List UInt8 :=
  let wanted := (many && !o.has 'q') || o.has 'v'
  let pieces := found.map fun (name, s) =>
    let name := if name == "-" then "standard input" else name
    (if wanted then Raw.toBytes ("==> " ++ name ++ " <==\n") else []) ++ show_ s
  (pieces.intersperse (if wanted then [0x0A] else [])).flatten

/-- The first lines of a stream. An endless one is looked at as far as it takes. -/
def firstLines (ending : UInt8) (s : Stream) (n : Nat) : List UInt8 :=
  let room := if s.isEndless then s.bytes.length + (n + 1) * (s.cycle.length + 1) else 0
  ((linesEndedBy ending (s.unroll room)).take n).flatten

def headPart (p : Portion) (s : Stream) : List UInt8 :=
  if p.sign == some '-' then
    if p.bytes then s.bytes.take (s.bytes.length - p.count)
    else
      let lines := linesEndedBy p.ending s.bytes
      (lines.take (lines.length - p.count)).flatten
  else if p.bytes then s.take p.count
  else firstLines p.ending s p.count

def headKnown : Known :=
  { tool := "head", plain := "qvz", withArgument := "nc"
    long := [("lines", 'n'), ("bytes", 'c'), ("quiet", 'q'), ("silent", 'q'), ("verbose", 'v'),
      ("zero-terminated", 'z')] }

def head (s : Scene) (args : List Raw) : Ran :=
  headKnown.run (writtenOut false args) fun o =>
    match portionOf "head" o with
    | .error r => r
    | .ok p =>
      let (found, bad) := sourcesBy (openWords "head") s o.operands
      let out := titled o found (1 < o.operands.length) (headPart p)
      let r := (wrote out 0).after bad 1
      if readsInput o.operands then
        { r with
          rest := some ⟨s.input.bytes.drop (headPart p s.input).length, s.input.cycle⟩
          inBlocks := !p.bytes }
      else r

def tailPart (p : Portion) (s : Stream) : List UInt8 :=
  if p.sign == some '+' then
    if p.bytes then s.bytes.drop (p.count - 1)
    else ((linesEndedBy p.ending s.bytes).drop (p.count - 1)).flatten
  else if p.bytes then s.bytes.drop (s.bytes.length - p.count)
  else
    let lines := linesEndedBy p.ending s.bytes
    (lines.drop (lines.length - p.count)).flatten

def tailKnown : Known :=
  { headKnown with
    tool := "tail", plain := "qvzfF", withArgument := "ncs", long := headKnown.long ++ [("follow", 'f')] }

def tail (s : Scene) (args : List Raw) : Ran :=
  tailKnown.run (writtenOut true args) fun o =>
    match portionOf "tail" o with
    | .error r => r
    | .ok p =>
      let (found, bad) := sourcesBy (openWords "tail") s o.operands
      let follows := (o.has 'f' || o.has 'F') && (!o.operands.isEmpty || s.inputIsFile)
      reading o.operands
        { (wrote (titled o found (1 < o.operands.length) (tailPart p)) 0).after bad 1 with
          hangs := follows && !found.isEmpty }

/-! ## Counting -/

def isAsciiSpace (b : UInt8) : Bool := b = 0x20 || (0x09 ≤ b && b ≤ 0x0D)

/-- The number of words. Bytes that are not shown neither make a word nor end it. -/
def wordCount (bytes : List UInt8) : Nat :=
  let step : Nat × Bool → UInt8 → Nat × Bool := fun (n, inside) b =>
    if isAsciiSpace b then (n, false)
    else if 0x21 ≤ b && b ≤ 0x7E then (if inside then n else n + 1, true)
    else (n, inside)
  (bytes.foldl step (0, false)).1

/-- The width of the widest line. A tab goes to the next eighth column. -/
def widestLine (bytes : List UInt8) : Nat :=
  let step : Nat × Nat → UInt8 → Nat × Nat := fun (most, here) b =>
    if b = 0x0A || b = 0x0D || b = 0x0C then (max most here, 0)
    else if b = 0x09 then (most, here + 8 - here % 8)
    else if 0x20 ≤ b && b ≤ 0x7E then (most, here + 1)
    else (most, here)
  let (most, here) := bytes.foldl step (0, 0)
  max most here

def wcKnown : Known :=
  { tool := "wc", plain := "lwcmL", withArgument := "TF"
    long := [("lines", 'l'), ("words", 'w'), ("bytes", 'c'), ("chars", 'm'), ("max-line-length", 'L'),
      ("total", 'T'), ("files0-from", 'F')] }

/-- The counts of some bytes, with the letters that ask for them. -/
def countsOf (bytes : List UInt8) : List (Char × Nat) :=
  [('l', bytes.count 0x0A), ('w', wordCount bytes), ('m', bytes.length), ('c', bytes.length),
    ('L', widestLine bytes)]

def wc (s : Scene) (args : List Raw) : Ran :=
  wcKnown.run args fun o =>
    let listed : List Raw := match o.value? 'F' with
      | some p => ((contents? s p).toOption.map fun t =>
          (Raw.ofBytes t.bytes).splitOn "\x00" |>.filter (!·.isEmpty)).getD []
      | none => o.operands
    let paths := listed
    let all : List (Raw × Except Raw Stream) :=
      contentsInTurn s (if paths.isEmpty then ["-"] else paths)
    let bad := all.filterMap fun (p, r) =>
      match r with
      | .ok _ => none
      | .error e => some ("wc: " ++ p ++ ": " ++ e)
    let found : List (Raw × List UInt8) := all.filterMap fun (p, r) =>
      match r with
      | .ok t => some (p, t.bytes)
      | .error e => if isDirectoryReason e then some (p, []) else none
    let wanted (c : Char) : Bool :=
      if "lwcmL".toList.all fun c => !o.has c then c == 'l' || c == 'w' || c == 'c' else o.has c
    let counts (bytes : List UInt8) : List Nat :=
      ((countsOf bytes).filter fun c => wanted c.1).map (·.2)
    let total := found.flatMap (·.2)
    let unsized := (readsInput paths && !s.inputIsFile) || bad.any fun e => e.endsWith "directory"
      && !e.endsWith "such file or directory"
    let style := (o.value? 'T').getD "auto"
    let columns := (counts []).length
    let width :=
      if (columns = 1 && paths.length ≤ 1) || style == "only" then 1
      else max (toString total.length).length (if unsized then 7 else 1)
    let line (ns : List Nat) (name : Raw) : Raw :=
      " ".intercalate (ns.map fun n => padLeft width (toString n)) ++
        (if name.isEmpty then "" else " " ++ name) ++ "\n"
    let each := if style == "only" then []
      else found.map fun f => line (counts f.2) (if paths.isEmpty then "" else f.1)
    let sums : List Nat :=
      let all := found.map fun f => countsOf f.2
      ((countsOf []).filter fun c => wanted c.1).map fun c =>
        let ns := all.map fun cs => (cs.lookup c.1).getD 0
        if c.1 == 'L' then ns.foldl max 0 else ns.foldl (· + ·) 0
    let sum := if style == "never" then []
      else if 1 < paths.length || style == "always" || style == "only" then
        [line sums (if style == "only" then "" else "total")] else []
    reading paths ((said (String.join (each ++ sum)) 0).after bad 1)

/-! ## Writing to files -/

/-- Writes its input to files as well as on. -/
def tee (s : Scene) (args : List Raw) : Ran :=
  ({ tool := "tee", plain := "aip", long := [("append", 'a'), ("ignore-interrupts", 'i')] } : Known).run
    args fun o =>
    let put (acc : Files × List Raw) (path : Raw) : Files × List Raw :=
      let (files, bad) := acc
      match ({ s with files } : Scene).written path s.input.bytes (o.has 'a') with
      | .ok files => (files, bad)
      | .error e => (files, bad ++ ["tee: " ++ path ++ ": " ++ e])
    let (files, bad) := o.operands.foldl put (s.files, [])
    let copies := (o.operands.filter fun p => p == "/dev/stdout" || p == "-").map fun _ =>
      (false, s.input.bytes)
    let errors := (o.operands.filter (· == "/dev/stderr")).map fun _ => (true, s.input.bytes)
    let further (path : Raw) : Option (Nat × List UInt8) :=
      match s.reach path with
      | .error _ => none
      | .ok r =>
        match r.node.content with
        | .device (.descriptor n) => if 2 < n then some (n, s.input.bytes) else none
        | _ => none
    let aside := o.operands.filterMap further
    let ran : Ran := { writes := (false, s.input.bytes) :: copies ++ errors, endless := s.input.cycle, aside }
    { ran.after bad 1 with
      rest := some .empty, files := some files, direct := true }

end Host.Tool

end PolicyGate
