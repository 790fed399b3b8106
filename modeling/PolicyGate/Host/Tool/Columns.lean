import PolicyGate.Host.Regex.Written
import PolicyGate.Host.Tool.Lines

/-!
# Lines and columns

Tools that cut lines at columns or fields, put lines beside each other, number them, break long ones,
and turn tabs into blanks or blanks into tabs.
-/

namespace PolicyGate

namespace Host.Tool

/-! ## Cutting -/

/-- A range of positions, counted from one. -/
structure Span where
  low : Nat
  high : Option Nat
  deriving DecidableEq

/-- Reads a list of ranges such as `1,3-5,7-`. -/
def spans (fields : Bool) (r : Raw) : Except Raw (List Span) :=
  let separators (c : Char) : Bool := c == ',' || c == ' ' || c == '\t'
  let zero : Raw := if fields then "fields are numbered from 1"
    else "byte/character positions are numbered from 1"
  (r.toList.splitOnP separators).mapM fun cs =>
    let low := cs.takeWhile Char.isDigit
    let bad (from_ : List Char) : Except Raw Span :=
      .error ((if fields then "invalid field value " else "invalid byte/character position ") ++
        quoted (String.ofList from_))
    match cs.drop low.length with
    | [] => if low.isEmpty || numeral low = 0 then .error zero else .ok ⟨numeral low, some (numeral low)⟩
    | '-' :: high =>
      let digits := high.takeWhile Char.isDigit
      if digits.length < high.length then
        (if high.contains '-' && digits.isEmpty then .error "invalid byte or character range"
          else bad (high.drop 0))
      else if low.isEmpty && high.isEmpty then .error "invalid range with no endpoint: -"
      else if !low.isEmpty && numeral low = 0 then .error zero
      else
        let start := if low.isEmpty then 1 else numeral low
        if high.isEmpty then .ok ⟨start, none⟩
        else if numeral high < start then .error "invalid decreasing range"
        else .ok ⟨start, some (numeral high)⟩
    | rest => bad (if low.isEmpty then cs else rest |> fun _ => cs)

/-- Ranges in order, those that overlap made one. -/
def mergedSpans (ss : List Span) : List Span :=
  let sorted := ss.mergeSort fun a b => a.low ≤ b.low
  let step : List Span → Span → List Span := fun done s =>
    match done with
    | t :: rest =>
      if t.high.all (s.low ≤ ·) then
        { t with high := match t.high, s.high with
          | some a, some b => some (max a b)
          | _, _ => none } :: rest
      else s :: done
    | [] => [s]
  (sorted.foldl step []).reverse

/-- The ranges between ranges. -/
def otherSpans (ss : List Span) : List Span :=
  let step : List Span × Option Nat → Span → List Span × Option Nat := fun (done, from_) s =>
    match from_ with
    | none => (done, none)
    | some f =>
      ((if f < s.low then Span.mk f (some (s.low - 1)) :: done else done), s.high.map (· + 1))
  let (done, from_) := ss.foldl step ([], some 1)
  (match from_ with
    | some f => Span.mk f none :: done
    | none => done).reverse

/-- The items in each range. -/
def inSpans {α : Type} (ss : List Span) (items : List α) : List (List α) :=
  ss.filterMap fun s =>
    let from_ := items.drop (s.low - 1)
    let part := match s.high with
      | some h => from_.take (h + 1 - s.low)
      | none => from_
    if part.isEmpty then none else some part

def cutKnown : Known :=
  { tool := "cut", plain := "snzP", withArgument := "bcfdO"
    long := [("bytes", 'b'), ("characters", 'c'), ("fields", 'f'), ("delimiter", 'd'),
      ("only-delimited", 's'), ("output-delimiter", 'O'), ("complement", 'P'), ("zero-terminated", 'z')] }

/-- The fields of a text between delimiters. -/
def fieldsBy (delimiter : UInt8) (line : List UInt8) : List (List UInt8) := line.splitOn delimiter

def cut (s : Scene) (args : List Raw) : Ran :=
  cutKnown.run args fun o =>
    let lists := o.given.filter fun g => "bcf".toList.contains g.1
    let delimiter := o.value? 'd'
    match lists with
    | [] => cutKnown.refuse "you must specify a list of bytes, characters, or fields"
    | (kind, list) :: more =>
      let byFields := kind == 'f'
      if !more.isEmpty then cutKnown.refuse "only one list may be specified"
      else if delimiter.any fun d => 1 < d.length then
        cutKnown.refuse "the delimiter must be a single character"
      else if delimiter.isSome && !byFields then
        cutKnown.refuse "an input delimiter may be specified only when operating on fields"
      else if o.has 's' && !byFields then
        cutKnown.refuse "suppressing non-delimited lines makes sense\n\tonly when operating on fields"
      else
        match spans byFields list with
        | .error e => cutKnown.refuse e
        | .ok ss =>
          let ss := mergedSpans ss
          let ss := if o.has 'P' then otherSpans ss else ss
          let ending : UInt8 := if o.has 'z' then 0 else 0x0A
          let mark : UInt8 := match delimiter with
            | some d => byteOf (d.toList.head?.getD '\x00')
            | none => 0x09
          let joint : List UInt8 := match o.value? 'O' with
            | some "" => [0]
            | some j => Raw.toBytes j
            | none => if byFields then [mark] else []
          let line (l : List UInt8) : Option (List UInt8) :=
            if byFields then
              let fields := fieldsBy mark l
              if fields.length = 1 then if o.has 's' then none else some l
              else some (((inSpans ss fields).flatten.intersperse joint).flatten)
            else some (((inSpans ss l).intersperse joint).flatten)
          let (found, bad) := sources "cut" s o.operands
          let bytes := (joined found).bytes
          let strip (l : List UInt8) : List UInt8 := if l.getLast? == some ending then l.dropLast else l
          let records := if byFields && mark = ending then (if bytes.isEmpty then [] else [bytes])
            else linesEndedBy ending bytes
          let lines := records.filterMap fun l => (line (strip l)).map (· ++ [ending])
          reading o.operands ((wrote lines.flatten 0).after bad 1)

/-! ## Beside each other -/

/-- Joins cells by the delimiters in turn. A zero stands for none. -/
def joinCells (all : List Char) : List Char → List Raw → Raw
  | _, [] => ""
  | _, [c] => c
  | ds, c :: cs =>
    let text (d : Char) : Raw := if d == '\x00' then "" else d.toString
    match ds, all with
    | d :: ds, _ => c ++ text d ++ joinCells all ds cs
    | [], d :: ds => c ++ text d ++ joinCells all ds cs
    | [], [] => c ++ joinCells all [] cs

/-- The delimiters of `paste`, in which a zero stands for none. -/
def pasteDelimiters : List Char → List Char
  | [] => []
  | '\\' :: c :: cs =>
    (match c with
      | '0' => '\x00'
      | 'b' => '\x08'
      | 'f' => '\x0c'
      | 'n' => '\n'
      | 'r' => '\r'
      | 't' => '\t'
      | 'v' => '\x0b'
      | c => c) :: pasteDelimiters cs
  | c :: cs => c :: pasteDelimiters cs

/-- Rows of cells, given for each column the number of its text. Columns of one text read on from each
other. -/
def rowsOf (columns : List Nat) : Nat → List (Nat × List Raw) → List (List Raw)
  | 0, _ => []
  | fuel + 1, texts =>
    let step : List (Option Raw) × List (Nat × List Raw) → Nat → List (Option Raw) × List (Nat × List Raw) :=
      fun (cells, texts) c =>
        match texts.lookup c with
        | some (l :: ls) => (some l :: cells, (c, ls) :: texts.filter (·.1 != c))
        | _ => (none :: cells, texts)
    let (cells, rest) := columns.foldl step ([], texts)
    if cells.all Option.isNone then []
    else (cells.reverse.map fun c => c.getD "") :: rowsOf columns fuel rest

def pasteKnown : Known :=
  { tool := "paste", plain := "sz", withArgument := "d"
    long := [("delimiters", 'd'), ("serial", 's'), ("zero-terminated", 'z')] }

def paste (s : Scene) (args : List Raw) : Ran :=
  pasteKnown.run args fun o =>
    let paths := if o.operands.isEmpty then ["-"] else o.operands
    let (found, bad) := sources "paste" s paths
    let given := (o.value? 'd').getD "\t"
    let delimiters := pasteDelimiters given.toList
    let ending : UInt8 := if o.has 'z' then 0 else 0x0A
    let lines (bytes : List UInt8) : List Raw :=
      (linesEndedBy ending bytes).map fun l => Raw.ofBytes (if l.getLast? == some ending then l.dropLast else l)
    if given.endsWith "\\" && !given.endsWith "\\\\" then
      complain ("paste: delimiter list ends with an unescaped backslash: " ++ given) 1
    else if o.has 's' then
      let step : List Raw × Bool → Raw × Stream → List Raw × Bool := fun (done, used) f =>
        let ls := if f.1 == "-" then (if used then [] else lines f.2.bytes) else lines f.2.bytes
        (joinCells delimiters delimiters ls :: done, used || f.1 == "-")
      let (rows, _) := found.foldl step ([], false)
      reading paths ((wrote (rows.reverse.flatMap fun r => Raw.toBytes r ++ [ending]) 0).after bad 1)
    else if !bad.isEmpty then reading paths ((wrote [] 0).after (bad.take 1) 1)
    else
      let numbered := found.zipIdx.map fun (f, i) => (if f.1 == "-" then 0 else i + 1, f.2)
      let texts := numbered.map fun (n, t) => (n, lines t.bytes)
      let most := (texts.map fun t => t.2.length).foldl max 0
      let rows := rowsOf (numbered.map (·.1)) (most + 1) texts
      reading paths (wrote (rows.flatMap fun r =>
        Raw.toBytes (joinCells delimiters delimiters r) ++ [ending]) 0)

/-! ## Other orders -/

def rev (s : Scene) (args : List Raw) : Ran :=
  ({ tool := "rev" } : Known).run args fun o =>
    -- a dash is a name like others
    let paths := o.operands.map fun p => if p == "-" then "./-" else p
    let name (p : Raw) : Raw := if p == "./-" then "-" else p
    let (found, bad) := sourcesBy (fun p e => "rev: cannot open " ++ name p ++ ": " ++ e) s paths
    let lines := (byteLines (joined found).bytes).map fun l =>
      (strip l).reverse ++ (if strip l == l then [] else [0x0A])
    reading paths ((wrote lines.flatten 0).after bad 1)

/-- Cuts a text at a separator, which stays in front of or behind each part. -/
def partsAt (before : Bool) (separator : List UInt8) : Nat → List UInt8 → List UInt8 → List (List UInt8)
  | 0, open_, bytes => [open_.reverse ++ bytes]
  | _ + 1, open_, [] => if open_.isEmpty then [] else [open_.reverse]
  | fuel + 1, open_, b :: bs =>
    if separator.isPrefixOf (b :: bs) then
      let rest := (b :: bs).drop separator.length
      if before then
        (if open_.isEmpty then [] else [open_.reverse]) ++ partsAt before separator fuel separator.reverse rest
      else (open_.reverse ++ separator) :: partsAt before separator fuel [] rest
    else partsAt before separator fuel (b :: open_) bs

/-- An expression in which signs repeat without a backslash, with the backslashes that other expressions
have in front of them. -/
def bareRepeats : Nat → Bool → List Char → List Char
  | 0, _, _ => []
  | _ + 1, _, [] => []
  | fuel + 1, _, '\\' :: c :: cs =>
    (if c == '+' || c == '?' then [c] else ['\\', c]) ++ bareRepeats fuel false cs
  | fuel + 1, first, c :: cs =>
    if c == '[' then
      let (closed, rest) := match cs with
        | '^' :: ']' :: more => (['^', ']'], more)
        | ']' :: more => ([']'], more)
        | more => ([], more)
      let inside := closed ++ rest.takeWhile (· != ']')
      c :: inside ++ bareRepeats fuel false (cs.drop inside.length)
    else (if (c == '+' || c == '?') && !first then ['\\', c] else [c]) ++ bareRepeats fuel false cs

/-- The last place in front of another at which an expression fits, and how far it reaches. -/
def lastFit (r : Regex) (cs : Array Char) (stop : Nat) : Nat → Option (Nat × Nat)
  | 0 => none
  | i + 1 =>
    match Regex.longest (Regex.ends { chars := cs.extract 0 stop } r { index := i }) with
    | some spot => some (i, spot.index)
    | none => lastFit r cs stop i

/-- Parts of a text from the last to the first, cut where an expression fits, which stays in front of or
behind each part. The numbers tell where what is left ends, and where the expression may not fit any
more. -/
def partsBack (before : Bool) (r : Regex) (cs : Array Char) : Nat → Bool → Nat → Nat → List (List Char)
  | 0, _, _, _ => []
  | fuel + 1, first, past, stop =>
    match lastFit r cs stop stop with
    | none => [(cs.extract 0 past).toList]
    | some (start, behind) =>
      if before then (cs.extract start past).toList :: partsBack before r cs fuel false start start
      else
        (if first && behind = past then [] else [(cs.extract behind past).toList]) ++
          partsBack before r cs fuel false behind start

def tac (s : Scene) (args : List Raw) : Ran :=
  ({ tool := "tac", plain := "br", withArgument := "s"
     long := [("before", 'b'), ("separator", 's'), ("regex", 'r')] } : Known).run args fun o =>
    let (found, bad) := sourcesBy (fun p e =>
      if isDirectoryReason e then "tac: " ++ p ++ ": read error: Invalid argument"
      else "tac: failed to open " ++ quoted p ++ " for reading: " ++ e) s o.operands
    let mark := (o.value? 's').getD "\n"
    let separator := if mark.isEmpty then [0] else Raw.toBytes mark
    let expression := Regex.parse { byLine := true }
      (String.ofList (bareRepeats (mark.length + 1) true mark.toList))
    let backward (bytes : List UInt8) : List UInt8 :=
      match expression with
      | .ok r =>
        let cs := (Raw.ofBytes bytes).toList.toArray
        Raw.toBytes (String.ofList (partsBack (o.has 'b') r cs (cs.size + 2) true cs.size cs.size).flatten)
      | .error _ => []
    match o.has 'r', expression with
    | true, .error f => complain ("tac: " ++ f.message) 1
    | isExpression, _ =>
      if isExpression && mark.isEmpty then complain "tac: separator cannot be empty" 1
      else
      let shown := found.flatMap fun f =>
        if isExpression then backward f.2.bytes
        else (partsAt (o.has 'b') separator (f.2.bytes.length + 1) [] f.2.bytes).reverse.flatten
      reading o.operands ((wrote shown 0).after bad 1)

/-! ## Numbers in front of lines -/

/-- Which lines of a section get a number. -/
inductive Numbering where
  | all
  | filled
  | none
  | fitting (r : Regex)

def numbering? (r : Raw) : Option Numbering :=
  match r.toList with
  | ['a'] => some .all
  | ['t'] => some .filled
  | ['n'] => some .none
  | 'p' :: cs => (Regex.parse { lenient := true } (String.ofList cs)).toOption.map .fitting
  | _ => Option.none

def nlKnown : Known :=
  { tool := "nl", plain := "p", withArgument := "bwsnvihfld"
    long := [("body-numbering", 'b'), ("header-numbering", 'h'), ("footer-numbering", 'f'),
      ("number-width", 'w'), ("number-separator", 's'), ("number-format", 'n'),
      ("starting-line-number", 'v'), ("line-increment", 'i'), ("no-renumber", 'p'),
      ("join-blank-lines", 'l'), ("section-delimiter", 'd')] }

/-- An integer with its sign. -/
def signed? (r : Raw) : Option Int :=
  match r.toList with
  | '-' :: cs => if isNumeral (String.ofList cs) then some (-(numeral cs : Int)) else none
  | '+' :: cs => if isNumeral (String.ofList cs) then some (numeral cs : Int) else none
  | cs => if isNumeral r then some (numeral cs : Int) else none

/-- How numbers are shown. -/
structure NumberStyle where
  width : Nat := 6
  separator : Raw := "\t"
  left : Bool := false
  zeros : Bool := false

def NumberStyle.text (n : NumberStyle) (k : Int) : Raw :=
  let digits := toString k.natAbs
  let sign := if k < 0 then "-" else ""
  let room := String.ofList (List.replicate (n.width - digits.length - sign.length) (if n.zeros then '0' else ' '))
  (if n.left then sign ++ digits ++ String.ofList (List.replicate (n.width - digits.length - sign.length) ' ')
    else if n.zeros then sign ++ room ++ digits else room ++ sign ++ digits) ++ n.separator

/-- Where the numbering of lines has got to. -/
structure Numbered where
  out : List (List UInt8) := []
  next : Int
  /-- 0 for a header, 1 for a body, 2 for a footer. -/
  section_ : Nat := 1
  blanks : Nat := 0

def nl (s : Scene) (args : List Raw) : Ran :=
  nlKnown.run args fun o =>
    let style (c : Char) (standard : Numbering) (what : Raw) : Except Ran Numbering :=
      match o.value? c with
      | none => .ok standard
      | some r =>
        match numbering? r with
        | some n => .ok n
        | none => .error (nlKnown.refuse ("invalid " ++ what ++ " numbering style: " ++ quoted r))
    let integer (c : Char) (standard : Int) (what : Raw) (least : Int) : Except Ran Int :=
      match o.value? c with
      | none => .ok standard
      | some r =>
        match signed? r with
        | some n =>
          if n < least then
            .error (complain ("nl: invalid " ++ what ++ ": " ++ quoted r ++ ": Numerical result out of range") 1)
          else .ok n
        | none => .error (complain ("nl: invalid " ++ what ++ ": " ++ quoted r) 1)
    let run : Except Ran Ran := do
      let body ← style 'b' .filled "body"
      let header ← style 'h' .none "header"
      let footer ← style 'f' .none "footer"
      let width ← integer 'w' 6 "line number field width" 1
      let start ← integer 'v' 1 "starting line number" (-Width.of63)
      let step ← integer 'i' 1 "line number increment" (-Width.of63)
      let group ← integer 'l' 1 "line number of blank lines" 1
      let form := (o.value? 'n').getD "rn"
      if form != "ln" && form != "rn" && form != "rz" then
        throw (nlKnown.refuse ("invalid line numbering format: " ++ quoted form))
      let shown : NumberStyle :=
        { width := width.toNat, separator := (o.value? 's').getD "\t", left := form == "ln", zeros := form == "rz" }
      let mark := (o.value? 'd').getD "\\:"
      let mark := if mark.length = 1 then mark ++ ":" else mark
      let (found, bad) := sources "nl" s o.operands
      let gap := String.ofList (List.replicate (shown.width + shown.separator.length) ' ')
      let line (n : Numbered) (l : List UInt8) : Numbered :=
        let text := Raw.ofBytes (strip l)
        let section_ (k : Nat) : Numbered :=
          { n with out := [0x0A] :: n.out, section_ := k, next := if o.has 'p' then n.next else start, blanks := 0 }
        if !mark.isEmpty && text == mark ++ mark ++ mark then section_ 0
        else if !mark.isEmpty && text == mark ++ mark then section_ 1
        else if !mark.isEmpty && text == mark then section_ 2
        else
          let kind := if n.section_ = 0 then header else if n.section_ = 1 then body else footer
          let counted (n : Numbered) : Numbered :=
            { n with out := Raw.toBytes (shown.text n.next ++ text ++ "\n") :: n.out, next := n.next + step }
          let plain (n : Numbered) : Numbered := { n with out := Raw.toBytes (gap ++ text ++ "\n") :: n.out }
          match kind with
          | .all =>
            if group ≤ 1 then counted n
            else if text.isEmpty then
              if group ≤ (n.blanks : Int) + 1 then counted { n with blanks := 0 }
              else plain { n with blanks := n.blanks + 1 }
            else counted { n with blanks := 0 }
          | .filled => if text.isEmpty then plain n else counted n
          | .none => plain n
          | .fitting r => if (Regex.search { chars := text.toList.toArray } r 0).isSome then counted n else plain n
      let done := (byteLines (joined found).bytes).foldl line { next := start }
      return reading o.operands ((wrote done.out.reverse.flatten 0).after bad 1)
    match run with
    | .ok r => r
    | .error r => r

/-! ## Breaking lines -/

/-- The column behind a byte. -/
def columnAfter (byBytes : Bool) (column : Nat) (b : UInt8) : Nat :=
  if byBytes then column + 1
  else if b = 0x08 then column - 1
  else if b = 0x0D then 0
  else if b = 0x09 then column + 8 - column % 8
  else column + 1

/-- Where the breaking of lines has got to. -/
structure Folding where
  /-- What has been written, in reverse. -/
  out : List UInt8 := []
  /-- The open line, in reverse. -/
  line : List UInt8 := []
  column : Nat := 0

namespace Folding

def columnOf (byBytes : Bool) (line : List UInt8) : Nat := line.foldl (columnAfter byBytes) 0

/-- Takes in one byte. The first argument bounds how often the line is broken for it. -/
def take (width : Nat) (byBytes atBlanks : Bool) : Nat → Folding → UInt8 → Folding
  | 0, f, b => { f with line := b :: f.line }
  | fuel + 1, f, b =>
    if b = 0x0A then { f with out := b :: f.line ++ f.out, line := [], column := 0 }
    else
      let column := columnAfter byBytes f.column b
      if column ≤ width then { f with line := b :: f.line, column }
      else
        let isBlank (b : UInt8) : Bool := b = 0x20 || b = 0x09
        let behind := f.line.takeWhile fun b => !isBlank b
        if atBlanks && behind.length < f.line.length then
          let kept := f.line.drop behind.length
          take width byBytes atBlanks fuel
            { out := 0x0A :: kept ++ f.out, line := behind, column := columnOf byBytes behind.reverse } b
        else if f.line.isEmpty then { f with line := [b], column }
        else
          take width byBytes atBlanks fuel { out := 0x0A :: f.line ++ f.out, line := [], column := 0 } b

def finish (f : Folding) : List UInt8 := (f.line ++ f.out).reverse

end Folding

def foldKnown : Known :=
  { tool := "fold", plain := "bs", withArgument := "w"
    long := [("bytes", 'b'), ("spaces", 's'), ("width", 'w')] }

def fold (s : Scene) (args : List Raw) : Ran :=
  let writtenWidth (a : Raw) : List Raw :=
    match a.toList with
    | '-' :: c :: cs => if c.isDigit then ["-w", String.ofList (c :: cs)] else [a]
    | _ => [a]
  foldKnown.run (args.flatMap writtenWidth) fun o =>
    let given := (o.value? 'w').getD "80"
    let why : Raw := match count? given with
      | some 0 => ": Numerical result out of range"
      | some n => if n < Width.of64 then "" else ": Value too large for defined data type"
      | none => ""
    match (count? given).filter fun n => 0 < n && n < Width.of64 with
    | none => complain ("fold: invalid number of columns: " ++ quoted given ++ why) 1
    | some width =>
      let (found, bad) := sources "fold" s o.operands
      let out := found.flatMap fun f =>
        (f.2.bytes.foldl (Folding.take width (o.has 'b') (o.has 's') 4) {}).finish
      reading o.operands ((wrote out 0).after bad 1)

/-! ## Tabs -/

/-- Where tabs go to: to the given columns, and behind them to every so many, if so. -/
structure TabStops where
  columns : List Nat := []
  every : Option Nat := some 8
  /-- Whether `every` counts from the last given column. -/
  fromLast : Bool := false

/-- The column that a tab leads to, unless no stop is left. -/
def TabStops.next (t : TabStops) (column : Nat) : Option Nat :=
  match t.columns.find? (column < ·) with
  | some c => some c
  | none =>
    match t.every with
    | some 0 | none => none
    | some n =>
      let base := if t.fromLast then t.columns.getLast?.getD 0 else 0
      some (base + ((column - base) / n + 1) * n)

/-- Reads a list of tab stops. A single number is a distance. -/
def tabStops (given : List Raw) : Except Raw TabStops := do
  let words := given.flatMap fun r =>
    (r.toList.splitOnP fun c => c == ',' || c == ' ' || c == '\t').filter (!·.isEmpty)
  let step : TabStops → List Char → Except Raw TabStops := fun t w =>
    let value (cs : List Char) : Except Raw Nat :=
      if !cs.isEmpty && cs.all Char.isDigit then .ok (numeral cs)
      else .error ("tab size contains invalid character(s): " ++ quoted (String.ofList w))
    match w with
    | '/' :: cs => (value cs).map fun n => { t with every := some n }
    | '+' :: cs => (value cs).map fun n => { t with every := some n, fromLast := true }
    | cs => do
      let n ← value cs
      if n = 0 then .error "tab size cannot be 0"
      else if t.columns.getLast?.any (n ≤ ·) then .error "tab sizes must be ascending"
      else return { t with columns := t.columns ++ [n] }
  let t ← words.foldlM step { every := none }
  match t.columns, t.every with
  | [], none => return {}
  | [n], none => return { every := some n }
  | _, _ => return t

/-- The words with a number of columns such as `-4` written out. -/
def writtenTabs (args : List Raw) : List Raw :=
  args.flatMap fun a =>
    match a.toList with
    | '-' :: c :: cs => if c.isDigit then ["-t", String.ofList (c :: cs)] else [a]
    | _ => [a]

def expandLine (t : TabStops) (initial : Bool) (line : List UInt8) : List UInt8 :=
  let step : List UInt8 × Nat × Bool → UInt8 → List UInt8 × Nat × Bool := fun (out, column, convert) b =>
    if !convert then (b :: out, column, convert)
    else if b = 0x09 then
      let next := (t.next column).getD (column + 1)
      (List.replicate (next - column) 0x20 ++ out, next, convert)
    else if b = 0x08 then (b :: out, column - 1, !initial)
    else (b :: out, column + 1, !initial || b = 0x20)
  (line.foldl step ([], 0, true)).1.reverse

def expandKnown : Known :=
  { tool := "expand", plain := "i", withArgument := "t", long := [("initial", 'i'), ("tabs", 't')] }

def expand (s : Scene) (args : List Raw) : Ran :=
  expandKnown.run (writtenTabs args) fun o =>
    match tabStops (o.values 't') with
    | .error e => complain ("expand: " ++ e) 1
    | .ok t =>
      let (found, bad) := sources "expand" s o.operands
      let out := (byteLines (joined found).bytes).flatMap (expandLine t (o.has 'i'))
      reading o.operands ((wrote out 0).after bad 1)

/-- Where the turning of blanks into tabs has got to. -/
structure Unexpanding where
  out : List UInt8 := []
  column : Nat := 0
  /-- Blanks of which it is not known yet what becomes of them, in reverse. -/
  pending : List UInt8 := []
  convert : Bool := true
  /-- Whether a single blank stands before a tab stop. -/
  oneBefore : Bool := false
  afterBlank : Bool := true

/-- Takes in one byte of a line. -/
def Unexpanding.take (t : TabStops) (whole : Bool) (u : Unexpanding) (b : UInt8) : Unexpanding :=
  if !u.convert then { u with out := b :: u.out }
  else
    let blank := b = 0x20 || b = 0x09
    let write (u : Unexpanding) (b : UInt8) : Unexpanding :=
      let pending := if 1 < u.pending.length && u.oneBefore then u.pending.dropLast ++ [0x09] else u.pending
      { u with
        out := b :: pending ++ u.out, pending := [], oneBefore := if u.pending.isEmpty then u.oneBefore else false
        afterBlank := blank, convert := u.convert && (whole || blank) }
    if blank then
      match t.next u.column with
      | none => write { u with convert := false } b
      | some next =>
        if b = 0x09 then
          let pending := if u.pending.isEmpty then [] else u.pending.dropLast ++ [0x09]
          let kept := if u.oneBefore then pending.drop (pending.length - 1) else []
          write { u with column := next, pending := kept } b
        else
          let column := u.column + 1
          if !(u.afterBlank && column = next) then
            { u with
              column, oneBefore := u.oneBefore || column = next, pending := b :: u.pending, afterBlank := true }
          else
            let kept := if u.oneBefore then [0x09] else []
            write { u with column, pending := kept } 0x09
    else if b = 0x08 then write { u with column := u.column - 1 } b
    else write { u with column := u.column + 1 } b

def unexpandLine (t : TabStops) (whole : Bool) (line : List UInt8) : List UInt8 :=
  let body := strip line
  let u := body.foldl (Unexpanding.take t whole) {}
  let pending := if 1 < u.pending.length && u.oneBefore then u.pending.dropLast ++ [0x09] else u.pending
  (pending ++ u.out).reverse ++ (if body.length < line.length then [0x0A] else [])

def unexpandKnown : Known :=
  { tool := "unexpand", plain := "aF", withArgument := "t"
    long := [("all", 'a'), ("first-only", 'F'), ("tabs", 't')] }

def unexpand (s : Scene) (args : List Raw) : Ran :=
  unexpandKnown.run (writtenTabs args) fun o =>
    match tabStops (o.values 't') with
    | .error e => complain ("unexpand: " ++ e) 1
    | .ok t =>
      let (found, bad) := sources "unexpand" s o.operands
      let whole := (o.has 'a' || o.has 't') && !o.has 'F'
      let out := (byteLines (joined found).bytes).flatMap (unexpandLine t whole)
      reading o.operands ((wrote out 0).after bad 1)

/-! ## Two sorted texts -/

/-- Compares two sorted lists of lines: each line with the column it stands in. -/
def commLines : Nat → List Raw → List Raw → List (Nat × Raw)
  | 0, _, _ => []
  | _ + 1, [], bs => bs.map (1, ·)
  | _ + 1, as, [] => as.map (0, ·)
  | fuel + 1, a :: as, b :: bs =>
    if a < b then (0, a) :: commLines fuel as (b :: bs)
    else if b < a then (1, b) :: commLines fuel (a :: as) bs
    else (2, a) :: commLines fuel as bs

def isSorted (lines : List Raw) : Bool := (lines.zip lines.tail).all fun p => !(p.2 < p.1)

def commKnown : Known :=
  { tool := "comm", plain := "123zNKT", withArgument := "O"
    long := [("output-delimiter", 'O'), ("total", 'T'), ("check-order", 'K'), ("nocheck-order", 'N'),
      ("zero-terminated", 'z')] }

def comm (s : Scene) (args : List Raw) : Ran :=
  commKnown.run args fun o =>
    match o.operands with
    | [] => commKnown.refuse "missing operand"
    | [a] => commKnown.refuse ("missing operand after " ++ quoted a)
    | _ :: _ :: c :: _ => commKnown.refuse ("extra operand " ++ quoted c)
    | [a, b] =>
      let ending : UInt8 := if o.has 'z' then 0 else 0x0A
      let lines (t : Stream) : List Raw := (linesEndedBy ending t.bytes).map fun l =>
        Raw.ofBytes (if l.getLast? == some ending then l.dropLast else l)
      match contents? s a, contents? s b with
      | .error e, _ => complain ("comm: " ++ a ++ ": " ++ e) 1
      | _, .error e => complain ("comm: " ++ b ++ ": " ++ e) 1
      | .ok x, .ok y =>
        let both := a == "-" && b == "-"
        let xs := lines x
        let ys := if both then [] else lines y
        let all := commLines (xs.length + ys.length + 1) xs ys
        let joint := (o.value? 'O').getD "\t"
        let joint := if joint.isEmpty then "\x00" else joint
        let hidden (i : Nat) : Bool := o.has (Char.ofNat (49 + i))
        let lead (i : Nat) : Raw :=
          String.join (((List.range i).filter fun k => !hidden k).map fun _ => joint)
        let shown := (all.filter fun l => !hidden l.1).flatMap fun (i, l) =>
          Raw.toBytes (lead i ++ l) ++ [ending]
        let count (i : Nat) : Raw := toString (all.filter (·.1 == i)).length
        let sum : List UInt8 := if o.has 'T' then
            Raw.toBytes (count 0 ++ joint ++ count 1 ++ joint ++ count 2 ++ joint ++ "total") ++ [ending] else []
        let bad := if o.has 'N' then [] else
            (if isSorted xs then [] else ["comm: file 1 is not in sorted order"]) ++
            (if isSorted ys then [] else ["comm: file 2 is not in sorted order"])
        let unpaired := all.any fun l => l.1 != 2
        let bad := if unpaired || o.has 'K' then bad else []
        let bad := if bad.isEmpty then [] else if o.has 'K' then bad.take 1
          else bad ++ ["comm: input is not in sorted order"]
        let bad := if both then bad ++ ["comm: -: Bad file descriptor"] else bad
        let r : Ran :=
          { writes := (false, shown ++ sum) :: bad.map complaint, status := if bad.isEmpty then 0 else 1 }
        reading [a, b] r

def joinKnown : Known :=
  { tool := "join", plain := "izHNK", withArgument := "12jtavoe"
    long := [("ignore-case", 'i'), ("header", 'H'), ("zero-terminated", 'z'), ("check-order", 'K'),
      ("nocheck-order", 'N')] }

/-- A line with its fields. -/
structure JoinLine where
  fields : List Raw

def joinKey (fold : Bool) (n : Nat) (l : JoinLine) : Raw :=
  let k := (l.fields[n - 1]?).getD ""
  if fold then String.ofList (k.toList.map Char.toLower) else k

/-- Pairs lines with equal keys. Lines without a partner stand alone. -/
def joinPairs (keyA keyB : JoinLine → Raw) : Nat → List JoinLine → List JoinLine →
    List (Option JoinLine × Option JoinLine)
  | 0, _, _ => []
  | _ + 1, [], bs => bs.map fun b => (none, some b)
  | _ + 1, as, [] => as.map fun a => (some a, none)
  | fuel + 1, a :: as, b :: bs =>
    let x := keyA a
    let y := keyB b
    if x < y then (some a, none) :: joinPairs keyA keyB fuel as (b :: bs)
    else if y < x then (none, some b) :: joinPairs keyA keyB fuel (a :: as) bs
    else
      let sameA := (a :: as).takeWhile fun l => keyA l == x
      let sameB := (b :: bs).takeWhile fun l => keyB l == x
      (sameA.flatMap fun p => sameB.map fun q => (some p, some q)) ++
        joinPairs keyA keyB fuel ((a :: as).drop sameA.length) ((b :: bs).drop sameB.length)

/-- The number of the field that lines of a file are joined by. -/
def joinField (o : Options) (file : Char) : Nat :=
  numeral (((o.value? file).or (o.value? 'j')).getD "1").toList

/-- What is wrong with an option of `join`. -/
def joinFault? (g : Char × Raw) : Option Raw :=
  let isField (r : Raw) : Bool := isNumeral r && numeral r.toList != 0
  match g with
  | ('1', v) | ('2', v) | ('j', v) =>
    if isField v then none else some ("invalid field number: " ++ quoted v)
  | ('a', v) | ('v', v) =>
    if v == "1" || v == "2" then none
    else some ("invalid field number: " ++ quoted v)
  | ('t', v) => if v.length ≤ 1 || v == "\\0" then none else some ("multi-character tab " ++ quoted v)
  | ('o', v) =>
    if v == "auto" then none
    else
      ((v.splitOn ",").flatMap (·.splitOn " ")).findSome? fun f =>
        match f.splitOn "." with
        | ["0"] => none
        | "0" :: _ => some ("invalid field specifier: " ++ quoted f)
        | file :: rest =>
          if file != "1" && file != "2" then some ("invalid file number in field spec: " ++ quoted f)
          else
            match rest with
            | [k] => if isField k then none else some ("invalid field number: " ++ quoted k)
            | _ => some ("invalid field specifier: " ++ quoted f)
        | [] => none
  | _ => none

/-- Two numbers of fields that cannot both be meant. -/
def joinClash? (o : Options) : Option (Nat × Nat) :=
  let both (file : Char) : Option (Nat × Nat) :=
    match ((o.given.filter fun g => g.1 == file || g.1 == 'j').map fun g => numeral g.2.toList).eraseDups with
    | a :: b :: _ => some (a - 1, b - 1)
    | _ => none
  (both '1').or (both '2')

def join (s : Scene) (args : List Raw) : Ran :=
  joinKnown.run args fun o =>
    match o.given.findSome? joinFault?, joinClash? o with
    | some why, _ => complain ("join: " ++ why) 1
    | none, some (a, b) =>
      complain ("join: incompatible join fields " ++ toString a ++ ", " ++ toString b) 1
    | none, none =>
    match o.operands with
    | [] => joinKnown.refuse "missing operand"
    | [a] => joinKnown.refuse ("missing operand after " ++ quoted a)
    | _ :: _ :: c :: _ => joinKnown.refuse ("extra operand " ++ quoted c)
    | [a, b] =>
      if a == "-" && b == "-" then complain "join: both files cannot be standard input" 1
      else
      match contents? s a, contents? s b with
      | .error e, _ => complain (if isDirectoryReason e then "join: read error: " ++ e
          else "join: " ++ a ++ ": " ++ e) 1
      | _, .error e => complain (if isDirectoryReason e then "join: read error: " ++ e
          else "join: " ++ b ++ ": " ++ e) 1
      | .ok x, .ok y =>
        let separator := (o.value? 't').map fun t => if t == "\\0" then '\x00' else t.toList.head?.getD '\n'
        let ending : UInt8 := if o.has 'z' then 0 else 0x0A
        let fieldsOf (l : Raw) : JoinLine :=
          match separator with
          | some c => ⟨(l.toList.splitOn c).map String.ofList⟩
          | none => ⟨((l.toList.splitOnP fun c => c == ' ' || c == '\t').filter (!·.isEmpty)).map String.ofList⟩
        let lines (t : Stream) : List JoinLine := (linesEndedBy ending t.bytes).map fun l =>
          fieldsOf (Raw.ofBytes (if l.getLast? == some ending then l.dropLast else l))
        let n := joinField o '1'
        let m := joinField o '2'
        let joint := (separator.map Char.toString).getD " "
        let empty := (o.value? 'e').getD ""
        let xs := lines x
        let ys := lines y
        let (heads, xs, ys) := if o.has 'H' then
            ([(xs.head?, ys.head?)].filter fun p => p.1.isSome || p.2.isSome, xs.tail, ys.tail)
          else ([], xs, ys)
        let fold := o.has 'i'
        let pairs := heads ++ joinPairs (joinKey fold n) (joinKey fold m) (xs.length + ys.length + 1) xs ys
        let shows (which : Raw) : Bool := (o.values 'a').contains which || (o.values 'v').contains which
        let onlySingle := o.has 'v'
        let wanted (p : Option JoinLine × Option JoinLine) : Bool :=
          match p with
          | (some _, some _) => !onlySingle
          | (some _, none) => shows "1"
          | (none, some _) => shows "2"
          | (none, none) => false
        let without (k : Nat) (l : JoinLine) : List Raw := l.fields.eraseIdx (k - 1)
        let filled (r : Raw) : Raw := if r.isEmpty then empty else r
        let spec := (o.values 'o').flatMap fun r => (r.splitOn ",").flatMap (·.splitOn " ")
        let widthA := (xs.head?.map fun l => l.fields.length).getD 1
        let widthB := (ys.head?.map fun l => l.fields.length).getD 1
        let padded (width : Nat) (fs : List Raw) : List Raw :=
          if spec == ["auto"] then (fs ++ List.replicate (width - 1 - fs.length) "").take (width - 1) else fs
        let line (p : Option JoinLine × Option JoinLine) : List Raw :=
          let key := match p with
            | (some a, _) => (a.fields[n - 1]?).getD ""
            | (none, some b) => (b.fields[m - 1]?).getD ""
            | (none, none) => ""
          if spec.isEmpty || spec == ["auto"] then
            let isAuto := spec == ["auto"]
            let left := match p.1 with
              | some a => padded widthA (without n a)
              | none => if isAuto then List.replicate (widthA - 1) "" else []
            let right := match p.2 with
              | some b => padded widthB (without m b)
              | none => if isAuto then List.replicate (widthB - 1) "" else []
            filled key :: (left ++ right).map filled
          else
            spec.map fun f =>
              match f.splitOn "." with
              | ["0"] => filled key
              | ["1", k] => filled ((p.1.bind fun l => l.fields[numeral k.toList - 1]?).getD "")
              | ["2", k] => filled ((p.2.bind fun l => l.fields[numeral k.toList - 1]?).getD "")
              | _ => empty
        let out := (pairs.filter wanted).flatMap fun p => Raw.toBytes (joint.intercalate (line p)) ++ [ending]
        let ordered (k : Nat) (ls : List JoinLine) : Option Nat :=
          ((ls.zip ls.tail).zipIdx.find? fun q => joinKey fold k q.1.2 < joinKey fold k q.1.1).map (·.2 + 2)
        let unpaired := pairs.any fun p => p.1.isNone || p.2.isNone
        let complaintOf (path : Raw) (k : Nat) (ls : List JoinLine) (t : Stream) : List Raw :=
          match ordered k ls with
          | some i => if unpaired && !o.has 'N' then
              ["join: " ++ path ++ ":" ++ toString i ++ ": is not sorted: " ++
                ((plainLines t.bytes)[i - 1]?).getD ""] else []
          | none => []
        let bad := complaintOf a n xs x ++ complaintOf b m ys y
        let bad := if bad.isEmpty then [] else bad ++ ["join: input is not in sorted order"]
        reading [a, b]
          { writes := (false, out) :: bad.map complaint, status := if bad.isEmpty then 0 else 1 }

end Host.Tool

end PolicyGate
