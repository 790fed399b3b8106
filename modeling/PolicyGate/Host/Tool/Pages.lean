import PolicyGate.Host.Calendar
import PolicyGate.Host.Tool.Basic

/-!
# The tool that lays out pages

Lines are put on pages with a heading, one below another or in columns, numbered if that is asked for.
In columns, blanks are written as tabs where they reach that far.
-/

namespace PolicyGate

namespace Host.Tool

namespace Pages

/-- How pages are laid out. -/
structure Manner where
  columns : Nat := 1
  /-- Whether columns are filled across rather than down, and whether each is a file of its own. -/
  across : Bool := false
  merged : Bool := false
  /-- Whether columns follow each other without being aligned. -/
  joined : Bool := false
  separator : List Char := [' ']
  width : Nat := 72
  /-- Whether lines of a single column are cut at the width too. -/
  cutsSingle : Bool := false
  margin : Nat := 0
  /-- What follows a number, and how many digits there are. -/
  number : Option (Char × Nat) := none
  firstNumber : Nat := 1
  double : Bool := false
  /-- How many lines a page has. -/
  length : Nat := 66
  headed : Bool := true
  firstPage : Nat := 1
  heading : Option Raw := none
  dateForm : String := "%Y-%m-%d %H:%M"

/-- A column takes a place only for a character that is shown. -/
def widthOf (c : Char) : Nat := if isShown c then 1 else 0

def textWidth (cs : List Char) : Nat := cs.foldl (fun n c => n + widthOf c) 0

/-- The longest beginning of a text within a width. -/
def cutTo : Nat → List Char → List Char
  | _, [] => []
  | n, c :: cs => if widthOf c ≤ n then c :: cutTo (n - widthOf c) cs else []

/-- A text with blanks for its tabs, given its column. -/
def withoutTabs : Nat → List Char → List Char
  | _, [] => []
  | n, c :: cs =>
    if c == '\t' then List.replicate (8 - n % 8) ' ' ++ withoutTabs (n + (8 - n % 8)) cs
    else c :: withoutTabs (n + widthOf c) cs

/-- Blanks from a column up to another, as tabs where they reach far enough. The first argument bounds
their number. -/
def blanks : Nat → Nat → Nat → List Char
  | 0, _, _ => []
  | fuel + 1, column, goal =>
    let stop := (column / 8 + 1) * 8
    if column + 1 < goal && stop ≤ goal then '\t' :: blanks fuel stop goal
    else List.replicate (goal - column) ' '

/-- A row that is being written: what has been, the latest first, its column, and blanks that are
written only if something follows. -/
structure Row where
  written : List Char := []
  column : Nat := 0
  waiting : Nat := 0

namespace Row

def settle (r : Row) : Row :=
  let goal := r.column + r.waiting
  { written := (blanks (r.waiting + 1) r.column goal).reverse ++ r.written, column := goal }

def put (r : Row) (c : Char) : Row :=
  if c == ' ' then { r with waiting := r.waiting + 1 }
  else
    let r := r.settle
    { r with written := c :: r.written, column := r.column + if c == '\t' then 1 else widthOf c }

def puts (r : Row) (cs : List Char) : Row := cs.foldl put r

/-- Waits up to a column. -/
def padTo (r : Row) (column : Nat) : Row := { r with waiting := column - r.column }

end Row

/-! ## Rows -/

/-- The width of a number with what follows it. -/
def numberWidth (m : Manner) : Nat :=
  match m.number with
  | none => 0
  | some (sep, digits) => digits + if sep == '\t' then 8 - digits % 8 else 1

/-- The width of a column. -/
def columnWidth (m : Manner) : Nat :=
  (m.width - (if m.merged then numberWidth m else 0) - (m.columns - 1) * m.separator.length) / m.columns

/-- A number in its field, of which the last digits are kept. -/
def numberField (digits n : Nat) : List Char :=
  let ds := (toString n).toList
  List.replicate (digits - ds.length) ' ' ++ ds.drop (ds.length - digits)

/-- A number as it stands in a row of columns. -/
def columnNumber (m : Manner) (n : Nat) : List Char :=
  match m.number with
  | none => []
  | some (sep, digits) =>
    numberField digits n ++ if sep == '\t' then List.replicate (8 - digits % 8) ' ' else [sep]

/-- Writes cells side by side, each with its number if it has one. -/
def cellRow (m : Manner) (cells : List (Option Nat × List Char)) : List Char :=
  let width := columnWidth m
  let place (i : Nat) : Nat :=
    m.margin + i * (width + m.separator.length) +
      if m.merged && 0 < i then numberWidth m else 0
  let start : Row := { waiting := m.margin }
  let step (r : Row) (p : (Option Nat × List Char) × Nat) : Row :=
    let ((number, text), i) := p
    let lead := (number.map (columnNumber m)).getD []
    let room := if m.merged then width else width - numberWidth m
    let plain := withoutTabs 0 text
    let shown := lead ++ if m.joined then plain else cutTo room plain
    if i = 0 then r.puts shown
    else
      let r := if m.joined then r else r.padTo (place i - m.separator.length)
      ((r.puts m.separator).settle).puts shown
  (cells.zipIdx.foldl step start).written.reverse

/-- A row of a single column. -/
def singleRow (m : Manner) (n : Nat) (text : List Char) : List Char :=
  let lead := match m.number with
    | none => []
    | some (sep, digits) => numberField digits n ++ [sep]
  let shown := if m.cutsSingle then cutTo (m.width - numberWidth m) (withoutTabs 0 text) else text
  List.replicate m.margin ' ' ++ lead ++ shown

/-- Texts in groups of a size. -/
def inGroups {α : Type} (size : Nat) : Nat → List α → List (List α)
  | 0, _ => []
  | _ + 1, [] => []
  | fuel + 1, xs => xs.take size :: inGroups size fuel (xs.drop size)

/-- How many rows a page has. -/
def bodyLength (m : Manner) : Nat :=
  let n := if m.headed then m.length - 10 else m.length
  max 1 (if m.double then n / 2 else n)

/-- The rows of a page whose columns are filled down. The first columns are longer where they cannot
all be of one length. -/
def downRows (m : Manner) (lines : List (Nat × List Char)) : List (List (Nat × List Char)) :=
  let n := lines.length
  let size (i : Nat) : Nat := n / m.columns + if i < n % m.columns then 1 else 0
  let start (i : Nat) : Nat := i * (n / m.columns) + min i (n % m.columns)
  (List.range (size 0)).map fun row =>
    (List.range m.columns).filterMap fun i =>
      if row < size i then lines[start i + row]? else none

def numbered (m : Manner) (n : Nat) : Option Nat := m.number.map fun _ => n

/-- The rows of all pages of a text. -/
def pagesOf (m : Manner) (lines : List (List Char)) : List (List (List Char)) :=
  let body := bodyLength m
  let counted := lines.zipIdx.map fun (l, i) => (m.firstNumber + i, l)
  let cells (row : List (Nat × List Char)) : List Char :=
    cellRow m (row.map fun (n, l) => (numbered m n, l))
  let all := counted.length + 1
  if m.columns ≤ 1 then
    inGroups body all (counted.map fun (n, l) => singleRow m n l)
  else if m.across then inGroups body all ((inGroups m.columns all counted).map cells)
  else (inGroups (body * m.columns) all counted).map fun page => (downRows m page).map cells

/-- The rows of all pages of texts side by side. -/
def mergedPages (m : Manner) (texts : List (List (List Char))) : List (List (List Char)) :=
  let height := (texts.map List.length).foldl max 0
  let rows := (List.range height).map fun row =>
    cellRow m (texts.zipIdx.map fun (t, i) =>
      (if i = 0 then numbered m (m.firstNumber + row) else none, (t[row]?).getD []))
  inGroups (bodyLength m) (height + 1) rows

/-! ## Pages -/

/-- The heading of a page: a date, a text in the middle, and its number. -/
def headingLine (m : Manner) (date text : List Char) (page : Nat) : List Char :=
  let number := "Page ".toList ++ (toString page).toList
  let room := m.width - textWidth date - textWidth text - number.length
  let left := room / 2
  List.replicate m.margin ' ' ++ date ++ List.replicate (max 1 left) ' ' ++ text ++
    List.replicate (max 1 (room - left)) ' ' ++ number

/-- Writes the pages from the first that is wanted. Where pages have no ends of their own, no empty line
follows the last row of a page, if it is known to be the last. -/
def written (m : Manner) (closed : Bool) (date text : List Char) (pages : List (List (List Char))) : List Char :=
  let one (p : List (List Char) × Nat) : List Char :=
    let (rows, i) := p
    let lines := rows.flatMap fun r => r ++ '\n' :: if m.double then ['\n'] else []
    if !m.headed then
      if m.double && (closed || (1 < m.columns && rows.length = bodyLength m)) then lines.dropLast
      else lines
    else
      let left := (bodyLength m - rows.length) * if m.double then 2 else 1
      "\n\n".toList ++ headingLine m date text (i + 1) ++ "\n\n\n".toList ++ lines ++
        List.replicate (left + 5) '\n'
  (pages.zipIdx.drop (m.firstPage - 1)).flatMap one

/-- Pages, or a complaint that there are too few. -/
def ran (m : Manner) (closed : Bool) (date text : List Char) (pages : List (List (List Char))) : Bool × List UInt8 :=
  if m.firstPage - 1 < pages.length || m.firstPage ≤ 1 then
    (false, Raw.toBytes (String.ofList (written m closed date text pages)))
  else
    complaint ("pr: starting page number " ++ toString m.firstPage ++ " exceeds page count " ++
      toString pages.length)

end Pages

/-! ## Options -/

open Pages

def pagesKnown : Known :=
  { tool := "pr", plain := "0123456789aFfmrtTvdJcei", withArgument := "DhlNowW\x01", optional := "nsS"
    long := [("across", 'a'), ("columns", '\x01'), ("date-format", 'D'), ("double-space", 'd'),
      ("expand-tabs", 'e'), ("form-feed", 'F'), ("header", 'h'), ("output-tabs", 'i'),
      ("join-lines", 'J'), ("length", 'l'), ("merge", 'm'), ("number-lines", 'n'),
      ("first-line-number", 'N'), ("indent", 'o'), ("no-file-warnings", 'r'), ("separator", 's'),
      ("sep-string", 'S'), ("omit-header", 't'), ("omit-pagination", 'T'), ("show-nonprinting", 'v'),
      ("width", 'w'), ("page-width", 'W')] }

/-- A number that an option gives, or a complaint in the words of the option. -/
def pagesNumber (o : Options) (c : Char) (words : Raw) : Except Ran (Option Nat) :=
  match o.value? c with
  | none => .ok none
  | some v =>
    if isNumeral v then .ok (some (numeral v.toList))
    else .error (complain ("pr: '-" ++ c.toString ++ " " ++ words ++ ": '" ++ v ++ "'") 1)

/-- The mark behind numbers and how many digits they have. -/
def numberStyle (r : Raw) : Char × Nat :=
  let (mark, digits) := match r.toList with
    | [] => ('\t', [])
    | c :: cs => if c.isDigit then ('\t', c :: cs) else (c, cs)
  (mark, if digits.isEmpty then 5 else numeral digits)

/-- How the options ask pages to be laid out, given how many files there are. -/
def pagesManner (o : Options) (firstPage files : Nat) : Except Ran Manner := do
  let digits := (o.given.filter fun g => g.1.isDigit).map (·.1)
  let asked := if digits.isEmpty then (o.value? '\x01').map (·.toList) else some digits
  let columns := (asked.map numeral).getD 1
  if columns = 0 then
    throw (complain ("pr: invalid number of columns: '" ++ String.ofList (asked.getD []) ++
      "': Numerical result out of range") 1)
  let merged := o.has 'm'
  if merged && asked.isSome then
    throw (complain "pr: cannot specify number of columns when printing in parallel" 1)
  if merged && o.has 'a' then
    throw (complain "pr: cannot specify both printing across and printing in parallel" 1)
  let length ← pagesNumber o 'l' "PAGE_LENGTH' invalid number of lines"
  let narrow ← pagesNumber o 'w' "PAGE_WIDTH' invalid number of characters"
  let wide ← pagesNumber o 'W' "PAGE_WIDTH' invalid number of characters"
  let margin ← pagesNumber o 'o' "MARGIN' invalid line offset"
  let first ← pagesNumber o 'N' "NUMBER' invalid starting line number"
  let columns := if merged then files else columns
  let joined := o.has 'J' || (o.has 's' && narrow.isNone && wide.isNone)
  let given := ((o.value? 'S').orElse fun _ => o.value? 's').filter (!·.isEmpty)
  let length := length.getD 66
  let manner : Manner := {
    columns, merged, joined, margin := margin.getD 0, firstPage, firstNumber := first.getD 1, length
    across := o.has 'a' && 1 < columns, cutsSingle := wide.isSome && !o.has 'J'
    separator := (given.map (·.toList)).getD
      (if joined then ['\t'] else if o.has 's' || o.has 'S' then [] else [' '])
    width := (wide.orElse fun _ => narrow).getD 72
    number := (o.value? 'n').map numberStyle, double := o.has 'd'
    headed := !(o.has 't' || o.has 'T' || length ≤ 10)
    heading := o.value? 'h', dateForm := ((o.value? 'D').map Raw.toText).getD "%Y-%m-%d %H:%M" }
  if columnWidth manner = 0 || (numberWidth manner ≥ columnWidth manner && 0 < numberWidth manner && !merged) then
    throw (complain "pr: page width too narrow" 1)
  return manner

/-- The lines of a text. -/
def textLines (t : Stream) : List (List Char) := (plainLines t.bytes).map (·.toList)

/-- The date of a path: when it changed, or now for the input. -/
def pathDate (s : Scene) (m : Manner) (path : Raw) : List Char :=
  let moment := match if path == "-" then none else (s.reach path).toOption with
    | some r => r.node.modified
    | none => s.files.now
  ((Date.ofMoment moment).format m.dateForm).toList

def pr (s : Scene) (args : List Raw) : Ran :=
  pagesKnown.run args fun o =>
    let isPage (a : Raw) : Bool := a.startsWith "+" && isNumeral (String.ofList (a.toList.drop 1))
    let first := ((o.operands.filter isPage).head?.map fun a => numeral (a.toList.drop 1)).getD 1
    let paths := o.operands.filter fun a => !isPage a
    let (read, complaints) := sources "pr" s paths
    match pagesManner o first read.length with
    | .error r => r
    | .ok m =>
      let complaints := if o.has 'r' then [] else complaints
      let title (path : Raw) : List Char := (m.heading.getD (if path == "-" then "" else path)).toList
      let writes :=
        if m.merged then
          if read.isEmpty then []
          else
            let name := (m.heading.getD "").toList
            [ran m false (pathDate s m "-") name (mergedPages m (read.map fun t => textLines t.2))]
        else read.map fun (path, t) =>
          let lines := textLines t
          let closed := 1 < m.columns && (!m.across || lines.length % m.columns != 0)
          ran m closed (pathDate s m path) (title path) (pagesOf m lines)
      reading paths (Ran.after complaints 1 { writes })

/-! ## Reading page by page -/

/-- Shows files one after another, each with its name above it. Whoever does not read at a terminal gets all
of them at once, the input first. -/
def more (s : Scene) (args : List Raw) : Ran :=
  let isCount (a : Raw) : Bool :=
    (a.startsWith "-" || a.startsWith "+") && isNumeral (String.ofList (a.toList.drop 1))
  let k : Known :=
    { tool := "more", plain := "dflcpsue", withArgument := "nP", mixed := true
      long := [("silent", 'd'), ("logical", 'f'), ("no-pause", 'l'), ("print-over", 'c'),
        ("clean-print", 'p'), ("squeeze", 's'), ("plain", 'u'), ("lines", 'n'), ("exit-on-eof", 'e')] }
  k.run (args.filter fun a => !isCount a) fun o =>
    let rule : Raw := String.ofList (List.replicate 14 ':')
    let shown (p : Raw) : Bool × List UInt8 :=
      match s.reach p with
      | .error _ => complaint ("more: cannot open " ++ p ++ ": " ++ reason .notFound)
      | .ok r =>
        if r.node.isDirectory then (false, Raw.toBytes ("\n*** " ++ p ++ ": directory ***\n\n"))
        else
          let bytes := ((s.contentOf r).toOption.map (·.bytes)).getD []
          (false, Raw.toBytes (rule ++ "\n" ++ p ++ "\n" ++ rule ++ "\n") ++ bytes)
    { writes := (false, s.input.bytes) :: o.operands.map shown, rest := some .empty }

end Host.Tool

end PolicyGate
