import PolicyGate.Host.Calendar
import PolicyGate.Host.Format
import PolicyGate.Host.Tool.Change
import PolicyGate.Host.Tool.Version

/-!
# Tools that list files

They show what is in directories, and what is known of files.
-/

namespace PolicyGate

namespace Host.Tool

/-! ## Lists of directories -/

def lsKnown : Known :=
  { tool := "ls", plain := "1aAdlrtSRFphiCmsUXfgoknqxvLNcuGHbQBD", withArgument := "wTI"
    optional := "OYZEJV", refusal := 2
    long := [("all", 'a'), ("almost-all", 'A'), ("directory", 'd'), ("reverse", 'r'), ("color", 'O'),
      ("classify", 'F'), ("recursive", 'R'), ("size", 's'), ("inode", 'i'), ("human-readable", 'h'),
      ("numeric-uid-gid", 'n'), ("no-group", 'G'), ("quote-name", 'Q'), ("escape", 'b'),
      ("literal", 'N'), ("dereference", 'L'), ("file-type", 'D'), ("group-directories-first", 'B'),
      ("sort", 'Y'), ("format", 'Z'), ("time-style", 'E'), ("full-time", 'J'), ("zero", 'V'),
      ("width", 'w'), ("ignore", 'I'), ("hide", 'I'), ("kibibytes", 'k')] }

/-- Something that a list shows. -/
structure Item where
  /-- How it is called in the list. -/
  name : Raw
  loc : List String
  number : Nat
  node : Node

/-- How items follow each other. -/
inductive Shape where
  | single
  | long
  | commas
  | down
  | across
  deriving DecidableEq, Repr

def shapeOf (o : Options) : Shape :=
  let last := (o.given.filter fun g => "1lmCxgonZJ".toList.contains g.1).getLast?
  match last with
  | some ('1', _) => if o.has 'l' || o.has 'g' || o.has 'o' || o.has 'n' then .long else .single
  | some ('m', _) => .commas
  | some ('C', _) => .down
  | some ('x', _) => .across
  | some ('Z', v) =>
    if v == "commas" then .commas else if v == "long" || v == "verbose" then .long
    else if v == "across" || v == "horizontal" then .across
    else if v == "vertical" then .down else .single
  | some _ => .long
  | none => .single

/-- Orders items as the options ask for. -/
def inListOrder (o : Options) (items : List Item) : List Item :=
  let key := (o.given.filter fun g => "tSXUfvY".toList.contains g.1).getLast?
  let byName (a b : Item) : Bool := a.name < b.name
  let ending (r : Raw) : Raw :=
    let cs := r.toList
    if cs.contains '.' then String.ofList ('.' :: (cs.reverse.takeWhile (· != '.')).reverse) else ""
  let before (a b : Item) : Bool :=
    match key with
    | some ('t', _) | some ('Y', "time") =>
      b.node.modified < a.node.modified || (a.node.modified == b.node.modified && byName a b)
    | some ('S', _) | some ('Y', "size") =>
      b.node.size < a.node.size || (a.node.size == b.node.size && byName a b)
    | some ('X', _) | some ('Y', "extension") =>
      ending a.name < ending b.name || (ending a.name == ending b.name && byName a b)
    | some ('v', _) | some ('Y', "version") => Version.compare a.name.toList b.name.toList < 0
    | _ => byName a b
  let sorted := match key with
    | some ('U', _) | some ('f', _) | some ('Y', "none") => items
    | _ => items.mergeSort fun a b => !before b a
  let sorted := if o.has 'r' then sorted.reverse else sorted
  if o.has 'B' then
    sorted.filter (·.node.isDirectory) ++ sorted.filter fun i => !i.node.isDirectory
  else sorted

/-- The sign behind a name. -/
def sign (o : Options) (n : Node) : Raw :=
  if o.has 'F' || o.has 'D' then
    match n.content with
    | .directory => "/"
    | .link _ => "@"
    | .channel => "|"
    | .file _ | .program _ => if o.has 'F' && n.isExecutable then "*" else ""
    | .device _ => ""
  else if o.has 'p' && n.isDirectory then "/"
  else ""

/-- The blocks of a thousand and twenty-four bytes that a node takes. -/
def blocksOf (n : Node) : Nat :=
  match n.content with
  | .directory => 4
  | .file bytes => (bytes.length + 4095) / 4096 * 4
  | .program _ => 4
  | _ => 0

/-- A size with the letter of a unit, rounded up, where each unit is so many of the one before. -/
def scaledSize (base : Nat) (letters : List Char) (n : Nat) : Raw :=
  let rec go : Nat → Nat → List Char → Raw
    | 0, _, _ => toString n
    | _ + 1, _, [] => toString n
    | fuel + 1, unit, c :: cs =>
      if n < unit * base || cs.isEmpty then
        let tenths := (n * 10 + unit - 1) / unit
        if tenths < 100 then
          toString (tenths / 10) ++ "." ++ toString (tenths % 10) ++ c.toString
        else
          let whole := (n + unit - 1) / unit
          if whole < base || cs.isEmpty then toString whole ++ c.toString else go fuel (unit * base) cs
      else go fuel (unit * base) cs
  if n < base then toString n else go 7 base letters

def humanSize (n : Nat) : Raw := scaledSize 1024 "KMGTPE".toList n

def sizeText (o : Options) (n : Nat) : Raw := if o.has 'h' then humanSize n else toString n

/-- A name as the options ask for it. -/
def nameText (o : Options) (r : Raw) : Raw :=
  if o.has 'Q' then
    "\"" ++ String.join (r.toList.map fun c =>
      if c == '"' || c == '\\' then String.ofList ['\\', c]
      else if isShown c then c.toString else String.ofList (escapedChar c)) ++ "\""
  else if o.has 'b' then
    String.join (r.toList.map fun c =>
      if c == ' ' || c == '\\' then String.ofList ['\\', c]
      else if isShown c then c.toString else String.ofList (escapedChar c))
  else if o.has 'q' then String.ofList (r.toList.map fun c => if isShown c then c else '?')
  else r

def padRight (width : Nat) (r : Raw) : Raw := r ++ String.ofList (List.replicate (width - r.length) ' ')

def padTo (width : Nat) (r : Raw) : Raw := String.ofList (List.replicate (width - r.length) ' ') ++ r

def widest (rs : List Raw) : Nat := (rs.map String.length).foldl max 0

/-- The time of a node in a long list. Old times have the year in place of the hour. -/
def timeText (o : Options) (now : Int) (n : Node) : Raw :=
  let seconds := Date.secondsOf n.modified
  let d := Date.ofMoment n.modified
  let style := if o.has 'J' then "full-iso" else (o.value? 'E').getD ""
  if style == "full-iso" then d.format "%Y-%m-%d %H:%M:%S.%N %z"
  else if style == "long-iso" then d.format "%Y-%m-%d %H:%M"
  else
    let recent := seconds ≤ Date.secondsOf now + 1 && Date.secondsOf now - 15778476 < seconds
    if style == "iso" then (if recent then d.format "%m-%d %H:%M" else d.format "%Y-%m-%d ")
    else if style.startsWith "+" then d.format (style.drop 1).toString
    else if recent then d.format "%b %e %H:%M" else d.format "%b %e  %Y"

/-- The names of items in columns of a width, going down or across. -/
def inColumns (width : Nat) (across : Bool) (names : List Raw) : Raw :=
  let array := names.toArray
  let count := array.size
  let at_ (cols rows c r : Nat) : Option Raw := array[if across then r * cols + c else c * rows + r]?
  let rowsFor (cols : Nat) : Nat := (count + cols - 1) / cols
  let widths (cols : Nat) : List Nat :=
    (List.range cols).map fun c =>
      let cells := (List.range (rowsFor cols)).filterMap fun r => at_ cols (rowsFor cols) c r
      widest cells
  let fits (cols : Nat) : Bool :=
    let ws := widths cols
    ((ws.dropLast.map (· + 2)).foldl (· + ·) 0 + ws.getLast?.getD 0) < width
  let most := max 1 (min count (width / 3))
  let cols := ((List.range most).map fun i => most - i).find? fits |>.getD 1
  let ws := (widths cols).toArray
  let rec gap : Nat → Nat → Nat → List Char
    | 0, _, _ => []
    | fuel + 1, here, there =>
      if there ≤ here then []
      else if (here + 1) / 8 < there / 8 then '\t' :: gap fuel (here + 8 - here % 8) there
      else ' ' :: gap fuel (here + 1) there
  String.join ((List.range (rowsFor cols)).map fun r =>
    let cells := (List.range cols).filterMap fun c => (at_ cols (rowsFor cols) c r).map (c, ·)
    let (line, _) := cells.foldl (fun ((done, used) : Raw × Nat) (c, name) =>
      let start := ((ws.toList.take c).map (· + 2)).foldl (· + ·) 0
      (done ++ String.ofList (gap (start + 1) used start) ++ name, start + name.length)) ("", 0)
    line ++ "\n")

/-- Names with commas between, in lines of a width. -/
def withCommas (width : Nat) (names : List Raw) : Raw :=
  let step : Raw × Nat → Raw → Raw × Nat := fun (done, used) name =>
    if done.isEmpty then (name, name.length)
    else if used + 2 + name.length < width then (done ++ ", " ++ name, used + 2 + name.length)
    else (done ++ ",\n" ++ name, name.length)
  let (text, _) := names.foldl step ("", 0)
  if names.isEmpty then "" else text ++ "\n"

/-- Lines of a long list. -/
def longLines (s : Scene) (o : Options) (items : List Item) : Raw :=
  let cells := items.map fun i =>
    let links := toString (s.files.nameCount i.loc i.number i.node)
    let size := match i.node.content with
      | .device _ => "1, 3"
      | _ => sizeText o i.node.size
    let arrow := match i.node.content with
      | .link t => " -> " ++ nameText o (Raw.ofText t)
      | _ => sign o i.node
    (i, links, size, arrow)
  let linkWidth := widest (cells.map (·.2.1))
  let sizeWidth := widest (cells.map (·.2.2.1))
  let numberWidth := widest (items.map fun i => toString i.number)
  let blockWidth := widest (items.map fun i => sizeText o (blocksOf i.node))
  String.join (cells.map fun (i, links, size, arrow) =>
    let owner : Raw := if o.has 'n' then "0" else "root"
    (if o.has 'i' then padTo numberWidth (toString i.number) ++ " " else "") ++
    (if o.has 's' then padTo blockWidth (sizeText o (blocksOf i.node)) ++ " " else "") ++
    (kindLetter i.node).toString ++ modeLetters i.node.mode ++ " " ++ padTo linkWidth links ++ " " ++
    (if o.has 'g' then "" else owner ++ " ") ++
    (if o.has 'o' || o.has 'G' then "" else owner ++ " ") ++
    padTo sizeWidth size ++ " " ++ timeText o s.files.now i.node ++ " " ++ nameText o i.name ++ arrow ++ "\n")

/-- Items as the options ask for them. -/
def itemLines (s : Scene) (o : Options) (items : List Item) : Raw :=
  let shape := shapeOf o
  if shape == .long then longLines s o items
  else
    let numberWidth := widest (items.map fun i => toString i.number)
    let blockWidth := widest (items.map fun i => sizeText o (blocksOf i.node))
    let wide := shape != .commas
    let names := items.map fun i =>
      (if o.has 'i' then padTo (if wide then numberWidth else 0) (toString i.number) ++ " " else "") ++
      (if o.has 's' then padTo (if wide then blockWidth else 0) (sizeText o (blocksOf i.node)) ++ " "
        else "") ++ nameText o i.name ++ sign o i.node
    let width := ((o.value? 'w').map fun w => if numeral w.toList = 0 then 100000 else
      numeral w.toList).getD 80
    match shape with
    | .commas => withCommas width names
    | .down => if names.isEmpty then "" else inColumns width false names
    | .across => if names.isEmpty then "" else inColumns width true names
    | _ =>
      let ending : Raw := if o.has 'V' then "\x00" else "\n"
      String.join (names.map (· ++ ending))

/-- The items in a directory. -/
def itemsIn (s : Scene) (o : Options) (loc : List String) : List Item :=
  let visible := (s.files.namesIn loc).filter fun n =>
    o.has 'a' || o.has 'A' || o.has 'f' || !n.startsWith "."
  let dots : List (Raw × List String) :=
    if o.has 'a' || o.has 'f' then [(".", loc), ("..", loc.dropLast)] else []
  let places := dots ++ visible.map fun n => (Raw.ofText n, loc ++ [n])
  inListOrder o (places.filterMap fun (name, l) =>
    (s.files.node? l).map fun (number, node) =>
      let node := if o.has 'L' then
          match Host.reach s.files s.home ("/" ++ "/".intercalate l) with
          | .ok r => r.node
          | .error _ => node
        else node
      { name, loc := l, number, node })

/-- What is shown of a directory, and of those below it if all are asked for. -/
def directoryBlocks (s : Scene) (o : Options) (titles : Bool) : Nat → Raw → List String → List Raw
  | 0, _, _ => []
  | fuel + 1, name, loc =>
    let items := itemsIn s o loc
    let sum := (items.map fun i => blocksOf i.node).foldl (· + ·) 0
    let title := if titles || o.has 'R' then nameText o name ++ ":\n" else ""
    let total := if shapeOf o == .long || o.has 's' then
        "total " ++ (if o.has 'h' && 0 < sum then humanSize (sum * 1024) else toString sum) ++ "\n" else ""
    let deeper := if o.has 'R' then
        items.filter fun i => i.node.isDirectory && i.name != "." && i.name != ".." else []
    (title ++ total ++ itemLines s o items) ::
      deeper.flatMap fun i => directoryBlocks s o titles fuel (below name i.name) i.loc

/-- Lists what is at some paths, with options in front of those that are given. -/
def listing (tool : String) (front : List Raw) (s : Scene) (args : List Raw) : Ran :=
  let k : Known := { lsKnown with tool }
  k.run (front ++ args) fun o =>
    let paths := if o.operands.isEmpty then ["."] else o.operands
    let followsLinks := o.has 'L' || o.has 'H' || !(shapeOf o == .long || o.has 'd' || o.has 'F')
    let look (p : Raw) : Except PathFault Reached :=
      match s.reachName p with
      | .error e => .error e
      | .ok r =>
        if r.node.isLink && followsLinks then
          match s.reach p with
          | .ok t => if t.node.isDirectory || o.has 'L' then .ok t else .ok r
          | .error _ => .ok r
        else .ok r
    let each := paths.map fun p => (p, look p)
    let bad := each.filterMap fun (p, r) =>
      match r with
      | .ok _ => none
      | .error e => some (tool ++ ": cannot access " ++ quoted p ++ ": " ++ reason e)
    let items := each.filterMap fun (p, r) =>
      match r with
      | .ok r => some ({ name := p, loc := r.loc, number := r.number, node := r.node } : Item)
      | .error _ => none
    let items := inListOrder o items
    let isPlain (i : Item) : Bool := o.has 'd' || !i.node.isDirectory
    let plain := items.filter isPlain
    let dirs := items.filter fun i => !isPlain i
    let titles := 1 < paths.length || !bad.isEmpty
    let files := if plain.isEmpty then "" else itemLines s o plain
    let blocks := (if files.isEmpty then [] else [files]) ++
      dirs.flatMap fun d => directoryBlocks s o titles 100 d.name d.loc
    (said ("\n".intercalate blocks) 0).after bad 2

def ls (s : Scene) (args : List Raw) : Ran := listing "ls" [] s args

/-! ## What is known of files -/

def kindName (n : Node) : Raw :=
  match n.content with
  | .directory => "directory"
  | .link _ => "symbolic link"
  | .channel => "fifo"
  | .device _ => "character special file"
  | .file [] => "regular empty file"
  | _ => "regular file"

/-- The bits of a kind in front of those of the mode. -/
def kindBits (n : Node) : Nat :=
  match n.content with
  | .directory => 0o040000
  | .link _ => 0o120000
  | .channel => 0o010000
  | .device _ => 0o020000
  | _ => 0o100000

/-- The two numbers of a device: its kind, and which one of that kind it is. -/
def deviceNumbers (n : Node) : Nat × Nat :=
  match n.content with
  | .device .null => (1, 3)
  | .device .zero => (1, 5)
  | .device .full => (1, 7)
  | .device .random => (1, 8)
  | .device .terminal => (5, 0)
  | _ => (0, 0)

/-- A value that a letter of a format asks for, and whether it is a number. -/
def statValue? (s : Scene) (p : Raw) (r : Reached) (c : Char) : Option (Raw × Bool) :=
  let n := r.node
  let number (k : Nat) : Option (Raw × Bool) := some (toString k, true)
  let text (t : Raw) : Option (Raw × Bool) := some (t, false)
  let hex (k : Nat) : Raw := String.ofList (Nat.toDigits 16 k)
  let time : Raw :=
    (Date.ofMoment n.modified).format "%Y-%m-%d %H:%M:%S.%N %z"
  match c with
  | 'n' => text p
  | 'N' =>
    text (quoted p ++ (match n.content with
      | .link t => " -> " ++ quoted (Raw.ofText t)
      | _ => ""))
  | 's' => number n.size
  | 'a' => some (octal 1 n.mode, true)
  | 'A' => text ((kindLetter n).toString ++ modeLetters n.mode)
  | 'f' => some (hex (kindBits n + n.mode), true)
  | 'F' => text (kindName n)
  | 'h' => number (s.files.nameCount r.loc r.number n)
  | 'i' => number (r.number + 100000)
  | 'u' | 'g' => number 0
  | 'U' | 'G' => text "root"
  | 'b' => number (2 * blocksOf n)
  | 'B' => number 512
  | 'o' => number 4096
  | 'd' => number 48
  | 'D' => some ("30", true)
  | 't' => some (hex (deviceNumbers n).1, true)
  | 'T' => some (hex (deviceNumbers n).2, true)
  | 'r' => number (256 * (deviceNumbers n).1 + (deviceNumbers n).2)
  | 'R' => some (hex (256 * (deviceNumbers n).1 + (deviceNumbers n).2), true)
  | 'm' => text "/"
  | 'w' => text time
  | 'x' | 'y' | 'z' => text time
  | 'W' | 'X' | 'Y' | 'Z' => some (toString (Date.secondsOf n.modified), true)
  | _ => none

/-- Fills a format. Escapes count if they are asked for. -/
def statFilled (s : Scene) (p : Raw) (r : Reached) (escapes : Bool) : Nat → List Char → Raw
  | 0, _ => ""
  | _ + 1, [] => ""
  | fuel + 1, '%' :: cs =>
    let flags := cs.takeWhile fun c => "-+ #0'".toList.contains c
    let rest := cs.drop flags.length
    let width := rest.takeWhile Char.isDigit
    let rest := rest.drop width.length
    let (precision, rest) := match rest with
      | '.' :: more =>
        let ds := more.takeWhile Char.isDigit
        (some (numeral ds), more.drop ds.length)
      | _ => (none, rest)
    match rest with
    | '%' :: more => "%" ++ statFilled s p r escapes fuel more
    | c :: more =>
      let text := match statValue? s p r c with
        | some (t, isNumber) =>
          let d : Directive :=
            { left := flags.contains '-', zeros := flags.contains '0', width := numeral width }
          let t := if flags.contains '#' && c == 'a' && !t.startsWith "0" then "0" ++ t else t
          let t := match precision with
            | some k => if isNumber then t else String.ofList (t.toList.take k)
            | none => t
          pad d (d.zeros && isNumber) "" t
        | none => "?"
      text ++ statFilled s p r escapes fuel more
    | [] => "%"
  | fuel + 1, '\\' :: cs =>
    if escapes then
      let (bytes, n) := escapeBytes .plain .format cs
      Raw.ofBytes bytes ++ statFilled s p r escapes fuel (cs.drop n)
    else "\\" ++ statFilled s p r escapes fuel cs
  | fuel + 1, c :: cs => c.toString ++ statFilled s p r escapes fuel cs

/-- All that is known of a file. -/
def statAll : Raw :=
  "  File: %N\n  Size: %-10s\tBlocks: %-10b IO Block: %-6o %F\nDevice: 0,%d\tInode: %-11i Links: %h\n" ++
  "Access: (%04a/%10.10A)  Uid: (%5u/%8U)   Gid: (%5g/%8G)\nAccess: %x\nModify: %y\nChange: %z\n Birth: %w\n"

def statKnown : Known :=
  { tool := "stat", plain := "Lft", withArgument := "cP"
    long := [("format", 'c'), ("printf", 'P'), ("dereference", 'L'), ("file-system", 'f'), ("terse", 't')] }

def stat (s : Scene) (args : List Raw) : Ran :=
  let k := statKnown
  k.run args fun o =>
    let form : Raw × Bool := match (o.given.filter fun g => g.1 == 'c' || g.1 == 'P').getLast? with
      | some ('c', f) => (f ++ "\n", false)
      | some (_, f) => (f, true)
      | none => (statAll.replace "%N" "%n", false)
    if o.operands.isEmpty then missingOperand k
    else
      (o.operands.foldl (fun (w : Work) p =>
        match if o.has 'L' then s.reach p else s.reachName p with
        | .ok r =>
          let r := match p, r.node.content with
            | "-", _ => r
            | _, _ => r
          let text := statFilled s p r form.2 (form.1.length + 1) form.1.toList
          { w with shown := (false, Raw.toBytes text) :: w.shown }
        | .error e => w.fail ("stat: cannot statx " ++ quoted p ++ ": " ++ reason e)) { files := s.files }).ran

end Host.Tool

end PolicyGate
