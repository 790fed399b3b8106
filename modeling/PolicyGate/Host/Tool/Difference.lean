import PolicyGate.Host.Calendar
import PolicyGate.Host.Edits
import PolicyGate.Host.Regex.Written
import PolicyGate.Host.Tool.Basic

/-!
# Differences

Two files are compared byte by byte, or line by line. What turns the lines of the one into those of
the other is written in one of several forms.
-/

namespace PolicyGate

namespace Host.Tool

open Edits (Change)

/-! ## Byte by byte -/

/-- A byte as it is shown: a caret stands for a control, and `M-` for the eighth bit. -/
def shownByte (b : UInt8) : Raw :=
  let low (b : UInt8) : Raw :=
    if b < 0x20 then "^" ++ (Char.ofNat (b.toNat + 64)).toString
    else if b = 0x7F then "^?"
    else (Char.ofNat b.toNat).toString
  if b < 0x80 then low b else "M-" ++ low (b - 0x80)

def octalField (b : UInt8) : Raw :=
  let ds := Nat.toDigits 8 b.toNat
  String.ofList (List.replicate (3 - ds.length) ' ' ++ ds)

def cmpKnown : Known :=
  { tool := "cmp", plain := "bls", withArgument := "in", refusal := 2, named := true
    long := [("print-bytes", 'b'), ("verbose", 'l'), ("silent", 's'), ("quiet", 's'),
      ("ignore-initial", 'i'), ("bytes", 'n')] }

/-- The bytes that differ, with their numbers. -/
def unlikeBytes (a b : List UInt8) : List (Nat × UInt8 × UInt8) :=
  ((a.zip b).zipIdx 1).filterMap fun ((x, y), n) => if x = y then none else some (n, x, y)

/-- Compares two files byte by byte. -/
def cmpFiles (o : Options) (names : Raw × Raw) (a b : List UInt8) : Ran :=
  let unlike := unlikeBytes a b
  let common := min a.length b.length
  let short := if a.length < b.length then names.1 else names.2
  let shorter := if a.length < b.length then a else b
  let lines := 1 + (shorter.count 0x0A)
  let atStart := shorter.getLast? == some 0x0A
  let ending : List (Bool × List UInt8) :=
    if a.length = b.length || o.has 's' then []
    else if common = 0 then [complaint ("cmp: EOF on " ++ short ++ " which is empty")]
    else if o.has 'l' then [complaint ("cmp: EOF on " ++ short ++ " after byte " ++ toString common)]
    else
      [complaint ("cmp: EOF on " ++ short ++ " after byte " ++ toString common ++
        (if atStart then ", line " else ", in line ") ++ toString (if atStart then lines - 1 else lines))]
  if o.has 'l' then
    let width := (toString common).length
    let row (u : Nat × UInt8 × UInt8) : Raw :=
      let n := toString u.1
      let front := String.ofList (List.replicate (width - n.length) ' ') ++ n ++ " "
      if o.has 'b' then
        let s := shownByte u.2.1
        front ++ octalField u.2.1 ++ " " ++ s ++ String.ofList (List.replicate (4 - s.length) ' ') ++
          " " ++ octalField u.2.2 ++ " " ++ shownByte u.2.2
      else front ++ octalField u.2.1 ++ " " ++ octalField u.2.2
    { writes := (false, unlike.flatMap fun u => ended (row u)) :: ending
      status := if unlike.isEmpty && a.length = b.length then 0 else 1 }
  else
    match unlike with
    | [] => { writes := ending, status := if a.length = b.length then 0 else 1 }
    | (n, x, y) :: _ =>
      let line := 1 + (a.take (n - 1)).count 0x0A
      if o.has 's' then silent 1
      else
        said (names.1 ++ " " ++ names.2 ++ " differ: " ++ (if o.has 'b' then "byte " else "char ") ++
          toString n ++ ", line " ++ toString line ++
          (if o.has 'b' then " is " ++ octalField x ++ " " ++ shownByte x ++ " " ++ octalField y ++ " " ++
            shownByte y else "") ++ "\n") 1

def cmp (s : Scene) (args : List Raw) : Ran :=
  let k := cmpKnown
  k.run args fun o =>
    let skips := match o.value? 'i' with
      | some v => v.splitOn ":"
      | none => []
    let skips := o.operands.drop 2 ++ skips
    let badSkip := skips.find? fun v => (count? v).isNone
    let badLimit := (o.value? 'n').filter fun v => (count? v).isNone
    if o.has 'l' && o.has 's' then k.refuse "options -l and -s are incompatible"
    else
      match badSkip, badLimit, o.operands with
      | some v, _, _ => k.refuse ("invalid --ignore-initial value " ++ quoted v)
      | none, some v, _ => k.refuse ("invalid --bytes value " ++ quoted v)
      | none, none, [] => k.refuse "missing operand after 'cmp'"
      | none, none, first :: rest =>
        let second := rest.headD "-"
        let read (p : Raw) : Except Raw (List UInt8) :=
          match contents? s p with
          | .ok t => .ok (t.unroll (if t.isEndless then 65536 else 0))
          | .error e => .error ("cmp: " ++ p ++ ": " ++ e)
        let number (i : Nat) : Nat := ((skips[i]?).bind count?).getD 0
        let skipA := number 0
        let skipB := if skips.length = 1 && o.operands.length < 3 then skipA else number 1
        let cut (skip : Nat) (bytes : List UInt8) : List UInt8 :=
          match (o.value? 'n').bind count? with
          | some n => (bytes.drop skip).take n
          | none => bytes.drop skip
        if first == second && skipA = skipB then silent 0
        else
          match read first, read second with
          | .ok a, .ok b =>
            reading [first, second] (cmpFiles o (first, second) (cut skipA a) (cut skipB b))
          | .error e, _ | .ok _, .error e => if o.has 's' then silent 2 else complain e 2

/-! ## Line by line -/

/-- The form in which changes are written. -/
inductive DiffForm where
  | normal
  | unified (around : Nat)
  | context (around : Nat)
  | script
  | counted
  | columns (width : Nat)
  | brief
  deriving DecidableEq, Repr

/-- Which blanks count. -/
inductive Blanks where
  | all
  /-- All but those at the end of a line. -/
  | notLast
  /-- Only whether there are any. -/
  | some
  | none
  deriving DecidableEq, Repr

structure DiffStyle where
  form : DiffForm := .normal
  fold : Bool := false
  blanks : Blanks := .all
  /-- Whether changes of empty lines do not count. -/
  skipsEmpty : Bool := false
  /-- Changes of lines that all fit one of these do not count. -/
  skipped : List Regex := []
  labels : List Raw := []
  text : Bool := false
  newFiles : Bool := false
  deep : Bool := false
  tellsSame : Bool := false
  tabbed : Bool := false
  spread : Bool := false
  leftOnly : Bool := false
  hidesCommon : Bool := false
  excluded : List Raw := []
  /-- The options as they were given. -/
  written : Raw := ""

/-- A line as it is compared. -/
def DiffStyle.key (st : DiffStyle) (line : List UInt8) : List UInt8 :=
  let isBlank (b : UInt8) : Bool := b = 0x20 || (0x09 ≤ b && b ≤ 0x0D)
  let cutEnd (l : List UInt8) : List UInt8 := (l.reverse.dropWhile isBlank).reverse
  let line := match st.blanks with
    | .all => line
    | .notLast => cutEnd line
    | .some =>
      ((cutEnd line).foldl (fun (acc : List UInt8) b =>
        if isBlank b then if acc.head? == Option.some 0x20 then acc else 0x20 :: acc
        else b :: acc) []).reverse
    | .none => line.filter fun b => !isBlank b
  if st.fold then line.map fun b => if 0x41 ≤ b && b ≤ 0x5A then b + 32 else b else line

/-- Whether a line's change does not count. -/
def DiffStyle.skips (st : DiffStyle) (line : List UInt8) : Bool :=
  (st.skipsEmpty && (strip line).isEmpty) ||
    st.skipped.any fun r =>
      (Regex.search { chars := (Raw.ofBytes (strip line)).toList.toArray, fold := st.fold } r 0).isSome

/-- Two files that are compared: their names, their lines, and the moments of their last changes. -/
structure DiffPair where
  names : Raw × Raw
  left : Array (List UInt8)
  right : Array (List UInt8)
  moments : Int × Int

namespace DiffPair

variable (p : DiffPair)

def leftLines (c : Change) : List (List UInt8) := (p.left.extract c.left c.leftEnd).toList
def rightLines (c : Change) : List (List UInt8) := (p.right.extract c.right c.rightEnd).toList

/-- A line behind a mark. One that does not end says so. -/
def marked (mark : Raw) (line : List UInt8) : List UInt8 :=
  mark.toBytes ++ line ++
    (if line.getLast? == some 0x0A then [] else Raw.toBytes "\n\\ No newline at end of file\n")

/-- The numbers of some lines. Without a line it is the number of the one in front. -/
def span (start stop : Nat) : Raw :=
  if stop ≤ start + 1 then toString (if stop = start then start else start + 1)
  else toString (start + 1) ++ "," ++ toString stop

def letter (c : Change) : Raw :=
  if c.left = c.leftEnd then "a" else if c.right = c.rightEnd then "d" else "c"

def normalText (st : DiffStyle) (c : Change) : List UInt8 :=
  let gap := if st.tabbed then "\t" else " "
  ended (span c.left c.leftEnd ++ letter c ++ span c.right c.rightEnd) ++
    (p.leftLines c).flatMap (marked ("<" ++ gap)) ++
    (if c.left < c.leftEnd && c.right < c.rightEnd then Raw.toBytes "---\n" else []) ++
    (p.rightLines c).flatMap (marked (">" ++ gap))

/-- Changes that are close to each other. -/
def grouped (around : Nat) : List Change → List (List Change)
  | [] => []
  | c :: cs =>
    match grouped around cs with
    | (d :: ds) :: rest =>
      if d.left ≤ c.leftEnd + 2 * around then (c :: d :: ds) :: rest else [c] :: (d :: ds) :: rest
    | rest => [c] :: rest

/-- The lines of both texts that a group is shown with. -/
def window (around : Nat) (group : List Change) : Change :=
  match group.head?, group.getLast? with
  | some f, some l =>
    let before := min around (min f.left f.right)
    let after := min around (min (p.left.size - l.leftEnd) (p.right.size - l.rightEnd))
    let before := if f.left < f.right then min around f.left else before
    ⟨f.left - before, min (l.leftEnd + after) p.left.size, f.right - before,
      min (l.rightEnd + after) p.right.size⟩
  | _, _ => ⟨0, 0, 0, 0⟩

def unifiedSpan (start stop : Nat) : Raw :=
  if stop = start then toString start ++ ",0"
  else if stop = start + 1 then toString stop
  else toString (start + 1) ++ "," ++ toString (stop - start)

/-- The lines of a group with their marks, from a place in the left text on. -/
def unifiedLines : Nat → Nat → List Change → List UInt8
  | i, stop, [] => ((p.left.extract i stop).toList).flatMap (marked " ")
  | i, stop, c :: cs =>
    ((p.left.extract i c.left).toList).flatMap (marked " ") ++
      (p.leftLines c).flatMap (marked "-") ++ (p.rightLines c).flatMap (marked "+") ++
      unifiedLines c.leftEnd stop cs

def unifiedText (around : Nat) (group : List Change) : List UInt8 :=
  let w := p.window around group
  ended ("@@ -" ++ unifiedSpan w.left w.leftEnd ++ " +" ++ unifiedSpan w.right w.rightEnd ++ " @@") ++
    p.unifiedLines w.left w.leftEnd group

/-- One side of a group in the form with context, from a place on. -/
def contextLines (lines : Array (List UInt8)) (ends : Change → Nat × Nat) (mark : Raw) :
    Nat → Nat → List Change → List UInt8
  | i, stop, [] => ((lines.extract i stop).toList).flatMap (marked "  ")
  | i, stop, c :: cs =>
    let (from_, to_) := ends c
    let both := c.left < c.leftEnd && c.right < c.rightEnd
    ((lines.extract i from_).toList).flatMap (marked "  ") ++
      ((lines.extract from_ to_).toList).flatMap (marked (if both then "! " else mark)) ++
      contextLines lines ends mark to_ stop cs

def contextText (around : Nat) (group : List Change) : List UInt8 :=
  let w := p.window around group
  let leftShown := group.any fun c => c.left < c.leftEnd
  let rightShown := group.any fun c => c.right < c.rightEnd
  ended "***************" ++ ended ("*** " ++ span w.left w.leftEnd ++ " ****") ++
    (if leftShown then
      contextLines p.left (fun c => (c.left, c.leftEnd)) "- " w.left w.leftEnd group else []) ++
    ended ("--- " ++ span w.right w.rightEnd ++ " ----") ++
    (if rightShown then
      contextLines p.right (fun c => (c.right, c.rightEnd)) "+ " w.right w.rightEnd group else [])

/-- What an editor has to be told for a change. A line that is only a dot is put in as two, of which one
is taken away. -/
def scriptText (c : Change) : List UInt8 :=
  let lines := p.rightLines c
  ended (span c.left c.leftEnd ++ letter c) ++
    (if lines.isEmpty then []
    else
      let step : List UInt8 × Bool → List UInt8 → List UInt8 × Bool := fun (done, open_) l =>
        let start := if open_ then [] else ended "a"
        if strip l == [0x2E] then (done ++ start ++ Raw.toBytes "..\n.\ns/.//\n", false)
        else (done ++ start ++ strip l ++ [0x0A], true)
      let (done, open_) := lines.foldl step ([], true)
      done ++ (if open_ then ended "." else []))

def countedText (c : Change) : List UInt8 :=
  (if c.left < c.leftEnd then
    ended ("d" ++ toString (c.left + 1) ++ " " ++ toString (c.leftEnd - c.left)) else []) ++
  (if c.right < c.rightEnd then
    ended ("a" ++ toString c.leftEnd ++ " " ++ toString (c.rightEnd - c.right)) ++
      (p.rightLines c).flatten else [])

/-! ## Side by side -/

/-- Blanks from a column to another. -/
def blanksTo (st : DiffStyle) : Nat → Nat → Nat → List UInt8
  | 0, _, _ => []
  | fuel + 1, here, there =>
    let next := here + 8 - here % 8
    if !st.spread && next ≤ there then 0x09 :: blanksTo st fuel next there
    else List.replicate (there - here) 0x20

/-- The part of a line that fits into a half, and the column it ends at. -/
def half (st : DiffStyle) (room : Nat) (line : List UInt8) : List UInt8 × Nat :=
  let step : List UInt8 × Nat × Nat → UInt8 → List UInt8 × Nat × Nat := fun (out, at_, shown) b =>
    if b = 0x09 then
      let gap := 8 - at_ % 8
      if at_ = shown then
        if st.spread then
          let n := min gap (room - shown)
          (out ++ List.replicate n 0x20, at_ + gap, shown + n)
        else if shown + gap < room then (out ++ [0x09], at_ + gap, shown + gap)
        else (out, at_ + gap, shown)
      else (out, at_ + gap, shown)
    else if at_ < room then (out ++ [b], at_ + 1, at_ + 1)
    else (out, at_ + 1, shown)
  let (out, _, shown) := (strip line).foldl step ([], 0, 0)
  (out, shown)

def row (st : DiffStyle) (width : Nat) (left : Option (List UInt8)) (mark : Char)
    (right : Option (List UInt8)) : List UInt8 :=
  let tab := if st.spread then 1 else 8
  let off := width / 2 + (tab + 3) / 2 + (if width % 2 = 1 && (tab + 3) % 2 = 1 then 1 else 0)
  let off := off - off % tab
  let room := min (off - 3) (width - off)
  let there := if room = 0 then width else off
  let endsIn (l : List UInt8) : Bool := l.getLast? == some 0x0A
  let (text, col) := match left with
    | some l => half st room l
    | none => ([], 0)
  let leftEnds := left.any endsIn
  let mark := match mark, right with
    | '|', some r => if leftEnds != endsIn r then (if leftEnds then '/' else '\\') else '|'
    | m, _ => m
  let (sign, col) :=
    if mark == ' ' then ([], col)
    else
      let middle := (room + there - 1) / 2
      (blanksTo st 400 col middle ++ [UInt8.ofNat mark.toNat], max col middle + 1)
  let (tail, rightEnds) := match right with
    | some r =>
      (if r.head? == some 0x0A then [] else blanksTo st 400 col there ++ (half st room r).1, endsIn r)
    | none => ([], false)
  text ++ sign ++ tail ++ (if leftEnds || rightEnds then [0x0A] else [])

def commonRows (st : DiffStyle) (width i j count : Nat) : List UInt8 :=
  if st.hidesCommon then []
  else
    (List.range count).flatMap fun n =>
      if st.leftOnly then row st width p.left[i + n]? '(' none
      else row st width p.left[i + n]? ' ' p.right[j + n]?

def columnsText (st : DiffStyle) (width : Nat) : Nat → Nat → List Change → List UInt8
  | i, j, [] => p.commonRows st width i j (p.left.size - i)
  | i, j, c :: cs =>
    let (ls, rs) := (p.leftLines c, p.rightLines c)
    let n := min ls.length rs.length
    p.commonRows st width i j (c.left - i) ++
      (ls.zip rs).flatMap (fun (l, r) => row st width (some l) '|' (some r)) ++
      (ls.drop n).flatMap (fun l => row st width (some l) '<' none) ++
      (rs.drop n).flatMap (fun r => row st width none '>' (some r)) ++
      columnsText st width c.leftEnd c.rightEnd cs

/-! ## All of it -/

/-- The changes, and whether each counts. -/
def changes (st : DiffStyle) : List (Change × Bool) :=
  let found := Edits.changes (p.left.toList.map st.key) (p.right.toList.map st.key)
  found.map fun c => (c, !((p.leftLines c ++ p.rightLines c).all st.skips))

/-- The lines that name both files. -/
def heading (st : DiffStyle) (marks : Raw × Raw) (format : String) : List UInt8 :=
  let line (mark : Raw) (i : Nat) (name : Raw) (moment : Int) : List UInt8 :=
    ended (mark ++ " " ++ (match st.labels[i]? with
      | some l => l
      | none => name ++ "\t" ++ (Date.ofMoment moment).format format))
  line marks.1 0 p.names.1 p.moments.1 ++ line marks.2 1 p.names.2 p.moments.2

def text (st : DiffStyle) (all : List (Change × Bool)) : List UInt8 :=
  let counted := (all.filter (·.2)).map (·.1)
  let groups (around : Nat) : List (List Change) :=
    (grouped around (all.map (·.1))).filter fun g => g.any counted.contains
  match st.form with
  | .normal => counted.flatMap (p.normalText st)
  | .unified n =>
    p.heading st ("---", "+++") "%Y-%m-%d %H:%M:%S.%N %z" ++ (groups n).flatMap (p.unifiedText n)
  | .context n =>
    p.heading st ("***", "---") "%a %b %e %H:%M:%S %Y" ++ (groups n).flatMap (p.contextText n)
  | .script => counted.reverse.flatMap p.scriptText
  | .counted => counted.flatMap p.countedText
  | .columns width => p.columnsText st width 0 0 (all.map (·.1))
  | .brief => ended ("Files " ++ p.names.1 ++ " and " ++ p.names.2 ++ " differ")

end DiffPair

/-- What comparing has written so far, and its status. -/
abbrev Compared := List (Bool × List UInt8) × Nat

/-- Compares two files, given what is written in front of their differences. -/
def diffFiles (st : DiffStyle) (front : List UInt8) (names : Raw × Raw) (moments : Int × Int)
    (a b : List UInt8) : Compared :=
  let same : Compared :=
    (if st.tellsSame then
      [(false, ended ("Files " ++ names.1 ++ " and " ++ names.2 ++ " are identical"))] else [], 0)
  let binary := !st.text && (a.contains 0 || b.contains 0)
  let isColumns := match st.form with
    | .columns _ => true
    | _ => false
  if a == b && !isColumns then same
  else if binary then
    if st.form == .brief then
      ([(false, ended ("Files " ++ names.1 ++ " and " ++ names.2 ++ " differ"))], 1)
    else ([(false, ended ("Binary files " ++ names.1 ++ " and " ++ names.2 ++ " differ"))], 1)
  else
    let p : DiffPair := ⟨names, (byteLines a).toArray, (byteLines b).toArray, moments⟩
    let all := p.changes st
    if all.any (·.2) then ([(false, (if st.form == .brief then [] else front) ++ p.text st all)], 1)
    else if isColumns then ([(false, p.text st all)], 0)
    else same

/-- What a path stands for: its content, whether it is a directory, and the moment of its change. -/
def diffRead (s : Scene) (path : Raw) : Except Raw (List UInt8 × Option Reached × Int) :=
  if path == "-" then .ok (s.input.bytes, none, s.files.now)
  else
    match s.reach path with
    | .error e => .error (reason e)
    | .ok r =>
      if r.node.isDirectory then .ok ([], some r, r.node.modified)
      else (s.contentOf r).map fun t => (t.bytes, none, r.node.modified)

def baseOf (path : Raw) : Raw := ((path.splitOn "/").filter (!·.isEmpty)).getLastD path

/-- A name in a directory. -/
def inside (dir name : Raw) : Raw := if dir.endsWith "/" then dir ++ name else dir ++ "/" ++ name

def diffStatus (all : List Compared) : Compared :=
  (all.flatMap (·.1), (all.map (·.2)).foldl max 0)

/-- Compares what two paths lead to, given how deep it may go and whether they were asked for. -/
def diffPaths (st : DiffStyle) (s : Scene) : Nat → Bool → Raw → Raw → Compared
  | 0, _, _, _ => ([], 0)
  | fuel + 1, top, a, b =>
    let front := if top then [] else
      ended ("diff" ++ (if st.written.isEmpty then "" else " " ++ st.written) ++ " " ++ a ++ " " ++ b)
    let failed (p e : Raw) : Bool × List UInt8 := complaint ("diff: " ++ p ++ ": " ++ e)
    let isMissing (e : Raw) : Bool := e == reason .notFound
    match diffRead s a, diffRead s b with
    | .error e, .error f => ([failed a e, failed b f], 2)
    | .error e, .ok (bytes, dir, moment) =>
      if st.newFiles && isMissing e && dir.isNone then
        diffFiles st front (a, b) (-Date.hostStart * 1000000, moment) [] bytes
      else ([failed a e], 2)
    | .ok (bytes, dir, moment), .error e =>
      if st.newFiles && isMissing e && dir.isNone then
        diffFiles st front (a, b) (moment, -Date.hostStart * 1000000) bytes []
      else ([failed b e], 2)
    | .ok (x, none, m), .ok (y, none, n) => diffFiles st front (a, b) (m, n) x y
    | .ok (_, some l, _), .ok (_, some r, _) =>
      if !top && !st.deep then
        ([(false, ended ("Common subdirectories: " ++ a ++ " and " ++ b))], 0)
      else
        let fine (n : Raw) : Bool := !st.excluded.contains n
        let ls := ((s.files.namesIn l.loc).map Raw.ofText).filter fine
        let rs := ((s.files.namesIn r.loc).map Raw.ofText).filter fine
        let names := (ls ++ rs.filter fun n => !ls.contains n).mergeSort fun x y => !(y < x)
        diffStatus (names.map fun n =>
          let only (dir : Raw) : Compared := ([(false, ended ("Only in " ++ dir ++ ": " ++ n))], 1)
          if !st.newFiles && !rs.contains n then only a
          else if !st.newFiles && !ls.contains n then only b
          else diffPaths st s fuel false (inside a n) (inside b n))
    | .ok (_, some _, _), .ok _ =>
      if top then diffPaths st s fuel true (inside a (baseOf b)) b
      else ([(false, ended ("File " ++ a ++ " is a directory while file " ++ b ++ " is a regular file"))], 1)
    | .ok _, .ok (_, some _, _) =>
      if top then diffPaths st s fuel true a (inside b (baseOf a))
      else ([(false, ended ("File " ++ a ++ " is a regular file while file " ++ b ++ " is a directory"))], 1)

def diffKnown : Known :=
  { tool := "diff", plain := "0123456789abcdeiNnpqrstTuvwByEZl", withArgument := "CUILWxSD"
    optional := "7", refusal := 2, named := true
    long := [("ignore-case", 'i'), ("ignore-all-space", 'w'), ("ignore-space-change", 'b'),
      ("ignore-trailing-space", 'Z'), ("ignore-blank-lines", 'B'), ("ignore-tab-expansion", 'E'),
      ("ignore-matching-lines", 'I'), ("brief", 'q'), ("report-identical-files", 's'),
      ("unified", '8'), ("context", '9'), ("ed", 'e'), ("rcs", 'n'), ("normal", 'o'),
      ("side-by-side", 'y'), ("width", 'W'), ("recursive", 'r'), ("new-file", 'N'), ("text", 'a'),
      ("label", 'L'), ("expand-tabs", 't'), ("initial-tab", 'T'), ("exclude", 'x'), ("color", '7'),
      ("minimal", 'd'), ("left-column", 'f'), ("suppress-common-lines", 'g'),
      ("show-c-function", 'p'), ("strip-trailing-cr", 'v'), ("speed-large-files", 'H')] }

/-- The words with a long option that may have a number in the short way. -/
def diffWords (words : List Raw) : List Raw :=
  words.map fun w =>
    if w == "--unified" then "-u" else if w == "--context" then "-c"
    else if w.startsWith "--unified=" then "-U" ++ (w.drop 10).toString
    else if w.startsWith "--context=" then "-C" ++ (w.drop 10).toString
    else w

/-- The forms that options ask for. -/
def diffForms (o : Options) : Except Raw (List DiffForm) :=
  let digits := (o.given.map (·.1)).filter Char.isDigit
  let usual := if digits.isEmpty then 3 else numeral digits
  let sized (v : Raw) (f : Nat → DiffForm) : Except Raw (Option DiffForm) :=
    if isNumeral v then .ok (some (f (max (numeral v.toList) (if digits.isEmpty then 0 else usual))))
    else .error ("invalid context length " ++ quoted v)
  let one (g : Char × Raw) : Except Raw (Option DiffForm) :=
    match g.1 with
    | 'u' => .ok (some (.unified usual))
    | 'c' => .ok (some (.context usual))
    | 'U' => sized g.2 .unified
    | 'C' => sized g.2 .context
    | 'e' => .ok (some .script)
    | 'n' => .ok (some .counted)
    | 'o' => .ok (some .normal)
    | 'y' => .ok (some (.columns (((o.value? 'W').bind count?).getD 130)))
    | _ => .ok none
  (o.given.mapM one).map fun fs => fs.filterMap id

def sameForm : DiffForm → DiffForm → Bool
  | .unified _, .unified _ | .context _, .context _ => true
  | a, b => a == b

/-- Compares two files, or what is in two directories, line by line. -/
def diff (s : Scene) (args : List Raw) : Ran :=
  let k := diffKnown
  k.run (diffWords args) fun o =>
    match diffForms o with
    | .error e => k.refuse e
    | .ok forms =>
      let form := forms.getLastD .normal
      let form := match form with
        | .unified n => .unified (forms.foldl (fun n f => match f with
            | .unified m => if o.has 'U' then (if m = 3 then n else m) else m
            | _ => n) n)
        | f => f
      if forms.any fun f => !sameForm f form then k.refuse "conflicting output style options"
      else
        match o.operands with
        | [] => k.refuse "missing operand after 'diff'"
        | [a] => k.refuse ("missing operand after " ++ quoted a)
        | _ :: _ :: extra :: _ => k.refuse ("extra operand " ++ quoted extra)
        | [a, b] =>
          let patterns := (o.values 'I').filterMap fun v =>
            (Regex.parse { lenient := true } v).toOption
          let style : DiffStyle :=
            { form := if o.has 'q' then .brief else form
              fold := o.has 'i'
              blanks := if o.has 'w' then .none else if o.has 'b' then .some
                else if o.has 'Z' || o.has 'E' then .notLast else .all
              skipsEmpty := o.has 'B', skipped := patterns, labels := o.values 'L', text := o.has 'a'
              newFiles := o.has 'N', deep := o.has 'r', tellsSame := o.has 's', tabbed := o.has 'T'
              spread := o.has 't', leftOnly := o.has 'f', hidesCommon := o.has 'g'
              excluded := o.values 'x'
              written := " ".intercalate (args.filter fun w => w != a && w != b) }
          let (writes, status) := diffPaths style s 64 true a b
          reading [a, b] { writes, status }

end Host.Tool

end PolicyGate
