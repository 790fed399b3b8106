import PolicyGate.Host.Tool.Basic

/-!
# The tool that fills paragraphs

Lines that belong together are a paragraph, whose words are laid out in new lines. Where a line may end
has a cost: short lines and ragged ends cost, the end of a sentence earns. The layout of a paragraph is
the one of the least cost, which is found from its last word to its first.
-/

namespace PolicyGate

namespace Host.Tool

namespace Paragraph

/-- How paragraphs are filled. -/
structure Manner where
  width : Int := 75
  goal : Int := 70
  /-- Whether the first two lines tell the indents, and whether the first has to have one of its own. -/
  crown : Bool := false
  tagged : Bool := false
  /-- Whether lines are only split. -/
  split : Bool := false
  /-- Whether words have one blank between them, and sentences two. -/
  uniform : Bool := false
  /-- What lines have to start with: blanks, then a text, which may end in blanks. -/
  lead : Nat := 0
  start : List Char := []
  startLength : Nat := 0

/-- A line in front of its first word. -/
structure Line where
  /-- The column at which the text starts that all lines start with, and the one of the first word. -/
  margin : Nat
  column : Nat
  text : List Char
  /-- Whether a newline ends it. -/
  isEnded : Bool
  /-- Whether it has a tab in front of its first word. -/
  hasTab : Bool

structure Word where
  text : List Char
  space : Nat := 0
  opens : Bool
  isPunctuation : Bool
  endsSentence : Bool
  isFinal : Bool := false

/-- Passes blanks from a column on: the column behind them, and whether there was a tab. -/
def passBlanks : Nat → Bool → List Char → Nat × Bool × List Char
  | column, tab, ' ' :: cs => passBlanks (column + 1) tab cs
  | column, _, '\t' :: cs => passBlanks ((column / 8 + 1) * 8) true cs
  | column, tab, cs => (column, tab, cs)

/-- Passes the text that lines start with, as far as it is there. -/
def passStart : List Char → Nat → List Char → Nat × List Char × Bool
  | [], column, cs => (column, cs, true)
  | p :: ps, column, c :: cs => if p == c then passStart ps (column + 1) cs else (column, c :: cs, false)
  | _ :: _, column, [] => (column, [], false)

def Line.read (m : Manner) (isEnded : Bool) (cs : List Char) : Line :=
  let (column, tab, rest) := passBlanks 0 false cs
  if m.start.isEmpty then
    { margin := min m.lead column, column, text := rest, isEnded, hasTab := tab }
  else
    let (behind, rest, whole) := passStart m.start column rest
    if whole then
      let (behind, tab, rest) := passBlanks behind tab rest
      { margin := column, column := behind, text := rest, isEnded, hasTab := tab }
    else { margin := column, column := behind, text := rest, isEnded, hasTab := tab }

/-- Whether a line can be one of a paragraph. -/
def Line.isText (m : Manner) (l : Line) : Bool :=
  !l.text.isEmpty && m.lead ≤ l.margin && l.margin + m.startLength ≤ l.column

def isBlank (c : Char) : Bool := c == ' ' || ('\t' ≤ c && c ≤ '\r')

/-- The words of a line, and whether a tab stands between some of them. The first number bounds the
words, the second is the column. -/
def wordsFrom (uniform : Bool) : Nat → Nat → List Char → List Word × Bool
  | 0, _, _ => ([], false)
  | _ + 1, _, [] => ([], false)
  | fuel + 1, column, c :: cs =>
    let text := c :: cs.takeWhile fun d => !isBlank d
    let behind := column + text.length
    let (next, tab, rest) := passBlanks behind false (cs.drop (text.length - 1))
    let inner := match text.reverse with
      | [] => none
      | last :: before =>
        some (((last :: before).dropWhile fun d => ")]'\"".toList.contains d).head?.getD c)
    let endsSentence := inner.any fun d => ".?!".toList.contains d
    let isFinal := rest.isEmpty && (endsSentence) || (endsSentence && 1 < next - behind)
    let word : Word :=
      { text, opens := "(['\x60\"".toList.contains c
        isPunctuation := text.getLast?.any fun d => '!' ≤ d && d ≤ '~' && !d.isAlphanum
        endsSentence, isFinal
        space := if rest.isEmpty || uniform then (if isFinal then 2 else 1) else next - behind }
    let (more, moreTabs) := wordsFrom uniform fuel next rest
    (word :: more, tab || moreTabs)

/-! ## Costs -/

def square (n : Int) : Int := n * n

def shortCost (n : Int) : Int := square (n * 10)
def raggedCost (n : Int) : Int := shortCost n / 2

/-- What it costs to start a line with a word, given the words before it, the nearest first. -/
def startCost (w : Word) (before : List Word) : Int :=
  let base := square 70
  let byPrevious : Int := match before with
    | [] => 0
    | p :: more =>
      if p.endsSentence then (if p.isFinal then -square 50 else square 600)
      else if p.isPunctuation then -square 40
      else if more.head?.any (·.isFinal) && 1 < before.length then square 200 / (p.text.length + 2 : Nat)
      else 0
  let own : Int :=
    if w.opens then -square 40 else if w.isFinal then square 150 / (w.text.length + 2 : Nat) else 0
  base + byPrevious + own

/-- A word with the best way to lay out what follows if it starts a line. -/
structure Placed where
  word : Word
  cost : Int
  /-- How many words its line has, and how long that is. -/
  count : Nat
  lineLength : Int
  /-- Whether its line is the last. -/
  isLast : Bool

/-- What it costs to end a line of a length before a word. -/
def endCost (m : Manner) (length : Int) (next : Placed) : Int :=
  shortCost (m.goal - length) + (if next.isLast then 0 else raggedCost (length - next.lineLength)) +
    next.cost

/-- A line: its cost, the number of its words, its length and whether it is the last. -/
abbrev Choice := Int × Nat × Int × Bool

/-- The cheaper of two lines, of which the first wins a draw. -/
def cheaper (a b : Choice) : Choice := if b.1 < a.1 then b else a

/-- The best line that starts with some words, given those that may follow. A line is below the width
unless it has a single word. -/
def bestLine (m : Manner) (previous : Word) (count : Nat) (length : Int) : List Placed → Choice
  | [] => (0, count, length, true)
  | next :: more =>
    let here : Choice := (endCost m length next, count, length, false)
    let longer := length + (previous.space : Int) + (next.word.text.length : Int)
    if longer < m.width then cheaper here (bestLine m next.word (count + 1) longer more) else here

/-- Places words from the last to the first, given those that are placed already. -/
def place (m : Manner) (firstIndent otherIndent : Nat) : List Word → List Placed → List Placed
  | [], placed => placed
  | w :: before, placed =>
    let indent := if before.isEmpty then firstIndent else otherIndent
    let (cost, count, lineLength, isLast) :=
      bestLine m w 1 ((indent + w.text.length : Nat) : Int) placed
    place m firstIndent otherIndent before
      ({ word := w, cost := cost + startCost w before, count, lineLength, isLast } :: placed)

/-! ## Writing -/

/-- Blanks from a column up to another. Where tabs are used, they go as far as they can. -/
def blanks (tabs : Bool) (column space : Nat) : List Char :=
  let target := column + space
  let stop := target / 8 * 8
  if tabs && column + 1 < stop then
    List.replicate ((stop - column / 8 * 8) / 8) '\t' ++ List.replicate (target - stop) ' '
  else List.replicate space ' '

/-- The words of a line from a column on, and the column behind them. -/
def lineText (tabs : Bool) : Nat → List Word → List Char × Nat
  | column, [] => ([], column)
  | column, [w] => (w.text, column + w.text.length)
  | column, w :: ws =>
    let behind := column + w.text.length
    let (more, last) := lineText tabs (behind + w.space) ws
    (w.text ++ blanks tabs behind w.space ++ more, last)

/-- All lines of placed words, and the column behind the last. -/
def layOut (m : Manner) (tabs : Bool) (margin : Nat) :
    Nat → Nat → Nat → List Placed → List Char × Nat
  | 0, _, _, _ => ([], 0)
  | _ + 1, _, _, [] => ([], 0)
  | fuel + 1, indent, otherIndent, p :: ps =>
    let behind := margin + m.start.length
    let lead := blanks tabs 0 margin ++ m.start ++ blanks tabs behind (indent - behind)
    let ws := ((p :: ps).take p.count).map (·.word)
    let (text, last) := lineText tabs (max indent behind) ws
    let (more, lastOfAll) := layOut m tabs margin fuel otherIndent otherIndent ((p :: ps).drop p.count)
    (lead ++ text ++ '\n' :: more, if (p :: ps).length ≤ p.count then last else lastOfAll)

/-- A line that belongs to no paragraph. -/
def Line.copied (m : Manner) (tabs : Bool) (l : Line) : List Char :=
  let shown :=
    if l.margin < l.column || !l.text.isEmpty then
      let start := m.start.take (l.column - l.margin)
      blanks tabs 0 l.margin ++ start ++
        (if l.text.isEmpty then []
          else blanks tabs (l.margin + start.length) (l.column - l.margin - start.length)) ++
        (if !l.isEnded && l.text.isEmpty && l.margin + m.start.length ≤ l.column then ['\n'] else [])
    else []
  shown ++ l.text ++ if l.isEnded then ['\n'] else []

/-! ## Paragraphs -/

/-- What has been filled so far. -/
structure Filling where
  /-- What is written, the latest first. -/
  written : List (List Char) := []
  tabs : Bool := false
  otherIndent : Nat := 0

/-- The indent of the lines behind the first. -/
def indentBehind (m : Manner) (old firstIndent : Nat) (next : Option Nat) : Nat :=
  if m.split then firstIndent
  else if m.crown then next.getD firstIndent
  else if m.tagged then
    match next.filter (· != firstIndent) with
    | some c => c
    | none => if old = firstIndent then (if firstIndent = 0 then 3 else 0) else old
  else firstIndent

/-- Fills the paragraphs of lines. The first argument bounds their number. -/
def fill (m : Manner) : Nat → Filling → List Line → Filling
  | 0, f, _ => f
  | _ + 1, f, [] => f
  | fuel + 1, f, l :: ls =>
    let f := { f with tabs := f.tabs || l.hasTab }
    if !l.isText m then
      fill m fuel { f with written := l.copied m f.tabs :: f.written } ls
    else
      let belongs (k : Line) : Bool := k.margin == l.margin && k.isText m
      let next := (ls.head?.filter belongs).map (·.column)
      let indent := indentBehind m f.otherIndent l.column next
      let joins :=
        if m.split then []
        else if m.tagged && (next.isNone || next == some l.column) then []
        else ls.takeWhile fun k => belongs k && k.column == indent
      let rest := ls.drop joins.length
      let read := (l :: joins).map fun k => wordsFrom m.uniform (k.text.length + 1) k.column k.text
      let words := read.flatMap (·.1)
      let words := match words.reverse with
        | last :: before => { last with endsSentence := true, isFinal := true } :: before
        | [] => []
      let tabs := f.tabs || read.any (·.2) || (joins ++ rest.take 1).any (·.hasTab)
      let (text, _) := layOut m tabs l.margin (words.length + 1) l.column indent
        (place m l.column indent words [])
      fill m fuel { written := text :: f.written, tabs, otherIndent := indent } rest

end Paragraph

open Paragraph in
/-- Fills the paragraphs of a text. -/
def filled (m : Manner) (bytes : List UInt8) : List UInt8 :=
  let lines := (byteLines bytes).map fun l =>
    Line.read m (l.getLast? = some 0x0A) (Raw.ofBytes (strip l)).toList
  let f := fill m (lines.length + 1) {} lines
  Raw.toBytes (String.ofList (f.written.reverse.flatten))

def fmtKnown : Known :=
  { tool := "fmt", plain := "cstu0123456789", withArgument := "wgp"
    long := [("crown-margin", 'c'), ("prefix", 'p'), ("split-only", 's'), ("tagged-paragraph", 't'),
      ("uniform-spacing", 'u'), ("width", 'w'), ("goal", 'g')] }

/-- The width that an option gives, or a complaint. -/
def fmtWidth (limit : Int) (r : Raw) : Except Ran Int :=
  let n : Int := numeral r.toList
  if !isNumeral r then .error (complain ("fmt: invalid width: " ++ quoted r) 1)
  else if limit < n then
    .error (complain ("fmt: invalid width: " ++ quoted r ++ ": Numerical result out of range") 1)
  else .ok n

/-- How the options ask paragraphs to be filled. -/
def fmtManner (o : Options) : Except Ran Paragraph.Manner := do
  let width ← (o.value? 'w').mapM (fmtWidth 2500)
  let goal ← (o.value? 'g').mapM (fmtWidth (width.getD (if (o.value? 'w').isSome then 0 else 75)))
  let width := width.getD ((goal.map (· + 10)).getD 75)
  let goal := goal.getD (width * 187 / 200)
  let start := ((o.value? 'p').getD "").toList
  let bare := start.dropWhile (· == ' ')
  return {
    width, goal, crown := o.has 'c', tagged := o.has 't', split := o.has 's', uniform := o.has 'u'
    lead := start.length - bare.length, startLength := bare.length
    start := (bare.reverse.dropWhile (· == ' ')).reverse }

def fmt (s : Scene) (args : List Raw) : Ran :=
  let args := match args with
    | a :: rest =>
      match a.toList with
      | '-' :: c :: cs => if c.isDigit then ("-w" ++ String.ofList (c :: cs)) :: rest else a :: rest
      | _ => a :: rest
    | [] => []
  fmtKnown.run args fun o =>
    match o.given.find? fun g => g.1.isDigit, fmtManner o with
    | some (c, _), _ =>
      fmtKnown.refuse ("invalid option -- " ++ c.toString ++ "; -WIDTH is recognized only when it is " ++
        "the first\noption; use -w N instead")
    | none, .error r => r
    | none, .ok m =>
      let (read, complaints) :=
        sourcesBy (fun p e => "fmt: cannot open " ++ quoted p ++ " for reading: " ++ e) s o.operands
      let out := read.flatMap fun t => filled m t.2.bytes
      reading o.operands ((wrote out 0).after complaints 1)

end Host.Tool

end PolicyGate
