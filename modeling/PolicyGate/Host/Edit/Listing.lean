import PolicyGate.Host.Edit.Basic

/-!
# Edit scripts listed

A script can be shown as it was understood: one command a line, each behind its addresses, blocks
moved in by two blanks. Characters that are not shown as they are stand as escapes.
-/

namespace PolicyGate

namespace Host.Edit

/-- A character of a text that is shown. Those beyond the first half of the bytes count as negative
numbers of 32 bits. -/
def shownChar (c : Char) : Raw :=
  if c == '\\' then "\\\\"
  else if c == '\x07' then "\\a"
  else if c == '\x0c' then "\\f"
  else if c == '\r' then "\\r"
  else if c == '\t' then "\\t"
  else if c == '\x0b' then "\\v"
  else if c == '\n' then "\\n"
  else if ' ' ≤ c && c ≤ '~' then c.toString
  else
    let n := if c.toNat < 128 then c.toNat else 4294967296 - 256 + c.toNat
    let digits := String.ofList (Nat.toDigits 8 n)
    "\\o" ++ String.ofList (List.replicate (3 - digits.length) '0') ++ digits

def shownText (r : Raw) : Raw := String.join (r.toList.map shownChar)

namespace Expression

/-- An expression between slashes. -/
def shown (e : Option Expression) : Raw :=
  let inside := String.join (((e.map (·.text)).getD "").toList.map fun c =>
    if c == '/' then "\\/" else shownChar c)
  "/" ++ inside ++ "/"

end Expression

def Address.shown : Address → Raw
  | .number n => toString n
  | .last => "$"
  | .fitting e =>
    Expression.shown e ++ (if e.any (·.fold) then "I" else "") ++ (if e.any (·.byLine) then "M" else "")
  | .every first step => toString first ++ "~" ++ toString step

def Stop.shown : Stop → Raw
  | .at a => a.shown
  | .later n => "+" ++ toString n
  | .multiple n => "~" ++ toString n

def Scope.shown (s : Scope) : Raw :=
  (s.start.map (·.shown)).getD "" ++ (s.stop.map fun t => "," ++ t.shown).getD "" ++
    (if s.negated then "!" else "") ++ (if s.start.isSome then " " else "")

def Substitution.shown (s : Substitution) : Raw :=
  "s" ++ Expression.shown s.pattern ++ s.written ++ "/" ++
    (if s.pattern.any (·.fold) then "i" else "") ++ (if s.pattern.any (·.byLine) then "m" else "") ++
    (if s.all then "g" else "") ++ (if s.runs then "e" else "") ++
    (if s.print || s.printFirst then "p" else "") ++ (s.nth.map toString).getD "" ++
    (s.file.map ("w" ++ ·)).getD ""

/-- The pairs of letters that differ, in the order of the first. -/
def shownLetters (pairs : List (Char × Char)) : Raw :=
  let changed := (List.range 256).filterMap fun n =>
    let c := Char.ofNat n
    ((pairs.lookup c).filter (· != c)).map (c, ·)
  "y/" ++ String.ofList (changed.map (·.1)) ++ "/" ++ String.ofList (changed.map (·.2)) ++ "/"

def Act.shown : Act → Raw
  | .block _ => "\x7b"
  | .blockEnd => "\x7d"
  | .label name => ":" ++ name
  | .jump name => if name.isEmpty then "b" else "b " ++ name
  | .jumpIfReplaced name => if name.isEmpty then "t" else "t " ++ name
  | .jumpUnlessReplaced name => if name.isEmpty then "T" else "T " ++ name
  | .appendText r => "a\\" ++ r
  | .insertText r => "i\\" ++ r
  | .changeText r => "c\\" ++ r
  | .delete => "d"
  | .deleteFirstLine => "D"
  | .print => "p"
  | .printFirstLine => "P"
  | .printNumber => "="
  | .printName => "F"
  | .printVisibly width => "l" ++ (width.map fun n => " " ++ toString n).getD ""
  | .next => "n"
  | .appendNext => "N"
  | .get => "g"
  | .appendHeld => "G"
  | .hold => "h"
  | .appendToHeld => "H"
  | .exchange => "x"
  | .substitute s => s.shown
  | .exchangeLetters pairs => shownLetters pairs
  | .readFile path => "r " ++ path
  | .readLine path => "R " ++ path
  | .writeFile path => "w" ++ path
  | .writeFirstLine path => "W" ++ path
  | .zap => "z"
  | .execute command => "e " ++ command
  | .quit status silent =>
    (if silent then "Q" else "q") ++ (status.map fun n => " " ++ toString n).getD ""
  | .obsolete letter => letter.toString

/-- A command in its line, moved in by a number of blocks. -/
def Command.shown (depth : Nat) (c : Command) : Raw :=
  String.ofList (List.replicate (2 * depth) ' ') ++ c.scope.shown ++ c.act.shown ++ "\n"

/-- The number of blocks around each command. An end counts as outside of its block. -/
def depths : Nat → List Command → List (Nat × Command)
  | _, [] => []
  | depth, c :: cs =>
    match c.act with
    | .block _ => (depth, c) :: depths (depth + 1) cs
    | .blockEnd => (depth - 1, c) :: depths (depth - 1) cs
    | _ => (depth, c) :: depths depth cs

/-- A whole script. -/
def listing (cs : List Command) : Raw :=
  "SED PROGRAM:\n" ++ String.join ((depths 0 cs).map fun d => d.2.shown (d.1 + 1))

end Host.Edit

end PolicyGate
