import PolicyGate.Host.Regex.Written
import PolicyGate.Host.Shell.RichAssignment
import PolicyGate.Host.Shell.Rounds

/-!
# What rich scripts do around commands

They tell what they run if they are asked to, show menus and times, keep the statuses of the parts of a
pipe, and search texts for what fits expressions. Here is what of that runs nothing.
-/

namespace PolicyGate

namespace Host.Shell

/-- Whether pieces come from lists without values, and from nothing else. -/
def Piece.areNothing (ps : List Piece) : Bool :=
  let isGap (p : Piece) : Bool := match p with
    | .gap => true
    | _ => false
  ps.any isGap && ps.all fun p => isGap p || (match p with
    | .text r .quoted => r.isEmpty
    | _ => false)

/-- The words of a text. -/
def wordsIn (source : Raw) : List Word :=
  (lex true false source).1.filterMap fun l =>
    match l.token with
    | .word w => some w
    | _ => none

namespace State

/-- Whether a text names a parameter. -/
def isParameter (r : Raw) : Bool :=
  let (base, place) := splitPlace r
  isName base || (place.isNone && !r.isEmpty &&
    (r.toList.all Char.isDigit || (r.length = 1 && r.toList.all fun c => "@*#?$!-".toList.contains c)))

/-! ## Scripts inside scripts -/

/-- Whether the script is a text, of which nothing is run behind a wrong place. -/
def isPlainText (s : State) : Bool := s.riches.source == "environment"

def deeper (s : State) : State := { s with riches := { s.riches with nested := s.riches.nested + 1 } }

/-- What a script inside an expansion starts from. -/
def substituting (s : State) : State :=
  let keeps := s.hasSetting "inherit_errexit"
  { s with options := if keeps then s.options else s.options.filter (· != 'e') }.deeper

/-- Writes what there is to read. -/
def passInput (s : State) : State :=
  match s.input? 0 with
  | some (_, i) => (s.passOn i.feed).withStatus 0
  | none => s.withStatus 0

def attaching (s : State) (a : Attached) : State :=
  { s with riches := { s.riches with attached := a :: s.riches.attached } }

/-- Keeps the statuses of the parts of a pipe, of which there are none behind a single command. -/
def withStatuses (s : State) (statuses : List Nat) : State :=
  { s with riches := { s.riches with statuses } }

/-! ## Telling what is run -/

def traces (s : State) : Bool := s.options.contains 'x'

/-- Tells of a command, if the script is asked to. -/
def trace (s : State) (line : Raw) : State :=
  if !s.traces then s
  else
    let lead := (s.value? "PS4").getD "+ "
    let again := String.ofList (List.replicate s.riches.nested (lead.toList.head?.getD '+'))
    s.complainPlain (again ++ lead ++ line)

def traceWords (s : State) (words : List Raw) : State :=
  if s.traces then s.trace (" ".intercalate (words.map Quote.asNeeded)) else s

def traceAssignment (s : State) (a : Assignment) (value : Raw) : State :=
  if !s.rich || !s.traces then s
  else
    let place := (a.place.map fun p => "[" ++ p ++ "]").getD ""
    s.trace (a.name ++ place ++ (if a.adds then "+=" else "=") ++ value)

/-! ## Menus -/

/-- The width of the screen that menus are made for. -/
def screenWidth : Nat := 80

/-- The blanks between two columns of a line. -/
def gapText : Nat → Nat → Nat → List Char
  | 0, _, _ => []
  | fuel + 1, column, goal =>
    if goal ≤ column then []
    else if column / 8 < goal / 8 then '\t' :: gapText fuel (column + (8 - column % 8)) goal
    else ' ' :: gapText fuel (column + 1) goal

/-- The lines of a menu. -/
def menuText (items : List Raw) : Raw :=
  let count := items.length
  let longest := items.foldl (fun n r => max n r.length) 0
  let digits (n : Nat) : Nat := (toString n).length
  let width := longest + digits count + 4
  let columns := max 1 (screenWidth / width)
  let up (a b : Nat) : Nat := a / b + (if a % b = 0 then 0 else 1)
  let rows := up count columns
  let columns := up count rows
  let rows := if rows = 1 then columns else rows
  let cell (row column : Nat) : Option (List Char) :=
    let n := row + column * rows
    (items[n]?).map fun r =>
      let number := toString (n + 1)
      let wide := digits (if column = 0 then rows else count)
      List.replicate (wide - number.length) ' ' ++ number.toList ++ [')', ' '] ++ r.toList
  let line (row : Nat) : Raw :=
    let cells := (List.range (up count rows)).filterMap (cell row)
    let joined := cells.zipIdx.map fun (c, k) =>
      if k + 1 < cells.length then c ++ gapText width (k * width + c.length) ((k + 1) * width) else c
    String.ofList joined.flatten ++ "\n"
  String.join ((List.range rows).map line)

def showMenu (s : State) (items : List Raw) : State := s.writeTo 2 (Raw.toBytes (menuText items))

def askMenu (s : State) : State := s.writeTo 2 (Raw.toBytes ((s.value? "PS3").getD "#? "))

/-- The item that an answer chooses. -/
def chosen (items : List Raw) (answer : Raw) : Raw :=
  match integer? answer with
  | some n => if n ≤ 0 then "" else (items[n.toNat - 1]?).getD ""
  | none => ""

/-! ## Times -/

/-- Tells how long a part has run. -/
def tellTime (s : State) (plain : Bool) (start : Moment) : State :=
  let us := s.clock - start
  let pad (width n : Nat) : Raw :=
    let ds := toString n
    String.ofList (List.replicate (width - ds.length) '0') ++ ds
  if plain then
    s.complainPlain ("real " ++ toString (us / 1000000) ++ "." ++ pad 2 (us / 10000 % 100) ++
      "\nuser 0.00\nsys 0.00")
  else
    let real := toString (us / 60000000) ++ "m" ++ toString (us / 1000000 % 60) ++ "." ++
      pad 3 (us / 1000 % 1000) ++ "s"
    s.complainPlain ("\nreal\t" ++ real ++ "\nuser\t0m0.000s\nsys\t0m0.000s")

/-! ## Expressions -/

/-- The text of an expression, in which what is quoted stands for itself. -/
def expressionText (ps : List Piece) : Raw :=
  String.ofList ((Piece.marked ps).flatMap fun (c, quoted) =>
    if quoted && "\\^$.*+?()[]\x7b\x7d|".toList.contains c then ['\\', c] else [c])

/-- Searches a text for what fits an expression: whether there is something, and the state with what the
groups fit. -/
def fitting (s : State) (text expression : Raw) : Nat × State :=
  match Regex.parse { extended := true } expression with
  | .error _ => (2, s)
  | .ok r =>
    let chars := text.toList.toArray
    let s := s.unsetVariable "BASH_REMATCH"
    match Regex.search { chars, fold := s.hasSetting "nocasematch" } r 0 with
    | none => (1, s)
    | some f =>
      let part (a b : Nat) : Raw := String.ofList ((text.toList.drop a).take (b - a))
      let count := Regex.groupCount r
      let groups := (List.range count).map fun k =>
        ((f.groups.lookup (k + 1)).map fun g => part g.1 g.2).getD ""
      (0, s.giveRow "BASH_REMATCH" (.ofList (part f.start f.stop :: groups)))

end State

end Host.Shell

end PolicyGate
