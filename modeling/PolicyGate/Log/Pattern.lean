import PolicyGate.Text.Alphanumeric
import PolicyGate.Text.Blank

/-!
# Patterns

A directive may ask for the value of a field by a regular expression. Records outside of any span
are never compared with one, so all that matters is whether it can be read. It holds no closing
brace, comma or equals sign, because these end it in a directive; so nothing that needs a closing
brace can be read.

A reader of a part gives the rest behind it, or nothing if the part cannot be read.

**Depth.** Parts may stand in one another up to `maxDepth` deep. A lone part of a sequence or of a
choice is as deep as itself; two or more count one more than the deepest (`joined`).

`reads` says whether a text is a pattern: its groups are closed, its repetitions repeat something,
its parts can be read and are not too deep in one another.
-/

namespace PolicyGate

namespace Log.Pattern

/-- What holds at a place of a pattern. -/
structure Mode where
  /-- Whether characters are taken by their code points, rather than by their bytes. -/
  unicode : Bool := true
  /-- Whether blanks and comments do not count. -/
  spaced : Bool := false
  deriving DecidableEq, Repr

/-- How deep parts may stand in one another. -/
def maxDepth : Nat := 250

/-- How deep some parts beside one another are. -/
def joined : List Nat → Nat
  | [] => 0
  | [d] => d
  | ds => ds.foldl max 0 + 1

/-! ## Blanks -/

/-- What is left behind blanks and comments. A comment goes from its sign to the end of the line. -/
def skipFrom (inComment : Bool) : List Char → List Char
  | [] => []
  | c :: cs =>
    if inComment then skipFrom (c != '\n') cs
    else if Text.isBlank c then skipFrom false cs
    else if c == '#' then skipFrom true cs
    else c :: cs

namespace Mode

/-- What is left behind what does not count. -/
def skip (m : Mode) (cs : List Char) : List Char := if m.spaced then skipFrom false cs else cs

/-- What comes after the first character. Where blanks do not count they are passed over, and so is
the sign of a comment, but not what the comment says. -/
def next? (m : Mode) (cs : List Char) : Option Char :=
  let rest := cs.tail
  if m.spaced then
    let found := match rest.dropWhile Text.isBlank with
      | '#' :: said => (said.dropWhile Text.isBlank).head?
      | found => found.head?
    found.or rest.head?
  else rest.head?

end Mode

/-! ## Escapes -/

/-- What an escape stands for. -/
inductive Escaped where
  | char (c : Char)
  | set
  /-- A place between characters. -/
  | place
  deriving DecidableEq, Repr

def hexDigit? (c : Char) : Option Nat :=
  if '0' ≤ c ∧ c ≤ '9' then some (c.toNat - 48)
  else if 'A' ≤ c ∧ c ≤ 'F' then some (c.toNat - 55)
  else if 'a' ≤ c ∧ c ≤ 'f' then some (c.toNat - 87)
  else none

/-- Reads a number of hexadecimal digits, between which may stand what does not count. -/
def hexValue? (mode : Mode) : Nat → Nat → List Char → Option (Nat × List Char)
  | 0, n, cs => some (n, cs)
  | width + 1, n, cs =>
    match cs with
    | [] => none
    | c :: rest =>
      match hexDigit? c with
      | some d => hexValue? mode width (n * 16 + d) (mode.skip rest)
      | none => none

/-- Reads the hexadecimal digits of a character. Two digits are a byte where characters are taken by
their bytes, and it has to be a character by itself. -/
def hexEscape? (mode : Mode) (width : Nat) (cs : List Char) : Option (Escaped × List Char) :=
  match hexValue? mode width 0 (mode.skip cs) with
  | some (n, rest) =>
    if n.isValidChar && (mode.unicode || width != 2 || n < 0x80) then
      some (.char (Char.ofNat n), rest)
    else none
  | none => none

/-- Whether a letter names a general category. -/
def isCategory (c : Char) : Bool := "CLMNPSZ".toList.contains c.toUpper

/-- The control characters that have a letter. -/
def control? : Char → Option Char
  | 'a' => some '\x07'
  | 't' => some '\t'
  | 'n' => some '\n'
  | 'v' => some '\x0b'
  | 'f' => some '\x0c'
  | 'r' => some '\r'
  | _ => none

/-- Reads an escape after its backslash. The word boundaries of texts in all scripts are refused. -/
def escape? (mode : Mode) : List Char → Option (Escaped × List Char)
  | [] => none
  | c :: rest =>
    if c == 'x' then hexEscape? mode 2 rest
    else if c == 'u' then hexEscape? mode 4 rest
    else if c == 'U' then hexEscape? mode 8 rest
    else if c == 'p' || c == 'P' then
      match mode.skip rest with
      | d :: rest => if mode.unicode && isCategory d then some (.set, mode.skip rest) else none
      | [] => none
    else if "dsw".toList.contains c then some (.set, rest)
    else if "DSW".toList.contains c then if mode.unicode then some (.set, rest) else none
    else if c == 'A' || c == 'z' then some (.place, rest)
    else if "bB<>".toList.contains c then if mode.unicode then none else some (.place, rest)
    else
      match control? c with
      | some d => some (.char d, rest)
      | none => if c.isAlphanum || 0x80 ≤ c.toNat then none else some (.char c, rest)

/-!
## Sets of characters

A set in brackets lists characters, ranges and other sets, and may combine two lists by an operator.
-/

/-- The named classes that a set may hold. -/
def classNames : List String :=
  ["alnum", "alpha", "ascii", "blank", "cntrl", "digit", "graph", "lower", "print", "punct", "space",
    "upper", "word", "xdigit"]

/-- Reads a named class after its bracket and colon: whether it stands for all other characters, and
the rest. -/
def namedClass? (cs : List Char) : Option (Bool × List Char) :=
  let negated := cs.head? == some '^'
  let cs := if negated then cs.tail else cs
  let name := cs.takeWhile (· != ':')
  match cs.drop name.length with
  | ':' :: ']' :: rest =>
    if classNames.contains (String.ofList name) then some (negated, rest) else none
  | _ => none

/-- A set that is being read. -/
structure Bracket where
  /-- How deep the operand in front of the last operator is. -/
  left : Option Nat := none
  /-- How deep the members behind it are. -/
  members : List Nat := []

namespace Bracket

def add (b : Bracket) (depth : Nat) : Bracket := { b with members := depth :: b.members }

/-- How deep what is listed so far is. -/
def depth (b : Bracket) : Nat :=
  match b.left with
  | none => joined b.members
  | some d => max d (joined b.members) + 1

/-- Goes on with the right operand of an operator. -/
def operator (b : Bracket) : Bracket := { left := some b.depth }

end Bracket

/-- Drops the dashes at the front of a set, which count as characters, and gives how many there are.
The first argument bounds their number. -/
def dashes (mode : Mode) : Nat → Nat → List Char → Nat × List Char
  | 0, n, cs => (n, cs)
  | fuel + 1, n, cs =>
    match cs with
    | '-' :: rest => dashes mode fuel (n + 1) (mode.skip rest)
    | _ => (n, cs)

/-- Reads the front of a set after its bracket. A set for all other characters can hold some that
are no characters by themselves, where these are taken by their bytes, and is refused there. -/
def opening? (mode : Mode) (cs : List Char) : Option (Bracket × List Char) :=
  let cs := mode.skip cs
  let negated := cs.head? == some '^'
  if negated && !mode.unicode then none
  else
    let cs := if negated then mode.skip cs.tail else cs
    let (n, rest) := dashes mode cs.length 0 cs
    if n = 0 && rest.head? == some ']' then some ({ members := [0] }, mode.skip rest.tail)
    else some ({ members := List.replicate n 0 }, rest)

/-- Reads a character or a set at a place inside a set. -/
def member? (mode : Mode) : List Char → Option (Escaped × List Char)
  | [] => none
  | '\\' :: rest =>
    match escape? mode rest with
    | some (.char c, rest) => if mode.unicode || c.toNat < 0x80 then some (.char c, rest) else none
    | some (.set, rest) => some (.set, rest)
    | _ => none
  | c :: rest => if mode.unicode || c.toNat < 0x80 then some (.char c, rest) else none

/-- Reads a character, a set or a range of characters. -/
def range? (mode : Mode) (cs : List Char) : Option (List Char) :=
  match member? mode cs with
  | none => none
  | some (a, rest) =>
    let rest := mode.skip rest
    let next := mode.next? rest
    if rest.head? == some '-' && next != some ']' && next != some '-' then
      match a, member? mode (mode.skip rest.tail) with
      | .char a, some (.char b, rest) => if a ≤ b then some rest else none
      | _, _ => none
    else some rest

/-- Reads a set after its front, up to and with its closing bracket, and gives how deep it is.
`outer` are the sets around it. The first argument bounds how many parts it has. -/
def set? (mode : Mode) : Nat → List Bracket → Bracket → List Char → Option (Nat × List Char)
  | 0, _, _, _ => none
  | fuel + 1, outer, b, cs =>
    match mode.skip cs with
    | [] => none
    | ']' :: rest =>
      match outer with
      | [] => some (b.depth + 1, rest)
      | o :: outer => set? mode fuel outer (o.add (b.depth + 1)) rest
    | '[' :: rest =>
      let named := match rest with
        | ':' :: rest => namedClass? rest
        | _ => none
      match named with
      | some (negated, rest) =>
        if negated && !mode.unicode then none else set? mode fuel outer (b.add 0) rest
      | none =>
        match opening? mode rest with
        | some (inner, rest) => set? mode fuel (b :: outer) inner rest
        | none => none
    | '&' :: '&' :: rest | '-' :: '-' :: rest | '~' :: '~' :: rest =>
      set? mode fuel outer b.operator rest
    | cs =>
      match range? mode cs with
      | some rest => set? mode fuel outer (b.add 0) rest
      | none => none

/-- Reads a set in brackets after the first of them, and gives how deep it is. -/
def bracketed? (mode : Mode) (cs : List Char) : Option (Nat × List Char) :=
  match opening? mode cs with
  | some (b, rest) => set? mode (cs.length + 1) [] b rest
  | none => none

/-! ## Groups -/

/-- The flags of groups. -/
def flagNames : List Char := "imsURux".toList

/-- What holds where a flag is turned on or off. -/
def Mode.set (m : Mode) (flag : Char) (on : Bool) : Mode :=
  if flag == 'u' then { m with unicode := on }
  else if flag == 'x' then { m with spaced := on }
  else m

/-- Reads the flags of a group up to the sign that ends them. A flag comes once, and a dash in front
of some turns them off. -/
def flags? (mode : Mode) (off : Bool) (seen : List Char) : List Char → Option (Mode × List Char)
  | [] => none
  | c :: rest =>
    if c == ':' || c == ')' then
      if seen.head? == some '-' || (c == ')' && seen.isEmpty) then none else some (mode, c :: rest)
    else if c == '-' then if off then none else flags? mode true ('-' :: seen) rest
    else if flagNames.contains c && !seen.contains c then
      flags? (mode.set c !off) off (c :: seen) rest
    else none

/-- Reads the name of a group up to its closing angle bracket. -/
def groupName? (cs : List Char) : Option (String × List Char) :=
  let name := cs.takeWhile (· != '>')
  let starts := name.head?.any fun c => c == '_' || Text.isAlphabetic c
  let isPart : Char → Bool := fun c => "_.[]".toList.contains c || Text.isAlphanumeric c
  match cs.drop name.length with
  | _ :: rest => if starts && name.all isPart then some (String.ofList name, rest) else none
  | [] => none

/-! ## Sequences -/

/-- The part of a pattern inside an open group, as far as it is read. -/
structure Scope where
  /-- What holds inside. -/
  mode : Mode := {}
  /-- How deep the choices are that are complete. -/
  choices : List Nat := []
  /-- How deep the parts of the last choice are, the last first. -/
  parts : List Nat := []
  /-- Whether the last part can be repeated. -/
  repeatable : Bool := false

namespace Scope

/-- Goes past a part of some depth. -/
def add (s : Scope) (depth : Nat) : Scope := { s with parts := depth :: s.parts, repeatable := true }

/-- Goes past flags for what follows. -/
def flag (s : Scope) (mode : Mode) : Scope :=
  { s with mode, parts := 0 :: s.parts, repeatable := false }

/-- Repeats the last part. -/
def repeated? (s : Scope) : Option Scope :=
  match s.parts with
  | d :: parts => if s.repeatable then some { s with parts := (d + 1) :: parts } else none
  | [] => none

/-- Starts another choice. -/
def choice (s : Scope) : Scope :=
  { s with choices := joined s.parts :: s.choices, parts := [], repeatable := false }

/-- How deep it is. -/
def depth (s : Scope) : Nat := joined (joined s.parts :: s.choices)

end Scope

/-- A place in a pattern. -/
structure Reader where
  scope : Scope := {}
  /-- The scopes around the innermost one, the nearest first. -/
  outer : List Scope := []
  names : List String := []

namespace Reader

/-- Opens a group. -/
def enter (r : Reader) (mode : Mode) : Reader :=
  { r with scope := { mode }, outer := r.scope :: r.outer }

/-- Closes the innermost group. -/
def leave? (r : Reader) : Option Reader :=
  match r.outer with
  | s :: outer => some { r with scope := s.add (r.scope.depth + 1), outer }
  | [] => none

def add (r : Reader) (depth : Nat) : Reader := { r with scope := r.scope.add depth }

end Reader

/-- Reads the start of a group after its bracket. -/
def openGroup? (r : Reader) (cs : List Char) : Option (Reader × List Char) :=
  let mode := r.scope.mode
  let named (rest : List Char) : Option (Reader × List Char) :=
    match groupName? rest with
    | some (name, rest) =>
      if r.names.contains name then none
      else some ({ r.enter mode with names := name :: r.names }, rest)
    | none => none
  match mode.skip cs with
  | '?' :: 'P' :: '<' :: rest => named rest
  | '?' :: '<' :: rest => named rest
  | '?' :: rest =>
    match flags? mode false [] rest with
    | some (inner, ':' :: rest) => some (r.enter inner, rest)
    | some (inner, _ :: rest) => some ({ r with scope := r.scope.flag inner }, rest)
    | _ => none
  | cs => some (r.enter mode, cs)

/-- Drops the sign behind a repetition that makes it as short as can be. -/
def dropLazy : List Char → List Char
  | '?' :: cs => cs
  | cs => cs

/-- Reads one part of a pattern, which is not at its end. -/
def part? (r : Reader) (c : Char) (rest : List Char) : Option (Reader × List Char) :=
  let mode := r.scope.mode
  match c with
  | '(' => openGroup? r rest
  | ')' => r.leave?.map (·, rest)
  | '|' => some ({ r with scope := r.scope.choice }, rest)
  | '*' | '+' | '?' => r.scope.repeated?.map fun scope => ({ r with scope }, dropLazy rest)
  | '{' => none
  | '[' => (bracketed? mode rest).map fun (depth, rest) => (r.add depth, rest)
  | '\\' => (escape? mode rest).map fun (_, rest) => (r.add 0, rest)
  | '.' => if mode.unicode then some (r.add 0, rest) else none
  | _ => some (r.add 0, rest)

/-- Whether the rest of a pattern can be read. The first argument bounds how many parts it has. -/
def readsFrom : Nat → Reader → List Char → Bool
  | 0, _, _ => false
  | fuel + 1, r, cs =>
    match r.scope.mode.skip cs with
    | [] => r.outer.isEmpty && r.scope.depth ≤ maxDepth
    | c :: rest =>
      match part? r c rest with
      | some (r, rest) => readsFrom fuel r rest
      | none => false

/-- Whether a text is a pattern. -/
def reads (cs : List Char) : Bool := readsFrom (cs.length + 1) {} cs

/-! ## Numbers -/

/-- Whether a text is an unsigned decimal, perhaps with an exponent. -/
def isDecimal (cs : List Char) : Bool :=
  let whole := cs.takeWhile Char.isDigit
  let rest := cs.drop whole.length
  let fraction := match rest with
    | '.' :: ds => ds.takeWhile Char.isDigit
    | _ => []
  let rest := if rest.head? == some '.' then rest.drop (fraction.length + 1) else rest
  let exponent := match rest with
    | [] => true
    | c :: ds =>
      let ds := if ds.head? == some '-' || ds.head? == some '+' then ds.tail else ds
      (c == 'e' || c == 'E') && !ds.isEmpty && ds.all Char.isDigit
  (!whole.isEmpty || !fraction.isEmpty) && exponent

/-- Whether a text with a plus sign in front is a number. Every other number is a pattern too. -/
def isPositive : List Char → Bool
  | '+' :: cs =>
    isDecimal cs ||
      ["inf", "infinity", "nan"].contains (String.ofList (cs.map Char.toLower))
  | _ => false

/-- Whether a text can be the value that a directive asks for. -/
def isValue (cs : List Char) : Bool := isPositive cs || reads cs

end Log.Pattern

end PolicyGate
