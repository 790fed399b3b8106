import PolicyGate.Host.Regex.Basic

/-!
# How regular expressions are written

In basic style the marks of groups, alternatives and counts have a backslash; in extended style they
have none, and a backslash makes them ordinary. Every reader gives the rest of the text, and the
first argument bounds how deep it goes.
-/

namespace PolicyGate

namespace Host.Regex

/-- Why a regular expression cannot be read. -/
inductive Fault where
  | openGroup
  | closeGroup
  | openSet
  | openCount
  | badCount
  | badRepetition
  | badClass
  | badRange
  | badReference
  | lastBackslash
  | tooBig
  | badElement
  /-- A set of which nothing is written. -/
  | unfinished
  deriving DecidableEq, Repr

def Fault.message : Fault → String
  | .openGroup => "Unmatched ( or \\("
  | .closeGroup => "Unmatched ) or \\)"
  | .openSet => "Unmatched [, [^, [:, [., or [="
  | .openCount => "Unmatched \\\x7b"
  | .badCount => "Invalid content of \\\x7b\\\x7d"
  | .badRepetition => "Invalid preceding regular expression"
  | .badClass => "Invalid character class name"
  | .badRange => "Invalid range end"
  | .badReference => "Invalid back reference"
  | .lastBackslash => "Trailing backslash"
  | .tooBig => "Regular expression too big"
  | .badElement => "Invalid collation character"
  | .unfinished => "Invalid regular expression"

/-! ## Sets -/

/-- Reads a name between a mark such as `[:` and its counterpart. -/
def bracketName (mark : Char) (cs : List Char) : Except Fault (List Char × List Char) :=
  let name := cs.takeWhile (· != mark)
  match cs.drop name.length with
  | _ :: ']' :: rest => .ok (name, rest)
  | _ => .error .openSet

/-- Reads one end of a range. -/
def rangeEnd (c : Char) (rest : List Char) : Except Fault (Char × List Char) :=
  match c, rest with
  | '[', '.' :: rest => do
    let (name, rest) ← bracketName '.' rest
    match name with
    | [c] => return (c, rest)
    | _ => throw .badElement
  | c, rest => .ok (c, rest)

/-- Reads the inside of a set up to and with its closing bracket. -/
def setBody : Nat → Bool → List (Char × Char) → List Char → Except Fault (List (Char × Char) × List Char)
  | 0, _, _, _ => .error .openSet
  | _ + 1, _, _, [] => .error .openSet
  | fuel + 1, first, ranges, c :: rest =>
    if c == ']' && !first then .ok (ranges, rest)
    else
      match c, rest with
      | '[', ':' :: rest => do
        let (name, rest) ← bracketName ':' rest
        match CharSet.classes.lookup (String.ofList name), rest with
        | some rs, '-' :: d :: _ =>
          if d == ']' then setBody fuel false (ranges ++ rs) rest else .error .badRange
        | some rs, rest => setBody fuel false (ranges ++ rs) rest
        | none, _ => .error .badClass
      | '[', '=' :: rest => do
        let (name, rest) ← bracketName '=' rest
        setBody fuel false (ranges ++ name.map fun c => (c, c)) rest
      | c, rest => do
        let (low, rest) ← rangeEnd c rest
        match rest with
        | '-' :: d :: more =>
          if d == ']' then setBody fuel false (ranges ++ [(low, low)]) rest
          else do
            let (high, rest) ← rangeEnd d more
            if high < low then .error .badRange
            else setBody fuel false (ranges ++ [(low, high)]) rest
        | rest => setBody fuel false (ranges ++ [(low, low)]) rest

/-- Reads a set after its opening bracket. -/
def setAfter (cs : List Char) : Except Fault (CharSet × List Char) := do
  let negated := cs.head? == some '^'
  let cs := if negated then cs.tail else cs
  if cs.isEmpty then throw .unfinished
  let (ranges, rest) ← setBody (cs.length + 1) true [] cs
  return (⟨negated, ranges⟩, rest)

/-! ## Counts -/

/-- The most repetitions that may be asked for. -/
def countLimit : Nat := 32767

def digitsValue (cs : List Char) : Nat :=
  cs.foldl (fun n c => n * 10 + (c.toNat - 48)) 0

/-- How the marks are written, and what becomes of marks that can have no meaning. -/
structure Style where
  /-- Whether the marks have no backslash. -/
  extended : Bool := false
  /-- Whether a mark that can have no meaning stands for itself or is passed over. -/
  lenient : Bool := false
  /-- Whether the edges are those of lines, and newlines fit nothing but themselves. -/
  byLine : Bool := false
  deriving DecidableEq, Repr

/-- Whether the sign that closes a count comes. -/
def countCloses (st : Style) : List Char → Bool
  | '}' :: rest => st.extended || countCloses st rest
  | '\\' :: '}' :: rest => !st.extended || countCloses st rest
  | _ :: rest => countCloses st rest
  | [] => false

/-- Reads a count after its brace, up to and with what closes it. Nothing is read where the brace
stands for itself. -/
def countAfter (st : Style) (cs : List Char) : Except Fault (Option ((Nat × Option Nat) × List Char)) :=
  let low := cs.takeWhile Char.isDigit
  let rest := cs.drop low.length
  let (most, rest) := match rest with
    | ',' :: rest =>
      let high := rest.takeWhile Char.isDigit
      (if high.isEmpty then none else some (digitsValue high), rest.drop high.length)
    | rest => (some (digitsValue low), rest)
  let least := digitsValue low
  let written := !low.isEmpty || cs.head? == some ','
  let closed? : Option (List Char) := match rest with
    | '}' :: rest => if st.extended then some rest else none
    | '\\' :: '}' :: rest => if st.extended then none else some rest
    | _ => none
  match closed?, written with
  | some rest, true =>
    if countLimit < least || most.any (countLimit < ·) then .error .tooBig
    else if most.any (· < least) then .error .badCount
    else .ok (some ((least, most), rest))
  | _, _ =>
    if st.extended && st.lenient && !(written && rest.head? == some ',') then .ok none
    else if countCloses st rest then .error .badCount
    else .error .openCount

/-! ## Expressions -/

/-- The meaning of an escaped letter that is no mark of the notation. -/
def escaped (c : Char) : Regex :=
  if c == 'w' then .set ⟨false, CharSet.word⟩
  else if c == 'W' then .set ⟨true, CharSet.word⟩
  else if c == 's' then .set ⟨false, CharSet.blank⟩
  else if c == 'S' then .set ⟨true, CharSet.blank⟩
  else if c == 'b' then .edge .wordEdge
  else if c == 'B' then .edge .noWordEdge
  else if c == '<' then .edge .wordStart
  else if c == '>' then .edge .wordEnd
  else if c == '\x60' then .edge .start
  else if c == '\'' then .edge .finish
  else .set (.one c)

/-- Passes the sign of an alternative or a group, with the backslash that the notation asks for. -/
def sign? (st : Style) (c : Char) (cs : List Char) : Option (List Char) :=
  match cs with
  | '\\' :: d :: rest => if !st.extended && c == d then some rest else none
  | d :: rest => if st.extended && c == d then some rest else none
  | [] => none

/-- Whether alternatives, a group or the whole end here, given whether a group is open. A sign that
closes a group may stand for itself if there is none. -/
def endsHere (st : Style) (nested : Bool) (cs : List Char) : Bool :=
  cs.isEmpty || (sign? st '|' cs).isSome ||
    ((sign? st ')' cs).isSome && (nested || !st.extended || !st.lenient))

/-- A sign of repetition, with the numbers it stands for. -/
def repetition? (st : Style) (cs : List Char) : Except Fault (Option ((Nat × Option Nat) × List Char)) :=
  match cs with
  | '*' :: rest => .ok (some ((0, none), rest))
  | _ =>
    match sign? st '+' cs, sign? st '?' cs, sign? st '{' cs with
    | some rest, _, _ => .ok (some ((1, none), rest))
    | _, some rest, _ => .ok (some ((0, some 1), rest))
    | _, _, some rest => countAfter st rest
    | _, _, _ => .ok none

/-- Whether a sign of repetition follows, even one that is not written well. -/
def repeats (st : Style) (cs : List Char) : Bool :=
  match repetition? st cs with
  | .ok none => false
  | _ => true

/-- Puts the repetitions that follow on an expression. In the plain notation none may follow another
that is a star or a count. -/
def repeated (st : Style) : Nat → Regex → List Char → Except Fault (Regex × List Char)
  | 0, r, cs => .ok (r, cs)
  | fuel + 1, r, cs => do
    match ← repetition? st cs with
    | none => return (r, cs)
    | some ((least, most), rest) =>
      let crowded := rest.head? == some '*' || (sign? st '{' rest).isSome
      if crowded && !st.extended && !st.lenient then .error .badRepetition
      else repeated st fuel (.many least most r) rest

/-- The characters that a set accepts in a style. -/
def setIn (st : Style) (s : CharSet) : Regex :=
  if st.byLine && s.negated then .set { s with ranges := ('\n', '\n') :: s.ranges } else .set s

/-- Passes repetitions that have nothing to repeat. -/
def passRepetitions (st : Style) : Nat → List Char → List Char
  | 0, cs => cs
  | fuel + 1, cs =>
    match repetition? st cs with
    | .ok (some (_, rest)) => passRepetitions st fuel rest
    | _ => cs

/-- Whether an expression holds of a place only. No repetition bears on it. -/
def isEdge : Regex → Bool
  | .edge _ => true
  | _ => false

mutual

/-- Reads alternatives, given whether they stand in a group and the number of groups before them. -/
def alternatives (st : Style) : Nat → Bool → Nat → List Char → Except Fault ((Regex × Nat) × List Char)
  | 0, _, _, _ => .error .openGroup
  | fuel + 1, nested, groups, cs => do
    let ((a, groups), rest) ← sequence st fuel nested true .empty groups cs
    match sign? st '|' rest with
    | some rest => do
      let ((b, groups), rest) ← alternatives st fuel nested groups rest
      return ((.either a b, groups), rest)
    | none => return ((a, groups), rest)

/-- Reads what stands in a row, given what has been read of it. -/
def sequence (st : Style) :
    Nat → Bool → Bool → Regex → Nat → List Char → Except Fault ((Regex × Nat) × List Char)
  | 0, _, _, _, _, _ => .error .openGroup
  | fuel + 1, nested, first, before, groups, cs =>
    if endsHere st nested cs then .ok ((before, groups), cs)
    else do
      let ((a, groups), rest) ← atom st fuel first groups cs
      let (a, rest) ←
        if isEdge a then
          if st.extended && repeats st rest then
            if st.lenient then .ok (a, passRepetitions st (rest.length + 1) rest)
            else .error .badRepetition
          else if !st.extended && !st.lenient && (sign? st '{' rest).isSome then .error .badRepetition
          else .ok (a, rest)
        else repeated st (rest.length + 1) a rest
      let row := match before with
        | .empty => a
        | r => .seq r a
      sequence st fuel nested false row groups rest

/-- Reads one thing that can be repeated. -/
def atom (st : Style) : Nat → Bool → Nat → List Char → Except Fault ((Regex × Nat) × List Char)
  | 0, _, _, _ => .error .openGroup
  | fuel + 1, first, groups, cs =>
    match sign? st '(' cs with
    | some rest => do
      let number := groups + 1
      let ((a, groups), rest) ← alternatives st fuel true number rest
      match sign? st ')' rest with
      | some rest => return ((.group number a, groups), rest)
      | none => .error .openGroup
    | none =>
      match cs with
      | [] => .ok ((.empty, groups), [])
      | ['\\'] => .error .lastBackslash
      | '\\' :: c :: rest =>
        if c.isDigit && c != '0' then
          let n := c.toNat - 48
          if n ≤ groups then .ok ((.again n, groups), rest) else .error .badReference
        else if first && !st.lenient && (sign? st '{' cs).isSome then .error .badRepetition
        else .ok ((escaped c, groups), rest)
      | '[' :: rest => do
        let (s, rest) ← setAfter rest
        return ((setIn st s, groups), rest)
      | '.' :: rest => .ok ((setIn st .all, groups), rest)
      | '^' :: rest =>
        let edge : Edge := if st.byLine then .lineStart else .start
        .ok ((if st.extended || first then .edge edge else .set (.one '^'), groups), rest)
      | '$' :: rest =>
        let edge : Edge := if st.byLine then .lineFinish else .finish
        .ok ((if st.extended || endsHere st true rest then .edge edge else .set (.one '$'),
          groups), rest)
      | c :: rest =>
        if st.extended && first && repeats st cs then
          if st.lenient then .ok ((.empty, groups), passRepetitions st (cs.length + 1) cs)
          else .error .badRepetition
        else if st.extended && first && c == '{' && !st.lenient then .error .badRepetition
        else .ok ((.set (.one c), groups), rest)

end

/-- Reads a whole expression. -/
def parse (st : Style) (text : String) : Except Fault Regex := do
  let cs := text.toList
  let ((r, _), rest) ← alternatives st (4 * cs.length + 8) false 0 cs
  if rest.isEmpty then return r else .error .closeGroup

/-- The repetitions in the extended notation that have nothing to repeat, given whether an expression
starts here. The first argument bounds the reading. -/
def idleRepetitions (st : Style) : Nat → Bool → List Char → List String
  | 0, _, _ => []
  | fuel + 1, first, cs =>
    match cs with
    | [] => []
    | '\\' :: _ :: rest => idleRepetitions st fuel false rest
    | '[' :: rest =>
      match setAfter rest with
      | .ok (_, rest) => idleRepetitions st fuel false rest
      | .error _ => []
    | '(' :: rest | '|' :: rest => idleRepetitions st fuel true rest
    | '^' :: rest => idleRepetitions st fuel true rest
    | c :: rest =>
      match repetition? st cs with
      | .ok (some (_, more)) =>
        if first then
          (if c == '{' then "\x7b...\x7d" else c.toString) :: idleRepetitions st fuel true more
        else idleRepetitions st fuel false more
      | _ => idleRepetitions st fuel false rest

end Host.Regex

end PolicyGate
