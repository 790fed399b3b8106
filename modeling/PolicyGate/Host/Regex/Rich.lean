import PolicyGate.Host.Regex.Basic

/-!
# The rich notation of regular expressions

Besides groups, alternatives and counts, the rich notation has groups that look around without taking
anything, repetitions that take as little as can be or never give back, names for groups, and letters
that change how the rest of a group is read. Every reader gives the rest of the text, and the first
argument bounds how deep it goes.
-/

namespace PolicyGate

namespace Host.Regex

/-- Why an expression in the rich notation cannot be read. -/
inductive RichFault where
  | openGroup
  | closeGroup
  | openSet
  | nothingRepeated
  | countOrder
  | countSize
  | lastBackslash
  | noName
  | unknownLetter
  | unknownClass
  | rangeOrder
  | sizeBefore
  | noGroup
  | unknownEscape
  deriving DecidableEq, Repr

def RichFault.message : RichFault → String
  | .openGroup => "missing closing parenthesis"
  | .closeGroup => "unmatched closing parenthesis"
  | .openSet => "missing terminating ] for character class"
  | .nothingRepeated => "quantifier does not follow a repeatable item"
  | .countOrder => "numbers out of order in \x7b\x7d quantifier"
  | .countSize => "number too big in \x7b\x7d quantifier"
  | .lastBackslash => "\\ at end of pattern"
  | .noName => "subpattern name expected"
  | .unknownLetter => "unrecognized character after (? or (?-"
  | .unknownClass => "unknown POSIX class name"
  | .rangeOrder => "range out of order in character class"
  | .sizeBefore => "lookbehind assertion is not fixed length"
  | .noGroup => "reference to non-existent subpattern"
  | .unknownEscape => "unrecognized character follows \\"

/-- How an expression is to be read. -/
structure Reading where
  /-- Whether the case of letters does not matter. -/
  fold : Bool := false
  /-- Whether every line has a start and an end of its own. -/
  lines : Bool := false
  /-- Whether the dot stands for newlines too. -/
  anyDot : Bool := false
  /-- Whether blanks and comments mean nothing. -/
  loose : Bool := false
  deriving DecidableEq, Repr

/-- The groups that have been opened. -/
structure Opened where
  count : Nat := 0
  names : List (String × Nat) := []

/-! ## Sets -/

/-- The bytes that are in none of some ranges. -/
def others (ranges : List (Char × Char)) : List (Char × Char) :=
  ((List.range 256).map Char.ofNat).filterMap fun c =>
    if CharSet.holds ranges c then none else some (c, c)

def levelBlank : List (Char × Char) := [(' ', ' '), ('\t', '\t'), ('\u00a0', '\u00a0')]

def lineBreak : List (Char × Char) := [('\n', '\r'), ('\u0085', '\u0085')]

/-- The characters that an escaped letter stands for, if it stands for several. -/
def family? (c : Char) : Option (List (Char × Char)) :=
  match c with
  | 'd' => some [('0', '9')]
  | 'D' => some (others [('0', '9')])
  | 'w' => some CharSet.word
  | 'W' => some (others CharSet.word)
  | 's' => some CharSet.blank
  | 'S' => some (others CharSet.blank)
  | 'h' => some levelBlank
  | 'H' => some (others levelBlank)
  | 'v' => some lineBreak
  | 'V' => some (others lineBreak)
  | 'N' => some (others [('\n', '\n')])
  | _ => none

def hexValue (cs : List Char) : Nat :=
  cs.foldl (fun n c => n * 16 + (if c.isDigit then c.toNat - 48 else c.toLower.toNat - 87)) 0

def isHexDigit (c : Char) : Bool :=
  c.isDigit || ('a' ≤ c.toLower && c.toLower ≤ 'f')

/-- The one character that an escape stands for, given what follows the backslash. -/
def single? (inSet : Bool) (cs : List Char) : Option (Char × List Char) :=
  match cs with
  | 't' :: rest => some ('\t', rest)
  | 'n' :: rest => some ('\n', rest)
  | 'r' :: rest => some ('\r', rest)
  | 'f' :: rest => some ('\x0c', rest)
  | 'e' :: rest => some ('\x1b', rest)
  | 'a' :: rest => some ('\x07', rest)
  | 'b' :: rest => if inSet then some ('\x08', rest) else none
  | 'x' :: '{' :: rest =>
    let digits := rest.takeWhile isHexDigit
    some (Char.ofNat (hexValue digits), rest.drop (digits.length + 1))
  | 'x' :: rest =>
    let digits := (rest.take 2).takeWhile isHexDigit
    some (Char.ofNat (hexValue digits), rest.drop digits.length)
  | 'c' :: c :: rest => some (Char.ofNat (c.toUpper.toNat ^^^ 64), rest)
  | '0' :: rest =>
    let digits := (rest.take 2).takeWhile fun c => '0' ≤ c && c ≤ '7'
    some (Char.ofNat (digits.foldl (fun n c => n * 8 + (c.toNat - 48)) 0), rest.drop digits.length)
  | c :: rest => if c.isAlphanum then none else some (c, rest)
  | [] => none

/-- Reads one member of a set: some ranges, or one character that may start a range. -/
def member : List Char → Except RichFault ((List (Char × Char) ⊕ Char) × List Char)
  | '[' :: ':' :: rest =>
    let negated := rest.head? == some '^'
    let body := if negated then rest.tail else rest
    let name := body.takeWhile Char.isAlpha
    match body.drop name.length with
    | ':' :: ']' :: rest =>
      match (("word", CharSet.word) :: CharSet.classes).lookup (String.ofList name) with
      | some rs => .ok (.inl (if negated then others rs else rs), rest)
      | none => .error .unknownClass
    | _ => .ok (.inr '[', ':' :: rest)
  | '\\' :: c :: rest =>
    match family? c, single? true (c :: rest) with
    | some rs, _ => .ok (.inl rs, rest)
    | none, some (d, rest) => .ok (.inr d, rest)
    | none, none => if c.isDigit then .ok (.inr (Char.ofNat (c.toNat - 48)), rest) else .error .unknownEscape
  | ['\\'] => .error .lastBackslash
  | c :: rest => .ok (.inr c, rest)
  | [] => .error .openSet

/-- Reads the inside of a set up to and with its closing bracket. -/
def richSetBody : Nat → Bool → List (Char × Char) → List Char →
    Except RichFault (List (Char × Char) × List Char)
  | 0, _, _, _ => .error .openSet
  | _ + 1, _, _, [] => .error .openSet
  | fuel + 1, first, ranges, c :: rest =>
    if c == ']' && !first then .ok (ranges, rest)
    else do
      let (m, rest) ← member (c :: rest)
      match m with
      | .inl rs => richSetBody fuel false (ranges ++ rs) rest
      | .inr low =>
        match rest with
        | '-' :: d :: more =>
          if d == ']' then richSetBody fuel false (ranges ++ [(low, low)]) rest
          else do
            let (m, more) ← member (d :: more)
            match m with
            | .inl rs => richSetBody fuel false (ranges ++ (low, low) :: ('-', '-') :: rs) more
            | .inr high =>
              if high < low then .error .rangeOrder
              else richSetBody fuel false (ranges ++ [(low, high)]) more
        | rest => richSetBody fuel false (ranges ++ [(low, low)]) rest

/-- The set of the upper and lower case of each member, where case does not matter. -/
def inBothCases (fold : Bool) (ranges : List (Char × Char)) : List (Char × Char) :=
  if fold then
    ranges ++ ((List.range 128).map Char.ofNat).filterMap fun c =>
      if c.isAlpha && (CharSet.holds ranges c.toLower || CharSet.holds ranges c.toUpper) then
        some (c, c)
      else none
  else ranges

def setOf (how : Reading) (negated : Bool) (ranges : List (Char × Char)) : Regex :=
  .set ⟨negated, inBothCases how.fold ranges⟩

/-! ## Counts -/

/-- Reads a count in braces, behind the opening one. Nothing is read where the braces mean
themselves. -/
def count? (cs : List Char) : Option ((Nat × Option Nat) × List Char) :=
  let number (ds : List Char) : Nat := ds.foldl (fun n c => n * 10 + (c.toNat - 48)) 0
  let low := cs.takeWhile Char.isDigit
  match cs.drop low.length with
  | '}' :: rest => if low.isEmpty then none else some ((number low, some (number low)), rest)
  | ',' :: rest =>
    let high := rest.takeWhile Char.isDigit
    match rest.drop high.length with
    | '}' :: rest =>
      if low.isEmpty then none
      else some ((number low, if high.isEmpty then none else some (number high)), rest)
    | _ => none
  | _ => none

/-- A sign of repetition, with the numbers it stands for. -/
def richRepetition? (cs : List Char) : Option ((Nat × Option Nat) × List Char) :=
  match cs with
  | '*' :: rest => some ((0, none), rest)
  | '+' :: rest => some ((1, none), rest)
  | '?' :: rest => some ((0, some 1), rest)
  | '{' :: rest => count? rest
  | _ => none

/-- Puts the repetition that follows on an expression. -/
def richRepeated (r : Regex) (cs : List Char) : Except RichFault (Regex × List Char) :=
  match richRepetition? cs with
  | none => .ok (r, cs)
  | some ((least, most), rest) =>
    if most.any (· < least) then .error .countOrder
    else if 65535 < least || most.any (65535 < ·) then .error .countSize
    else
      let (whole, rest) := match rest with
        | '?' :: rest => (Regex.few least most r, rest)
        | '+' :: rest => (.once (.many least most r), rest)
        | rest => (.many least most r, rest)
      if (richRepetition? rest).isSome then .error .nothingRepeated else .ok (whole, rest)

/-! ## Sizes -/

/-- The size of all that an expression fits, if it is always the same. -/
def size? : Regex → Option Nat
  | .empty | .edge _ | .look _ _ _ | .starts => some 0
  | .set _ => some 1
  | .seq a b => do
    let n ← size? a
    let m ← size? b
    return n + m
  | .either a b => do
    let n ← size? a
    let m ← size? b
    if n = m then some n else none
  | .many least most a | .few least most a => do
    let n ← size? a
    if most = some least then some (least * n) else none
  | .group _ a | .once a => size? a
  | .again _ => none

/-- Whether each alternative has a size of its own. -/
def sized : Regex → Bool
  | .either a b => sized a && sized b
  | r => (size? r).isSome

/-! ## Expressions -/

/-- The meaning of an escape, given what follows the backslash. -/
def richEscape (how : Reading) (st : Opened) (cs : List Char) : Except RichFault (Regex × List Char) :=
  let back (n : Nat) (rest : List Char) : Except RichFault (Regex × List Char) :=
    if 1 ≤ n && n ≤ st.count then .ok (.again n, rest) else .error .noGroup
  let named (stop : Char) (rest : List Char) : Except RichFault (Regex × List Char) :=
    let name := rest.takeWhile (· != stop)
    let rest := rest.drop (name.length + 1)
    match st.names.lookup (String.ofList name) with
    | some n => .ok (.again n, rest)
    | none => if name.all Char.isDigit then back (hexValue name) rest else .error .noGroup
  match cs with
  | 'b' :: rest => .ok (.edge .wordEdge, rest)
  | 'B' :: rest => .ok (.edge .noWordEdge, rest)
  | 'A' :: rest | 'G' :: rest => .ok (.edge .start, rest)
  | 'z' :: rest => .ok (.edge .finish, rest)
  | 'Z' :: rest => .ok (.edge .lastLine, rest)
  | 'K' :: rest => .ok (.starts, rest)
  | 'E' :: rest => .ok (.empty, rest)
  | 'R' :: rest =>
    .ok (.either (.seq (.set (.one '\r')) (.set (.one '\n'))) (.set ⟨false, lineBreak⟩), rest)
  | 'g' :: '{' :: rest | 'k' :: '{' :: rest => named '}' rest
  | 'k' :: '<' :: rest => named '>' rest
  | 'k' :: '\'' :: rest => named '\'' rest
  | 'g' :: c :: rest => if c.isDigit then back (c.toNat - 48) rest else .error .noGroup
  | c :: rest =>
    match family? c, single? false cs with
    | some rs, _ => .ok (.set ⟨false, rs⟩, rest)
    | none, some (d, rest) => .ok (setOf how false [(d, d)], rest)
    | none, none => if c.isDigit then back (c.toNat - 48) rest else .error .unknownEscape
  | [] => .error .lastBackslash

/-- Passes what means nothing where blanks do not count. -/
def passLoose (how : Reading) : Nat → List Char → List Char
  | 0, cs => cs
  | fuel + 1, cs =>
    if how.loose then
      match cs with
      | '#' :: rest => passLoose how fuel (rest.dropWhile (· != '\n'))
      | c :: rest => if CharSet.holds CharSet.blank c then passLoose how fuel rest else cs
      | [] => []
    else cs

/-- Reads the letters behind `(?` that change how the rest is read. -/
def letters (on : Bool) (how : Reading) : List Char → Except RichFault (Reading × List Char)
  | 'i' :: rest => letters on { how with fold := on } rest
  | 'm' :: rest => letters on { how with lines := on } rest
  | 's' :: rest => letters on { how with anyDot := on } rest
  | 'x' :: rest => letters on { how with loose := on } rest
  | 'n' :: rest | 'u' :: rest | 'a' :: rest => letters on how rest
  | '-' :: rest => letters false how rest
  | '^' :: rest => letters true {} rest
  | ')' :: rest => .ok (how, ')' :: rest)
  | ':' :: rest => .ok (how, ':' :: rest)
  | [] => .error .openGroup
  | _ => .error .unknownLetter

mutual

/-- Reads alternatives. -/
def richAlternatives : Nat → Reading → Opened → List Char →
    Except RichFault ((Regex × Opened) × List Char)
  | 0, _, _, _ => .error .openGroup
  | fuel + 1, how, st, cs => do
    let ((a, how, st), rest) ← richRow fuel how .empty st cs
    match rest with
    | '|' :: rest => do
      let ((b, st), rest) ← richAlternatives fuel how st rest
      return ((.either a b, st), rest)
    | rest => return ((a, st), rest)

/-- Reads what stands in a row, given what has been read of it. -/
def richRow : Nat → Reading → Regex → Opened → List Char →
    Except RichFault ((Regex × Reading × Opened) × List Char)
  | 0, _, _, _, _ => .error .openGroup
  | fuel + 1, how, before, st, cs =>
    match passLoose how (cs.length + 1) cs with
    | [] => .ok ((before, how, st), [])
    | '|' :: rest => .ok ((before, how, st), '|' :: rest)
    | ')' :: rest => .ok ((before, how, st), ')' :: rest)
    | cs => do
      let ((a, how, st), rest) ← richAtom fuel how st cs
      let (a, rest) ← richRepeated a (passLoose how (rest.length + 1) rest)
      let row := match before, a with
        | r, .empty => r
        | .empty, a => a
        | r, a => .seq r a
      richRow fuel how row st rest

/-- Reads one thing that can be repeated. -/
def richAtom : Nat → Reading → Opened → List Char →
    Except RichFault ((Regex × Reading × Opened) × List Char)
  | 0, _, _, _ => .error .openGroup
  | fuel + 1, how, st, cs =>
    match cs with
    | [] => .ok ((.empty, how, st), [])
    | '(' :: '?' :: '#' :: rest => .ok ((.empty, how, st), (rest.dropWhile (· != ')')).drop 1)
    | '(' :: '?' :: ':' :: rest => inside fuel how st id rest
    | '(' :: '?' :: '=' :: rest => inside fuel how st (.look false false) rest
    | '(' :: '?' :: '!' :: rest => inside fuel how st (.look false true) rest
    | '(' :: '?' :: '<' :: '=' :: rest => inside fuel how st (.look true false) rest
    | '(' :: '?' :: '<' :: '!' :: rest => inside fuel how st (.look true true) rest
    | '(' :: '?' :: '>' :: rest => inside fuel how st .once rest
    | '(' :: '?' :: '<' :: rest | '(' :: '?' :: 'P' :: '<' :: rest => namedGroup fuel how st '>' rest
    | '(' :: '?' :: '\'' :: rest => namedGroup fuel how st '\'' rest
    | '(' :: '?' :: rest => do
      let (changed, rest) ← letters true how rest
      match rest with
      | ':' :: rest => do
        let ((a, _, st), rest) ← inside fuel changed st id rest
        return ((a, how, st), rest)
      | rest => return ((.empty, changed, st), rest.drop 1)
    | '(' :: rest =>
      let st := { st with count := st.count + 1 }
      inside fuel how st (.group st.count) rest
    | ['\\'] => .error .lastBackslash
    | '\\' :: 'Q' :: rest => .ok (quotedRow how st rest)
    | '\\' :: rest => do
      let (r, rest) ← richEscape how st rest
      return ((r, how, st), rest)
    | '[' :: rest => do
      let negated := rest.head? == some '^'
      let rest := if negated then rest.tail else rest
      let (ranges, rest) ← richSetBody (rest.length + 1) true [] rest
      return ((setOf how negated ranges, how, st), rest)
    | '.' :: rest =>
      .ok ((.set (if how.anyDot then .all else ⟨true, [('\n', '\n')]⟩), how, st), rest)
    | '^' :: rest => .ok ((.edge (if how.lines then .lineStart else .start), how, st), rest)
    | '$' :: rest => .ok ((.edge (if how.lines then .lineFinish else .lastLine), how, st), rest)
    | c :: rest =>
      if (richRepetition? cs).isSome then .error .nothingRepeated
      else .ok ((setOf how false [(c, c)], how, st), rest)

/-- Reads the inside of a group and its end. -/
def inside : Nat → Reading → Opened → (Regex → Regex) → List Char →
    Except RichFault ((Regex × Reading × Opened) × List Char)
  | 0, _, _, _, _ => .error .openGroup
  | fuel + 1, how, st, wrap, cs => do
    let ((a, st), rest) ← richAlternatives fuel how st cs
    match rest with
    | ')' :: rest =>
      let r := wrap a
      match r with
      | .look true _ _ => if sized a then return ((r, how, st), rest) else .error .sizeBefore
      | r => return ((r, how, st), rest)
    | _ => .error .openGroup

/-- Reads a group behind the sign in front of its name. -/
def namedGroup : Nat → Reading → Opened → Char → List Char →
    Except RichFault ((Regex × Reading × Opened) × List Char)
  | 0, _, _, _, _ => .error .openGroup
  | fuel + 1, how, st, stop, cs =>
    let name := cs.takeWhile fun c => isWordChar c
    if name.isEmpty then .error .noName
    else
      match cs.drop name.length with
      | c :: rest =>
        if c == stop then
          let number := st.count + 1
          inside fuel how ⟨number, (String.ofList name, number) :: st.names⟩ (.group number) rest
        else .error .noName
      | [] => .error .noName

/-- Reads characters that mean themselves, up to `\E`. -/
def quotedRow (how : Reading) (st : Opened) (cs : List Char) :
    (Regex × Reading × Opened) × List Char :=
  let rec go : Regex → List Char → Regex × List Char
    | r, [] => (r, [])
    | r, '\\' :: 'E' :: rest => (r, rest)
    | r, c :: rest =>
      let one := setOf how false [(c, c)]
      go (match r with
        | .empty => one
        | r => .seq r one) rest
  let (r, rest) := go .empty cs
  ((r, how, st), rest)

end

/-- Reads a whole expression, and says what its groups are. -/
def parseRich (how : Reading) (text : String) : Except RichFault (Regex × Opened) := do
  let cs := text.toList
  let ((r, st), rest) ← richAlternatives (4 * cs.length + 8) how {} cs
  if rest.isEmpty then return (r, st) else .error .closeGroup

end Host.Regex

end PolicyGate
