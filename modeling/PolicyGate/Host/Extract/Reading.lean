import PolicyGate.Host.Extract.Syntax

/-!
# Reading extraction scripts

What a sign means depends on whether a value or an operator has to come. Every reader gives what it has
read and the text behind it; the first argument bounds how deep it goes.
-/

namespace PolicyGate

namespace Host.Extract


/-- Where a text stands: how many lines end in it, or the line of what it is a part of. -/
structure Place where
  ends : Nat := 0
  fixed : Option Nat := none

def Place.line (p : Place) (rest : List Char) : Nat := p.fixed.getD (p.ends + 1 - rest.count '\n')

/-! ## Signs -/

def isWordStart (c : Char) : Bool := c.isAlpha || c == '_'
def isWordPart (c : Char) : Bool := c.isAlphanum || c == '_'

/-- Passes blanks and remarks. -/
def skip : Nat → List Char → List Char
  | 0, cs => cs
  | _ + 1, [] => []
  | fuel + 1, c :: cs =>
    if c == ' ' || c == '\t' || c == '\n' || c == '\r' then skip fuel cs
    else if c == '#' then skip fuel (cs.dropWhile (· != '\n'))
    else c :: cs

def passed (cs : List Char) : List Char := skip (cs.length + 1) cs

/-- The word at the front. -/
def wordAt (cs : List Char) : Raw :=
  match cs with
  | c :: _ => if isWordStart c then String.ofList (cs.takeWhile isWordPart) else ""
  | [] => ""

def behindWord (cs : List Char) : List Char := cs.dropWhile isWordPart

def startsWith (sign : String) (cs : List Char) : Bool := sign.toList.isPrefixOf cs

/-- The signs of operators, the longer ones first. -/
def signs : List String :=
  ["<=>", "**=", "||=", "&&=", "//=", "...", "<<=", ">>=", "->", "++", "--", "**", "=~", "!~", "==", "!=",
    "<=", ">=", "&&", "||", "//", "..", "+=", "-=", "*=", "/=", ".=", "%=", "&=", "|=", "^=", "<<", ">>",
    "=>", "<", ">", "+", "-", "*", "/", "%", ".", "=", "?", ":", "&", "|", "^", ","]

def wordSigns : List Raw := ["x", "lt", "gt", "le", "ge", "eq", "ne", "cmp"]

/-- The operator at the front, and what lies behind it. -/
def operatorAt? (cs : List Char) : Option (String × List Char) :=
  let cs := passed cs
  let w := wordAt cs
  if wordSigns.contains w then
    let rest := behindWord cs
    if w == "x" && rest.head? == some '=' && rest.tail.head? != some '=' && rest.tail.head? != some '~' then
      some ("x=", rest.tail)
    else some (w, rest)
  else
    match cs with
    | 'x' :: rest => if rest.head?.any Char.isDigit then some ("x", rest) else none
    | _ => (signs.find? fun o => startsWith o cs).map fun o => (o, cs.drop o.length)

/-- The operators between two values, those that bind least first. -/
def levels : List (List String) :=
  [["..", "..."], ["||", "//"], ["&&"], ["|", "^"], ["&"], ["==", "!=", "<=>", "eq", "ne", "cmp"],
    ["<", ">", "<=", ">=", "lt", "gt", "le", "ge"], ["<<", ">>"], ["+", "-", "."], ["*", "/", "%", "x"],
    ["=~", "!~"]]

def assigning : List String :=
  ["=", "+=", "-=", "*=", "/=", ".=", "%=", "x=", "&=", "|=", "^=", "**=", "||=", "&&=", "//=", "<<=", ">>="]

/-- The functions that take one value at most. -/
def single : List Raw :=
  ["defined", "ref", "scalar", "lc", "uc", "lcfirst", "ucfirst", "length", "chr", "ord", "int", "hex", "oct",
    "abs", "sqrt", "sin", "cos", "exp", "log", "rand", "srand", "quotemeta", "shift", "pop",
    "exists", "delete", "keys", "values", "close", "eof", "exit", "sleep", "undef", "localtime", "gmtime",
    "chdir", "rmdir", "umask", "fc", "alarm", "fileno", "each", "readline"]

def withoutValues : List Raw := ["time", "wait", "wantarray", "fork", "getppid"]

/-! ## Texts between marks -/

def closing (c : Char) : Char :=
  if c == '(' then ')' else if c == '[' then ']' else if c == '{' then '}' else if c == '<' then '>' else c

/-- Reads up to the mark that closes a text, whose marks may be nested if they differ. A backslash keeps
the character behind it. -/
def untilMark (opens closes : Char) : Nat → Nat → List Char → List Char → Option (List Char × List Char)
  | 0, _, _, _ => none
  | _ + 1, _, _, [] => none
  | fuel + 1, depth, done, c :: cs =>
    if c == '\\' then
      match cs with
      | [] => none
      | d :: rest =>
        if d == closes && opens == closes then untilMark opens closes fuel depth (d :: c :: done) rest
        else untilMark opens closes fuel depth (d :: c :: done) rest
    else if c == closes then
      match depth with
      | 0 => some (done.reverse, cs)
      | n + 1 => untilMark opens closes fuel n (c :: done) cs
    else if c == opens then untilMark opens closes fuel (depth + 1) (c :: done) cs
    else untilMark opens closes fuel depth (c :: done) cs

/-- A text between marks behind the first of them, and the first mark. -/
def marked (kind : Raw) (cs : List Char) : Except Fault ((List Char × Char) × List Char) :=
  match cs with
  | [] => .error (.unended kind cs)
  | c :: rest =>
    match untilMark c (closing c) (rest.length + 1) 0 [] rest with
    | some (inside, after) => .ok ((inside, c), after)
    | none => .error (.unended kind cs)

/-- A text in which a backslash only keeps itself and its mark. -/
def unescaped (mark : Char) : List Char → List Char
  | '\\' :: c :: cs =>
    if c == '\\' || c == mark || c == closing mark then c :: unescaped mark cs else '\\' :: c :: unescaped mark cs
  | c :: cs => c :: unescaped mark cs
  | [] => []

/-- A pattern whose mark has been kept by a backslash. -/
def withoutMark (mark : Char) : List Char → List Char
  | '\\' :: c :: cs =>
    if c == mark && !"\\^$.*+?()[]\x7b\x7d|".toList.contains mark then c :: withoutMark mark cs
    else '\\' :: c :: withoutMark mark cs
  | c :: cs => c :: withoutMark mark cs
  | [] => []

/-- The words of a text. -/
def wordsOf (cs : List Char) : List Raw :=
  ((cs.splitOnP fun c => c == ' ' || c == '\t' || c == '\n').filter (!·.isEmpty)).map String.ofList

/-- The characters that ranges stand for. -/
def spread : List Char → List Char
  | a :: '-' :: b :: cs =>
    if a ≤ b then ((List.range (b.toNat + 1 - a.toNat)).map fun k => Char.ofNat (a.toNat + k)) ++ spread cs
    else a :: spread ('-' :: b :: cs)
  | '\\' :: c :: cs =>
    let plain := match c with
      | 'n' => '\n'
      | 't' => '\t'
      | 'r' => '\r'
      | '0' => '\x00'
      | c => c
    plain :: spread cs
  | c :: cs => c :: spread cs
  | [] => []
termination_by cs => cs.length

/-- A number at the front. -/
def number? (cs : List Char) : Option (Value × List Char) :=
  let digits (p : Char → Bool) (cs : List Char) : List Char × List Char :=
    let ds := cs.takeWhile fun c => p c || c == '_'
    (ds.filter (· != '_'), cs.drop ds.length)
  let based (base : Nat) (p : Char → Bool) (cs : List Char) : Value × List Char :=
    let (ds, rest) := digits p cs
    (.ofInt (ds.foldl (fun n c => n * base + (hexValue? c).getD 0) 0 : Nat), rest)
  match cs with
  | '0' :: x :: rest =>
    if x == 'x' || x == 'X' then some (based 16 (fun c => (hexValue? c).isSome) rest)
    else if x == 'b' || x == 'B' then some (based 2 (fun c => c == '0' || c == '1') rest)
    else if x.isDigit then some (based 8 isOctal (x :: rest))
    else decimal cs
  | _ => decimal cs
where
  decimal (cs : List Char) : Option (Value × List Char) :=
    let take (cs : List Char) : List Char := cs.takeWhile fun c => c.isDigit || c == '_'
    let whole := take cs
    let rest := cs.drop whole.length
    let (fraction, rest) := match rest with
      | '.' :: more =>
        if more.head? == some '.' then ([], rest) else ('.' :: take more, more.drop (take more).length)
      | _ => ([], rest)
    if whole.isEmpty && fraction.length < 2 then none
    else
      let (exponent, rest) := match rest with
        | e :: more =>
          let (sign, ds) := match more with
            | '-' :: ds => (['-'], ds)
            | '+' :: ds => (['+'], ds)
            | ds => ([], ds)
          let es := ds.takeWhile Char.isDigit
          if (e == 'e' || e == 'E') && !es.isEmpty then (e :: sign ++ es, ds.drop es.length) else ([], rest)
        | [] => ([], rest)
      let written := (whole ++ fraction ++ exponent).filter (· != '_')
      some (Value.numberAt (String.ofList written), rest)

/-- The letters behind a pattern. -/
def lettersAt (cs : List Char) : Raw × List Char :=
  (String.ofList (cs.takeWhile Char.isAlpha), cs.dropWhile Char.isAlpha)

/-- The name of a variable behind its sign. -/
def variableAt? (cs : List Char) : Option (Raw × List Char) :=
  match cs with
  | [] => none
  | c :: rest =>
    if isWordStart c then
      let name := cs.takeWhile isWordPart
      match cs.drop name.length with
      | ':' :: ':' :: more => some (String.ofList (more.takeWhile isWordPart), more.dropWhile isWordPart)
      | after => some (String.ofList name, after)
    else if c.isDigit then some (String.ofList (cs.takeWhile Char.isDigit), cs.dropWhile Char.isDigit)
    else if c == '{' then
      let name := rest.takeWhile isWordPart
      match rest.drop name.length with
      | '}' :: after => if name.isEmpty then none else some (String.ofList name, after)
      | _ =>
        match rest with
        | '^' :: w :: '}' :: after => some (String.ofList ['^', w], after)
        | _ => none
    else if c == '^' && rest.head?.any Char.isUpper then
      some (String.ofList (c :: rest.take 1), rest.drop 1)
    else if "&!@,/\\;\".|$<0+(?'".toList.contains c || c == '\x60' then some (c.toString, rest)
    else none

/-! ## Escapes in texts -/

/-- The characters of an escape behind its backslash, and what lies behind them. -/
def escapeAt (cs : List Char) : List Char × List Char :=
  match cs with
  | [] => (['\\'], [])
  | c :: rest =>
    match c with
    | 'n' => (['\n'], rest)
    | 't' => (['\t'], rest)
    | 'r' => (['\r'], rest)
    | 'a' => (['\x07'], rest)
    | 'b' => (['\x08'], rest)
    | 'e' => (['\x1b'], rest)
    | 'f' => (['\x0c'], rest)
    | 'x' =>
      match rest with
      | '{' :: more =>
        let ds := more.takeWhile (· != '}')
        let n := ds.foldl (fun n c => n * 16 + (hexValue? c).getD 0) 0
        let made := if n < 256 then [Char.ofNat n] else (Raw.ofText (Char.ofNat n).toString).toList
        (made, more.drop (ds.length + 1))
      | _ =>
        let ds := (rest.take 2).takeWhile fun c => (hexValue? c).isSome
        ([Char.ofNat (ds.foldl (fun n c => n * 16 + (hexValue? c).getD 0) 0)], rest.drop ds.length)
    | c =>
      if isOctal c then
        let ds := (cs.take 3).takeWhile isOctal
        ([Char.ofNat (ds.foldl (fun n c => n * 8 + (c.toNat - 48)) 0 % 256)], cs.drop ds.length)
      else ([c], rest)

/-- Whether what stands in brackets behind a name in a pattern is a place rather than a set. -/
def looksPlaced (inside : List Char) : Bool :=
  let body := match inside with
    | '-' :: ds => ds
    | '$' :: ds => ds
    | ds => ds
  !body.isEmpty && (if inside.head? == some '$' then body.all isWordPart else body.all Char.isDigit)

/-- Adds characters to the last part of a text, the parts in reverse. -/
def putChars (cs : List Char) (parts : List Expr) : List Expr :=
  match parts with
  | .value (.text r) :: more => .value (.text (r ++ String.ofList cs)) :: more
  | parts => .value (.text (String.ofList cs)) :: parts

/-- A call whose condition reads a line keeps the line, and asks whether there was one. -/
def asCondition (e : Expr) : Expr :=
  match e with
  | .line h => .call 0 "defined" [.assigned "=" (.scalar "_") (.line h)]
  | .assigned "=" t (.line h) => .call 0 "defined" [.assigned "=" t (.line h)]
  | e => e

/-- The characters up to where the turning of letters ends. -/
def takeTurned : List Char → List Char
  | '\\' :: 'E' :: _ => []
  | c :: cs => c :: takeTurned cs
  | [] => []

/-- Whether no value can come. -/
def endsHere (cs : List Char) : Bool :=
  let cs := passed cs
  match cs with
  | [] => true
  | c :: _ => c == ')' || c == ']' || c == '}' || c == ';' || c == ':' ||
    ["or", "and", "if", "unless", "while", "until", "for", "foreach", "xor"].contains (wordAt cs)

/-! ## Values and operators -/

variable (p : Place)

mutual

/-- Reads a text into which values are put. In a pattern escapes stay as they are. -/
def textParts (isPattern : Bool) : Nat → List Expr → List Char → Except Fault (List Expr)
  | 0, _, cs => .error (.misplaced cs)
  | _ + 1, parts, [] => .ok parts.reverse
  | fuel + 1, parts, c :: cs =>
    if c == '\\' then
      if isPattern then textParts isPattern fuel (putChars (c :: cs.take 1) parts) (cs.drop 1)
      else
        match cs with
        | m :: rest =>
          if "ULQE".toList.contains m then
            let inside := if m == 'E' then [] else takeTurned rest
            let after := if m == 'E' then rest else rest.drop inside.length
            if m == 'E' then textParts isPattern fuel parts after
            else do
              let turned ← textParts isPattern fuel [] inside
              let name : Raw := if m == 'U' then "uc" else if m == 'L' then "lc" else "quotemeta"
              textParts isPattern fuel (.call 0 name [.quoted turned] :: parts) after
          else
            let (made, after) := escapeAt cs
            textParts isPattern fuel (putChars made parts) after
        | [] => .ok (putChars [c] parts).reverse
    else if c == '$' then
      let isLiteral := match cs with
        | [] => true
        | d :: _ => (isPattern && (d == ')' || d == '|')) || d == ' ' || d == '\n' || d == '"' ||
          (isPattern && d == '\'')
      if isLiteral then textParts isPattern fuel (putChars [c] parts) cs
      else
        match cs with
        | '#' :: more =>
          match if more.head?.any fun d => isWordStart d || d == '{' then variableAt? more else none with
          | some (name, after) => textParts isPattern fuel (.last name :: parts) after
          | none => textParts isPattern fuel (putChars [c] parts) cs
        | cs =>
          match variableAt? cs with
          | none => textParts isPattern fuel (putChars [c] parts) cs
          | some (name, after) => do
            let (e, after) ← placed isPattern fuel name after
            textParts isPattern fuel (e :: parts) after
    else if c == '@' then
      match cs with
      | '{' :: '[' :: rest =>
        match untilMark '[' ']' (rest.length + 1) 0 [] rest with
        | some (inside, '}' :: after) => do
          let (e, _) ← low fuel inside
          textParts isPattern fuel (.call 0 "join" [.scalar "\"", e] :: parts) after
        | _ => textParts isPattern fuel (putChars [c] parts) cs
      | d :: _ =>
        if !isWordStart d then textParts isPattern fuel (putChars [c] parts) cs
        else do
          let name := wordAt cs
          let after := behindWord cs
          let row : Expr := .call 0 "join" [.scalar "\"", .row name]
          match after with
          | m :: rest =>
            if (m == '[' || m == '{') && !isPattern then
              match untilMark m (closing m) (rest.length + 1) 0 [] rest with
              | some (inside, after) =>
                let (e, _) ← low fuel inside
                let some_ : Expr := if m == '[' then .items name e else .entries name e
                textParts isPattern fuel (.call 0 "join" [.scalar "\"", some_] :: parts) after
              | none => textParts isPattern fuel (row :: parts) after
            else textParts isPattern fuel (row :: parts) after
          | [] => textParts isPattern fuel (row :: parts) after
      | [] => .ok (putChars [c] parts).reverse
    else textParts isPattern fuel (putChars [c] parts) cs

/-- Reads the place behind the name of a variable in a text. -/
def placed (isPattern : Bool) : Nat → Raw → List Char → Except Fault (Expr × List Char)
  | 0, _, cs => .error (.misplaced cs)
  | fuel + 1, name, cs =>
    match cs with
    | m :: rest =>
      if m != '[' && m != '{' then .ok (.scalar name, cs)
      else
        match untilMark m (closing m) (rest.length + 1) 0 [] rest with
        | none => .ok (.scalar name, cs)
        | some (inside, after) =>
          if isPattern && !looksPlaced inside && !(m == '{' && inside.head?.any isWordStart) then
            .ok (.scalar name, cs)
          else if m == '[' then do
            let (e, _) ← low fuel inside
            return (.item name e, after)
          else do
            let e ← keyOf fuel inside
            return (.entry name e, after)
    | [] => .ok (.scalar name, [])

/-- Reads the key of a table, which may be a bare word. -/
def keyOf : Nat → List Char → Except Fault Expr
  | 0, cs => .error (.misplaced cs)
  | fuel + 1, inside =>
    let bare := (passed inside).takeWhile fun c => isWordPart c || c == '-'
    let isBare := !bare.isEmpty && (passed ((passed inside).drop bare.length)).isEmpty &&
      bare.head?.any fun c => isWordStart c || c == '-'
    if isBare then .ok (.value (.text (String.ofList bare)))
    else do
      let (e, _) ← low fuel inside
      return e

/-- Reads what the words `or`, `and` and `not` join. -/
def low : Nat → List Char → Except Fault (Expr × List Char)
  | 0, cs => .error (.misplaced cs)
  | fuel + 1, cs => do
    let (a, rest) ← lowAnd fuel cs
    lowRest fuel a rest

def lowRest : Nat → Expr → List Char → Except Fault (Expr × List Char)
  | 0, _, cs => .error (.misplaced cs)
  | fuel + 1, a, cs =>
    let w := wordAt (passed cs)
    if w == "or" || w == "xor" then do
      let (b, rest) ← lowAnd fuel (behindWord (passed cs))
      lowRest fuel (.binary (if w == "or" then "||" else "xor") a b) rest
    else .ok (a, cs)

def lowAnd : Nat → List Char → Except Fault (Expr × List Char)
  | 0, cs => .error (.misplaced cs)
  | fuel + 1, cs => do
    let (a, rest) ← lowNot fuel cs
    if wordAt (passed rest) == "and" then
      let (b, rest) ← lowAnd fuel (behindWord (passed rest))
      return (.binary "&&" a b, rest)
    else return (a, rest)

def lowNot : Nat → List Char → Except Fault (Expr × List Char)
  | 0, cs => .error (.misplaced cs)
  | fuel + 1, cs =>
    if wordAt (passed cs) == "not" then do
      let (a, rest) ← lowNot fuel (behindWord (passed cs))
      return (.unary "!" a, rest)
    else commas fuel cs

/-- Reads values with commas between them. -/
def commas : Nat → List Char → Except Fault (Expr × List Char)
  | 0, cs => .error (.misplaced cs)
  | fuel + 1, cs => do
    let (a, rest) ← assignment fuel cs
    match operatorAt? rest with
    | some (o, after) =>
      if o == "," || o == "=>" then
        let (es, rest) ← more fuel [a] after
        return (.list es, rest)
      else return (a, rest)
    | none => return (a, rest)

/-- Reads further values behind a comma. -/
def more : Nat → List Expr → List Char → Except Fault (List Expr × List Char)
  | 0, _, cs => .error (.misplaced cs)
  | fuel + 1, done, cs =>
    if endsHere cs then .ok (done.reverse, cs)
    else do
      let (a, rest) ← assignment fuel cs
      match operatorAt? rest with
      | some (o, after) =>
        if o == "," || o == "=>" then more fuel (a :: done) after else return ((a :: done).reverse, rest)
      | none => return ((a :: done).reverse, rest)

def assignment : Nat → List Char → Except Fault (Expr × List Char)
  | 0, cs => .error (.misplaced cs)
  | fuel + 1, cs => do
    let (a, rest) ← choice fuel cs
    match operatorAt? rest with
    | some (o, after) =>
      if assigning.contains o then
        let (b, rest) ← assignment fuel after
        return (.assigned o a b, rest)
      else return (a, rest)
    | none => return (a, rest)

def choice : Nat → List Char → Except Fault (Expr × List Char)
  | 0, cs => .error (.misplaced cs)
  | fuel + 1, cs => do
    let (c, rest) ← level fuel levels cs
    match operatorAt? rest with
    | some ("?", after) =>
      let (a, rest) ← assignment fuel after
      match operatorAt? rest with
      | some (":", after) =>
        let (b, rest) ← assignment fuel after
        return (.choice c a b, rest)
      | _ => .error (.misplaced rest)
    | _ => return (c, rest)

/-- Reads what the operators of some levels join. -/
def level : Nat → List (List String) → List Char → Except Fault (Expr × List Char)
  | 0, _, cs => .error (.misplaced cs)
  | fuel + 1, [], cs => unary fuel cs
  | fuel + 1, l :: ls, cs => do
    let (a, rest) ← level fuel ls cs
    levelRest fuel l ls a rest

def levelRest : Nat → List String → List (List String) → Expr → List Char → Except Fault (Expr × List Char)
  | 0, _, _, _, cs => .error (.misplaced cs)
  | fuel + 1, l, ls, a, cs =>
    match operatorAt? cs with
    | some (o, after) =>
      if !l.contains o then .ok (a, cs)
      else do
        let (b, rest) ← level fuel ls after
        let e : Expr :=
          if o == "=~" || o == "!~" then
            match b with
            | .searched none _ s => .searched (some a) (o == "!~") s
            | b => .searched (some a) (o == "!~") (.find b "")
          else if o == ".." || o == "..." then .range cs.length a b
          else .binary o a b
        levelRest fuel l ls e rest
    | none => .ok (a, cs)

def unary : Nat → List Char → Except Fault (Expr × List Char)
  | 0, cs => .error (.misplaced cs)
  | fuel + 1, cs =>
    let cs := passed cs
    let step (up : Bool) (rest : List Char) : Except Fault (Expr × List Char) := do
      let (a, rest) ← unary fuel rest
      return (.stepped true up a, rest)
    match cs with
    | '+' :: '+' :: rest => step true rest
    | '-' :: '-' :: rest => step false rest
    | '!' :: rest => do
      let (a, rest) ← unary fuel rest
      return (.unary "!" a, rest)
    | '~' :: rest => do
      let (a, rest) ← unary fuel rest
      return (.unary "~" a, rest)
    | '-' :: c :: rest =>
      let isTest := "edfrwxszl".toList.contains c && !(rest.head?.any isWordPart) &&
        !startsWith "=>" (passed rest)
      if isTest then do
        let (a, rest) ← unary fuel rest
        return (.unary ("-" ++ c.toString) a, rest)
      else if isWordStart c && !single.contains (wordAt (c :: rest)) &&
          (passed (behindWord (c :: rest))).head? != some '(' then
        .ok (.value (.text ("-" ++ wordAt (c :: rest))), behindWord (c :: rest))
      else do
        let (a, rest) ← unary fuel (c :: rest)
        return (.unary "-" a, rest)
    | '+' :: rest => unary fuel rest
    | cs => do
      let (a, rest) ← steps fuel cs
      match operatorAt? rest with
      | some ("**", after) =>
        let (b, rest) ← unary fuel after
        return (.binary "**" a b, rest)
      | _ => return (a, rest)

/-- Reads a value and the steps behind it. -/
def steps : Nat → List Char → Except Fault (Expr × List Char)
  | 0, cs => .error (.misplaced cs)
  | fuel + 1, cs => do
    let (a, rest) ← term fuel cs
    match operatorAt? rest with
    | some ("++", after) => return (.stepped false true a, after)
    | some ("--", after) => return (.stepped false false a, after)
    | _ => return (a, rest)

/-- Reads a single value. -/
def term : Nat → List Char → Except Fault (Expr × List Char)
  | 0, cs => .error (.misplaced cs)
  | fuel + 1, cs =>
    let cs := passed cs
    match cs with
    | [] => .error (.misplaced [])
    | '"' :: _ => do
      let ((inside, _), rest) ← marked "string terminator '\"'" cs
      return (.quoted (← textParts false fuel [] inside), rest)
    | '\'' :: _ => do
      let ((inside, m), rest) ← marked "string terminator \"'\"" cs
      return (.value (.text (String.ofList (unescaped m inside))), rest)
    | '/' :: _ => do
      let ((inside, m), rest) ← marked "Search pattern not terminated" cs
      let (letters, rest) := lettersAt rest
      return (.searched none false (.find (.quoted (← textParts true fuel [] (withoutMark m inside))) letters), rest)
    | '<' :: rest =>
      let inside := rest.takeWhile fun c => isWordPart c || c == '$'
      match rest.drop inside.length with
      | '>' :: after =>
        match inside with
        | '$' :: name => .ok (.line (.scalar (String.ofList name)), after)
        | name => .ok (.line (.value (.text (String.ofList name))), after)
      | _ => .error (.misplaced cs)
    | '(' :: rest => do
      let (es, rest) ← inBrackets fuel rest
      match rest with
      | '[' :: _ =>
        let ((inside, _), after) ← marked "]" rest
        let (e, _) ← low fuel inside
        return (.pick (.list es) e, after)
      | _ => return (.list es, rest)
    | '$' :: '#' :: rest =>
      match variableAt? rest with
      | some (name, after) => .ok (.last name, after)
      | none => .error (.misplaced cs)
    | '$' :: rest =>
      match variableAt? rest with
      | none => .error (.misplaced cs)
      | some (name, after) =>
        match after with
        | '[' :: _ => do
          let ((inside, _), after) ← marked "]" after
          let (e, _) ← low fuel inside
          return (.item name e, after)
        | '{' :: _ => do
          let ((inside, _), after) ← marked "\x7d" after
          return (.entry name (← keyOf fuel inside), after)
        | _ => .ok (.scalar name, after)
    | '@' :: rest =>
      match variableAt? rest with
      | none => .error (.misplaced cs)
      | some (name, after) =>
        match after with
        | '[' :: _ => do
          let ((inside, _), after) ← marked "]" after
          let (e, _) ← low fuel inside
          return (.items name e, after)
        | '{' :: _ => do
          let ((inside, _), after) ← marked "\x7d" after
          let (e, _) ← low fuel inside
          return (.entries name e, after)
        | _ => .ok (.row name, after)
    | '%' :: rest =>
      match variableAt? rest with
      | some (name, after) => .ok (.table name, after)
      | none => .error (.misplaced cs)
    | '&' :: rest =>
      if rest.head?.any isWordStart then named fuel rest else .error (.misplaced cs)
    | '\x60' :: _ => do
      let ((inside, _), rest) ← marked "string terminator '\x60'" cs
      return (.call (p.line cs) "qx" [.quoted (← textParts false fuel [] inside)], rest)
    | c :: rest =>
      if c.isDigit || (c == '.' && rest.head?.any Char.isDigit) then
        match number? cs with
        | some (v, rest) => .ok (.value v, rest)
        | none => .error (.misplaced cs)
      else if isWordStart c then named fuel cs
      else .error (.misplaced cs)

/-- Reads values up to the bracket that closes an open one. -/
def inBrackets : Nat → List Char → Except Fault (List Expr × List Char)
  | 0, cs => .error (.misplaced cs)
  | fuel + 1, cs =>
    match passed cs with
    | ')' :: rest => .ok ([], rest)
    | cs => do
      let (e, rest) ← low fuel cs
      match passed rest with
      | ')' :: rest =>
        return ((match e with
          | .list es => es
          | e => [e]), rest)
      | rest => .error (.misplaced rest)

/-- Reads what starts with a word. -/
def named : Nat → List Char → Except Fault (Expr × List Char)
  | 0, cs => .error (.misplaced cs)
  | fuel + 1, cs =>
    let w := wordAt cs
    let rest := behindWord cs
    let after := passed rest
    let line := p.line cs
    let isKey := startsWith "=>" after
    let takesMark := !isKey && (match rest with
      | c :: _ => !isWordPart c && c != ',' && c != ';' && c != ')' && !(c == '=' && w != "s" && w != "y")
      | [] => false)
    if isKey then .ok (.value (.text w), rest)
    else if takesMark && (w == "q" || w == "qq" || w == "qw" || w == "m" || w == "qr" || w == "s" || w == "tr" ||
        w == "y") then do
      let ((inside, m), rest) ← marked (w ++ " text") after
      if w == "q" then return (.value (.text (String.ofList (unescaped m inside))), rest)
      else if w == "qq" then return (.quoted (← textParts false fuel [] inside), rest)
      else if w == "qw" then return (.list ((wordsOf inside).map fun r => .value (.text r)), rest)
      else if w == "m" || w == "qr" then
        let (letters, rest) := lettersAt rest
        let parts ← if m == '\'' then .ok [.value (.text (String.ofList inside))]
          else textParts true fuel [] (withoutMark m inside)
        if w == "qr" then
          let kept := String.ofList (letters.toList.filter fun c => "imsx".toList.contains c)
          return (.quoted (.value (.text ("(?" ++ kept ++ ":")) :: parts ++ [.value (.text ")")]), rest)
        else return (.searched none false (.find (.quoted parts) letters), rest)
      else
        let ((put, n), rest) ← if closing m == m then marked w (m :: rest) else marked w (passed rest)
        let (letters, rest) := lettersAt rest
        if w == "s" then
          let pattern ← textParts true fuel [] (withoutMark m inside)
          let value : Expr ← if letters.toList.contains 'e' then do
              let (body, _) ← statements fuel [] put
              .ok (.body body)
            else if n == '\'' then .ok (.value (.text (String.ofList put)))
            else do
              let parts ← textParts false fuel [] (withoutMark n put)
              .ok (.quoted parts)
          return (.searched none false (.change (.quoted pattern) value letters), rest)
        else return (.searched none false (.turn (spread inside) (spread put) letters), rest)
    else if w == "my" || w == "our" || w == "local" || w == "state" then
      match after with
      | '(' :: inside => do
        let (es, rest) ← inBrackets fuel inside
        return (if w == "local" then .lent es else if w == "our" then .list es else .own es true, rest)
      | _ => do
        let (e, rest) ← term fuel after
        return (if w == "local" then .lent [e] else if w == "our" then e else .own [e] false, rest)
    else if w == "do" && after.head? == some '{' then do
      let (body, rest) ← braced fuel after
      return (.body body, rest)
    else if w == "eval" && after.head? == some '{' then do
      let (body, rest) ← braced fuel after
      return (.call line "eval" [.body body], rest)
    else if w == "print" || w == "printf" || w == "say" then
      match after with
      | '(' :: inside => do
        let (h, inside) ← handle fuel inside
        let (es, rest) ← inBrackets fuel inside
        return (.call line w (h :: es), rest)
      | _ => do
        let (h, after) ← handle fuel after
        let (es, rest) ← openList fuel after
        return (.call line w (h :: es), rest)
    else if w == "map" || w == "grep" || w == "sort" then
      match after with
      | '(' :: inside => do
        let (e, rest) ← mapping fuel w inside
        match passed rest with
        | ')' :: rest => return (e, rest)
        | rest => .error (.misplaced rest)
      | _ => mapping fuel w after
    else if withoutValues.contains w then
      match after with
      | '(' :: inside =>
        match passed inside with
        | ')' :: rest => .ok (.call line w [], rest)
        | _ => .ok (.call line w [], rest)
      | _ => .ok (.call line w [], rest)
    else if w == "__LINE__" then .ok (.value (.whole line), rest)
    else if w == "__FILE__" then .ok (.scalar "0", rest)
    else if w == "STDIN" || w == "STDOUT" || w == "STDERR" then .ok (.value (.text w), rest)
    else
      match after with
      | '(' :: inside => do
        let (es, rest) ← inBrackets fuel inside
        let e : Expr := .call line w es
        match rest with
        | '[' :: _ =>
          let ((inside, _), after) ← marked "]" rest
          let (i, _) ← low fuel inside
          return (.pick e i, after)
        | _ => return (e, rest)
      | _ =>
        if single.contains w then
          if endsHere after || (operatorAt? after).any (fun o => !(["<", "-", "%", "&", "/"].contains o.1)) then
            .ok (.call line w [], rest)
          else do
            let (a, rest) ← level fuel (levels.drop 7) after
            return (.call line w [a], rest)
        else if w.toList.all (fun c => c.isUpper || c.isDigit || c == '_') then .ok (.value (.text w), rest)
        else do
          let (es, rest) ← openList fuel rest
          return (.call line w es, rest)

/-- Reads values without brackets, if any come. -/
def openList : Nat → List Char → Except Fault (List Expr × List Char)
  | 0, cs => .error (.misplaced cs)
  | fuel + 1, cs =>
    let isOperator := (operatorAt? cs).any fun o => !(["<", "-", "%", "&", "/", "//", "<<", "+", "++", "--", "."].contains o.1)
    if endsHere cs || isOperator then .ok ([], cs)
    else do
      let (e, rest) ← commas fuel cs
      return ((match e with
        | .list es => if (passed cs).head? == some '(' then [.list es] else es
        | e => [e]), rest)

/-- Reads what a command writes to, if that is told. -/
def handle : Nat → List Char → Except Fault (Expr × List Char)
  | 0, cs => .error (.misplaced cs)
  | fuel + 1, cs =>
    let cs := passed cs
    let standard : Expr := .value (.text "")
    let w := wordAt cs
    let behind := behindWord cs
    let next := passed behind
    if !w.isEmpty && w.toList.all (fun c => c.isUpper || c == '_' || c.isDigit) && !w.startsWith "__" then
      let isHandle := w == "STDERR" || w == "STDOUT" ||
        (behind.head? == some ' ' && !next.isEmpty && !(",.;=)(".toList.contains (next.head?.getD ';')))
      if isHandle && next.head? != some ',' then .ok (.value (.text w), behind) else .ok (standard, cs)
    else
      match cs with
      | '{' :: _ => do
        let ((inside, _), rest) ← marked "\x7d" cs
        let (e, _) ← low fuel inside
        return (e, rest)
      | '$' :: rest =>
        match variableAt? rest with
        | some (name, ' ' :: after) =>
          let next := passed after
          if next.head?.any fun c => c == '"' || c == '\'' || c == '$' || c == '@' then .ok (.scalar name, after)
          else .ok (standard, cs)
        | _ => .ok (standard, cs)
      | _ => .ok (standard, cs)

/-- Reads a block or a value for each value of a list, and the list. -/
def mapping : Nat → Raw → List Char → Except Fault (Expr × List Char)
  | 0, _, cs => .error (.misplaced cs)
  | fuel + 1, w, cs =>
    let cs := passed cs
    let line := p.line cs
    if cs.head? == some '{' then do
      let (body, rest) ← braced fuel cs
      let rest := match passed rest with
        | ',' :: more => more
        | more => more
      let (es, rest) ← openList fuel rest
      return (.mapped w body (.list es), rest)
    else if w == "sort" then do
      let (es, rest) ← openList fuel cs
      return (.mapped w [] (.list es), rest)
    else do
      let (a, rest) ← assignment fuel cs
      match operatorAt? rest with
      | some (",", after) =>
        let (es, rest) ← more fuel [] after
        return (.mapped w [.run line a] (.list es), rest)
      | _ => .error (.misplaced rest)

/-- Reads a block in braces. -/
def braced : Nat → List Char → Except Fault (List Stmt × List Char)
  | 0, cs => .error (.misplaced cs)
  | fuel + 1, cs =>
    match passed cs with
    | '{' :: rest => do
      let (body, rest) ← statements fuel [] rest
      match passed rest with
      | '}' :: rest => return (body, rest)
      | rest => .error (if rest.isEmpty then .unclosed rest else .misplaced rest)
    | rest => .error (.misplaced rest)

/-- Reads statements up to a brace or the end. -/
def statements : Nat → List Stmt → List Char → Except Fault (List Stmt × List Char)
  | 0, _, cs => .error (.misplaced cs)
  | fuel + 1, done, cs =>
    match passed cs with
    | [] => .ok (done.reverse, [])
    | '}' :: rest => .ok (done.reverse, '}' :: rest)
    | ';' :: rest => statements fuel done rest
    | cs => do
      let (s, rest) ← statement fuel cs
      statements fuel (s ++ done) rest

/-- Reads a statement. Declarations that mean nothing are passed over. -/
def statement : Nat → List Char → Except Fault (List Stmt × List Char)
  | 0, cs => .error (.misplaced cs)
  | fuel + 1, cs =>
    let w := wordAt cs
    let rest := behindWord cs
    let after := passed rest
    let isLabel := !w.isEmpty && after.head? == some ':' && after.tail.head? != some ':' &&
      w.toList.all fun c => c.isUpper || c == '_' || c.isDigit
    let label : Raw := if isLabel then w else ""
    let cs := if isLabel then passed after.tail else cs
    let w := wordAt cs
    let rest := behindWord cs
    let after := passed rest
    if cs.head? == some '{' then do
      let (body, rest) ← braced fuel cs
      let (more, rest) ← continued fuel rest
      return (match more with
        | some b => [.block "" b, .block label body]
        | none => [.block label body], rest)
    else if w == "use" || w == "no" || w == "package" then
      .ok ([], (cs.dropWhile (· != ';')).drop 1)
    else if w == "sub" && !(wordAt after).isEmpty then do
      let (body, rest) ← braced fuel (behindWord after)
      return ([.define (wordAt after) body], rest)
    else if (w == "BEGIN" || w == "END") && after.head? == some '{' then do
      let (body, rest) ← braced fuel after
      return ([.define w body], rest)
    else if (w == "if" || w == "unless") && after.head? == some '(' then branches fuel (w == "unless") after
    else if (w == "while" || w == "until") && after.head? == some '(' then do
      let (es, rest) ← inBrackets fuel after.tail
      let (body, rest) ← braced fuel rest
      let (more, rest) ← continued fuel rest
      let c : Option Expr := match es with
        | [] => none
        | es => some (asCondition (match es with
          | [e] => e
          | es => .list es))
      return ([.loop label (if w == "until" then c.map (.unary "!") else c) body (more.map Expr.body)], rest)
    else if w == "for" || w == "foreach" then loopOver fuel label after
    else simple fuel cs

/-- Reads a block that is run behind each round of another. -/
def continued : Nat → List Char → Except Fault (Option (List Stmt) × List Char)
  | 0, cs => .error (.misplaced cs)
  | fuel + 1, cs =>
    if wordAt (passed cs) == "continue" then do
      let (body, rest) ← braced fuel (behindWord (passed cs))
      return (some body, rest)
    else .ok (none, cs)

/-- Reads a condition, what it decides, and what comes otherwise. -/
def branches : Nat → Bool → List Char → Except Fault (List Stmt × List Char)
  | 0, _, cs => .error (.misplaced cs)
  | fuel + 1, negated, cs =>
    match passed cs with
    | '(' :: rest => do
      let (es, rest) ← inBrackets fuel rest
      let (yes, rest) ← braced fuel rest
      let c : Expr := if negated then .unary "!" (.list es) else .list es
      let w := wordAt (passed rest)
      if w == "elsif" then
        let (no, rest) ← branches fuel false (behindWord (passed rest))
        return ([.branch c yes no], rest)
      else if w == "else" then
        let (no, rest) ← braced fuel (behindWord (passed rest))
        return ([.branch c yes no], rest)
      else return ([.branch c yes []], rest)
    | rest => .error (.misplaced rest)

/-- Reads a loop that counts or runs through a list. -/
def loopOver : Nat → Raw → List Char → Except Fault (List Stmt × List Char)
  | 0, _, cs => .error (.misplaced cs)
  | fuel + 1, label, cs =>
    let w := wordAt cs
    let isOwn := w == "my" || w == "our"
    let cs := if isOwn then passed (behindWord cs) else cs
    match cs with
    | '$' :: rest =>
      match variableAt? rest with
      | some (name, rest) =>
        match passed rest with
        | '(' :: rest => do
          let (es, rest) ← inBrackets fuel rest
          let (body, rest) ← braced fuel rest
          return ([.each label isOwn name (.list es) body], rest)
        | rest => .error (.misplaced rest)
      | none => .error (.misplaced cs)
    | '(' :: rest => do
      let part (cs : List Char) : Except Fault (Option Expr × List Char) :=
        match passed cs with
        | ';' :: _ | ')' :: _ => .ok (none, passed cs)
        | cs => do
          let (e, rest) ← low fuel cs
          return (some e, passed rest)
      let (a, rest) ← part rest
      match rest with
      | ';' :: rest =>
        let (c, rest) ← part rest
        match rest with
        | ';' :: rest =>
          let (s, rest) ← part rest
          match rest with
          | ')' :: rest =>
            let (body, rest) ← braced fuel rest
            let start : List Stmt := match a with
              | some e => [.run (p.line cs) e]
              | none => []
            return ([.block "" (start ++ [.loop label (c.map asCondition) body s])], rest)
          | rest => .error (.misplaced rest)
        | rest => .error (.misplaced rest)
      | ')' :: rest =>
        let (body, rest) ← braced fuel rest
        return ([.each label false "_" (a.getD (.list [])) body], rest)
      | rest => .error (.misplaced rest)
    | cs => .error (.misplaced cs)

/-- Reads a value with what it depends on, up to the end of the statement. -/
def simple : Nat → List Char → Except Fault (List Stmt × List Char)
  | 0, cs => .error (.misplaced cs)
  | fuel + 1, cs => do
    let line := p.line cs
    let (e, rest) ← low fuel cs
    let rest := passed rest
    let w := wordAt rest
    let (s, rest) : List Stmt × List Char ←
      if ["if", "unless", "while", "until", "for", "foreach"].contains w then do
        let (c, rest) ← low fuel (behindWord rest)
        let isAgain := match e with
          | .body _ => true
          | _ => false
        let body : List Stmt := match e with
          | .body b => if w == "while" || w == "until" then b else [.run line e]
          | e => [.run line e]
        let made : Stmt :=
          if w == "if" then .branch c body []
          else if w == "unless" then .branch (.unary "!" c) body []
          else if w == "for" || w == "foreach" then .each "" false "_" c body
          else
            let c := if w == "until" then .unary "!" c else asCondition c
            if isAgain then .again body c else .loop "" (some c) body none
        Except.ok ([made], passed rest)
      else Except.ok ([.run line e], rest)
    match rest with
    | ';' :: rest => return (s, rest)
    | [] => return (s, [])
    | '}' :: _ => return (s, rest)
    | rest => .error (.misplaced rest)

end

/-- Reads a whole script. -/
def script (text : Raw) : Except Fault (List Stmt) := do
  let cs := text.toList
  let (body, rest) ← statements { ends := cs.count '\n' } (8 * cs.length + 400) [] cs
  if rest.isEmpty then return body else .error (.misplaced rest)

end Host.Extract

end PolicyGate
