import PolicyGate.Host.Edit.Basic
import PolicyGate.Host.Regex.Written

/-!
# How edit scripts are written

Commands stand on lines of their own or behind semicolons, each behind its addresses. Every reader
gives the rest of the text; a failed one gives the text that was left when it failed, from which the
place of the fault follows.
-/

namespace PolicyGate

namespace Host.Edit

/-- A fault and the text behind it. -/
abbrev Refused := Fault × List Char

def isBlank (c : Char) : Bool := c == ' ' || c == '\t'

def isSpace (c : Char) : Bool := c == ' ' || ('\t' ≤ c && c ≤ '\r')

def skipSpaces (cs : List Char) : List Char := cs.dropWhile isSpace

def digitsValue (cs : List Char) : Nat := cs.foldl (fun n c => n * 10 + (c.toNat - 48)) 0

/-- Reads a numeral. -/
def number (cs : List Char) : Nat × List Char :=
  let ds := cs.takeWhile Char.isDigit
  (digitsValue ds, cs.drop ds.length)

/-- How a script is read. -/
structure Dialect where
  /-- Whether the marks of expressions have no backslash. -/
  extended : Bool := false
  /-- Whether only the commands and addresses are known that every such program has. -/
  strict : Bool := false
  /-- Whether no command may touch files or run programs. -/
  guarded : Bool := false

/-! ## Delimited parts -/

/-- The rest behind the inside of a set and its closing bracket, with what lies before, the last
first. A backslash in front of an `n` makes a newline. -/
def setRest? : Nat → List Char → List Char → Option (List Char × List Char)
  | 0, _, _ => none
  | fuel + 1, done, cs =>
    match cs with
    | [] => none
    | '\n' :: _ => none
    | ']' :: rest => some (']' :: done, rest)
    | '\\' :: 'n' :: rest => setRest? fuel ('\n' :: done) rest
    | '[' :: c :: rest =>
      if c == ':' || c == '.' || c == '=' then
        let name := rest.takeWhile fun d => d != c
        match rest.drop name.length with
        | d :: ']' :: more => setRest? fuel (']' :: d :: name.reverse ++ c :: '[' :: done) more
        | _ => setRest? fuel ('[' :: done) (c :: rest)
      else setRest? fuel ('[' :: done) (c :: rest)
    | c :: rest => setRest? fuel (c :: done) rest

/-- The part of a set behind its opening bracket, the last first, and what lies behind it. -/
def setText? (cs : List Char) : Option (List Char × List Char) :=
  let (done, cs) : List Char × List Char := if cs.head? == some '^' then (['^'], cs.tail) else ([], cs)
  let (done, cs) := if cs.head? == some ']' then (']' :: done, cs.tail) else (done, cs)
  setRest? (cs.length + 1) done cs

/-- Reads up to a delimiter that no backslash precedes. In an expression a delimiter inside a set does
not count. A delimiter behind a backslash loses the backslash. -/
def delimited (delimiter : Char) (expression : Bool) : Nat → List Char → List Char →
    Except (List Char) (List Char × List Char)
  | 0, _, cs => .error cs
  | _ + 1, _, [] => .error []
  | fuel + 1, done, c :: cs =>
    if c == delimiter then .ok (done.reverse, cs)
    else if c == '\\' then
      match cs with
      | [] => .error []
      | d :: rest =>
        if d == 'n' && expression then delimited delimiter expression fuel ('\n' :: done) rest
        else if d == '\n' || (d == delimiter && !(!expression && d == '&')) then
          delimited delimiter expression fuel (d :: done) rest
        else delimited delimiter expression fuel (d :: '\\' :: done) rest
    else if c == '\n' then .error (c :: cs)
    else if c == '[' && expression then
      match setText? cs with
      | some (inside, rest) => delimited delimiter expression fuel (inside ++ c :: done) rest
      | none => .error (cs.dropWhile (· != '\n'))
    else delimited delimiter expression fuel (c :: done) cs

def delimitedFrom (delimiter : Char) (expression : Bool) (cs : List Char) :
    Except (List Char) (List Char × List Char) :=
  delimited delimiter expression (cs.length + 1) [] cs

/-! ## Characters given by their numbers -/

def digitIn? (base : Nat) (c : Char) : Option Nat :=
  let v := if c.isDigit then c.toNat - 48
    else if 'a' ≤ c.toLower && c.toLower ≤ 'f' then c.toLower.toNat - 87 else base
  if v < base then some v else none

/-- Reads a number of up to some digits. -/
def numberIn (base most : Nat) (cs : List Char) : Option (Char × List Char) :=
  let ds := (cs.take most).takeWhile fun c => (digitIn? base c).isSome
  if ds.isEmpty then none
  else
    let v := ds.foldl (fun n c => n * base + (digitIn? base c).getD 0) 0
    some (Char.ofNat (v % 256), cs.drop ds.length)

/-- The character that an escape stands for in every part of a script. -/
def plainEscape? (cs : List Char) : Option (Char × List Char) :=
  match cs with
  | 'a' :: rest => some ('\x07', rest)
  | 'f' :: rest => some ('\x0c', rest)
  | 'r' :: rest => some ('\r', rest)
  | 't' :: rest => some ('\t', rest)
  | 'v' :: rest => some ('\x0b', rest)
  | 'x' :: rest => numberIn 16 2 rest
  | 'o' :: rest => numberIn 8 3 rest
  | 'd' :: rest => numberIn 10 3 rest
  | 'c' :: '\\' :: '\\' :: rest => some ('\x1c', rest)
  | ['c'] => some ('\\', [])
  | 'c' :: c :: rest => some (Char.ofNat (c.toUpper.toNat ^^^ 0x40), rest)
  | _ => none

/-- Whether an escape of a control character has another escape for its letter. -/
def nestsEscape : List Char → Bool
  | '\\' :: 'c' :: '\\' :: c :: rest => c != '\\' || nestsEscape rest
  | '\\' :: _ :: rest => nestsEscape rest
  | _ :: rest => nestsEscape rest
  | [] => false

/-- Puts characters for the escapes that stand for them, in an expression. -/
def plainEscapes : Nat → List Char → List Char
  | 0, cs => cs
  | _ + 1, [] => []
  | fuel + 1, '\\' :: cs =>
    match plainEscape? cs with
    | some (c, rest) => c :: plainEscapes fuel rest
    | none =>
      match cs with
      | [] => ['\\']
      | c :: rest => '\\' :: c :: plainEscapes fuel rest
  | fuel + 1, c :: cs => c :: plainEscapes fuel cs

/-! ## Expressions and what is put in -/

/-- The letters behind an expression: whether the case of letters matters, and whether the edges are
those of lines. -/
def expression? (d : Dialect) (fold byLine : Bool) (cs : List Char) : Except Fault (Option Expression) :=
  if cs.isEmpty then if fold || byLine then .error .emptyWithFlags else .ok none
  else if nestsEscape cs then .error .nestedEscape
  else
    let text := String.ofList (plainEscapes (cs.length + 1) cs)
    match Regex.parse { extended := d.extended, byLine } text with
    | .ok regex => .ok (some { regex, text, fold, byLine })
    | .error e => .error (.pattern e.message)

/-- The number of the last group in an expression. -/
def groupCount : Regex → Nat
  | .seq a b | .either a b => max (groupCount a) (groupCount b)
  | .many _ _ a => groupCount a
  | .group n a => max n (groupCount a)
  | _ => 0

/-- Reads what is put in for a part that fits. -/
def inserts : Nat → List Char → List Insert
  | 0, _ => []
  | _ + 1, [] => []
  | fuel + 1, '&' :: cs => .group 0 :: inserts fuel cs
  | fuel + 1, '\\' :: cs =>
    match plainEscape? cs with
    | some (c, rest) => .text c.toString :: inserts fuel rest
    | none =>
      match cs with
      | [] => [.text "\\"]
      | c :: rest =>
        (if c.isDigit then .group (c.toNat - 48)
          else if c == 'U' then .turn .upper
          else if c == 'L' then .turn .lower
          else if c == 'E' then .turn .asIs
          else if c == 'u' then .turnNext .upper
          else if c == 'l' then .turnNext .lower
          else if c == 'n' then .text "\n"
          else .text c.toString) :: inserts fuel rest
  | fuel + 1, c :: cs => .text c.toString :: inserts fuel cs

/-- What is put in, with the characters that escapes stand for. -/
def writtenInserts (cs : List Char) : Raw :=
  let rec newlines : List Char → List Char
    | '\\' :: 'n' :: rest => '\n' :: newlines rest
    | '\\' :: c :: rest => '\\' :: c :: newlines rest
    | c :: rest => c :: newlines rest
    | [] => []
  String.ofList (newlines (plainEscapes (cs.length + 1) cs))

/-- The largest group that is put in. -/
def largestGroup (is : List Insert) : Nat :=
  is.foldl (fun n i =>
    match i with
    | .group k => max n k
    | _ => n) 0

/-! ## Addresses -/

/-- Reads the letters behind an expression that is an address: what they say, and the rest. -/
def addressFlags (d : Dialect) : List Char → (Bool × Bool) × List Char
  | c :: cs =>
    if isBlank c then
      match addressFlags d cs with
      | ((false, false), _) => ((false, false), c :: cs)
      | r => r
    else if d.strict then ((false, false), c :: cs)
    else if c == 'I' then
      let ((_, byLine), rest) := addressFlags d cs
      ((true, byLine), rest)
    else if c == 'M' then
      let ((fold, _), rest) := addressFlags d cs
      ((fold, true), rest)
    else ((false, false), c :: cs)
  | [] => ((false, false), [])

/-- Reads an address. -/
def address (d : Dialect) (cs : List Char) : Except Refused (Option Address × List Char) :=
  let fitting (delimiter : Char) (rest : List Char) : Except Refused (Option Address × List Char) :=
    match delimitedFrom delimiter true rest with
    | .error left => .error (.unterminatedAddress, left)
    | .ok (inside, rest) =>
      let ((fold, byLine), rest) := addressFlags d rest
      match expression? d fold byLine inside with
      | .ok e => .ok (some (.fitting e), rest)
      | .error m => .error (m, rest)
  match cs with
  | '/' :: rest => fitting '/' rest
  | ['\\'] => .error (.unterminatedAddress, [])
  | '\\' :: c :: rest => fitting c rest
  | '$' :: rest => .ok (some .last, rest)
  | c :: _ =>
    if c.isDigit then
      let (n, rest) := number cs
      match rest.dropWhile isBlank with
      | '~' :: more =>
        if d.strict then .ok (some (.number n), rest)
        else
          let (step, rest) := number (more.dropWhile isBlank)
          .ok (some (if step = 0 then .number n else .every n step), rest)
      | _ => .ok (some (.number n), rest)
    else .ok (none, cs)
  | [] => .ok (none, [])

/-- Reads the end of a range behind its comma. -/
def stop (d : Dialect) (cs : List Char) : Except Refused (Stop × List Char) :=
  let relative (make : Nat → Stop) (rest : List Char) : Except Refused (Stop × List Char) :=
    if d.strict then .error (.unexpected ',', rest)
    else
      let (n, rest) := number (rest.dropWhile isBlank)
      .ok (make n, rest)
  match cs with
  | '+' :: rest => relative .later rest
  | '~' :: rest => relative .multiple rest
  | _ => do
    match ← address d cs with
    | (some a, rest) => return (.at a, rest)
    | (none, rest) => .error (.unexpected ',', rest.drop 1)

/-- Whether a command is bound to line 0 in a way that makes no sense. -/
def asksForLineZero (d : Dialect) (start : Option Address) (finish : Option Stop) : Bool :=
  match start, finish with
  | some (.number 0), some (.at (.fitting _)) => d.strict
  | some (.number 0), _ => true
  | _, _ => false

/-- Reads the addresses of a command. -/
def scope (d : Dialect) (cs : List Char) : Except Refused (Scope × List Char) := do
  match cs with
  | '+' :: rest | '~' :: rest =>
    if !d.strict then .error (.relativeFirst, (number (rest.dropWhile isBlank)).2)
  | _ => pure ()
  let (start, rest) ← address d cs
  let rest := if start.isSome then rest.dropWhile isBlank else rest
  let (finish, rest) : Option Stop × List Char ←
    match start, rest with
    | some _, ',' :: more => do
      let (s, rest) ← stop d (more.dropWhile isBlank)
      pure (some s, rest.dropWhile isBlank)
    | _, _ => pure (none, rest)
  if asksForLineZero d start finish then .error (.lineZero, rest.drop 1)
  match rest with
  | '!' :: more =>
    let rest := more.dropWhile isBlank
    if rest.head? == some '!' then .error (.repeatedNegation, rest.drop 1)
    else return (⟨start, finish, true⟩, rest)
  | _ => return (⟨start, finish, false⟩, rest)

/-! ## Commands -/

/-- Passes the end of a command. -/
def endOfCommand (cs : List Char) : Except Refused (List Char) :=
  match cs.dropWhile isBlank with
  | [] => .ok []
  | c :: rest =>
    if c == '}' || c == '#' then .ok (c :: rest)
    else if c == '\n' || c == ';' then .ok rest
    else .error (.extraCharacters, rest)

def upToLineEnd (cs : List Char) : List Char × List Char :=
  let line := cs.takeWhile (· != '\n')
  (line, cs.drop (line.length + 1))

/-- Reads a text that goes on over lines that end in a backslash. Every other backslash makes an
escape. -/
def lines : Nat → List Char → List Char → List Char × List Char
  | 0, done, cs => (done.reverse, cs)
  | _ + 1, done, [] => (done.reverse, [])
  | fuel + 1, done, c :: cs =>
    if c == '\n' then (done.reverse, cs)
    else if c == '\\' then
      match plainEscape? cs with
      | some (d, rest) => lines fuel (d :: done) rest
      | none =>
        match cs with
        | [] => (done.reverse, [])
        | d :: rest => lines fuel ((if d == 'n' then '\n' else d) :: done) rest
    else lines fuel (c :: done) cs

/-- Reads the text of a command that has one. -/
def textArgument (d : Dialect) (cs : List Char) : Except Refused (Raw × List Char) :=
  let finish (cs : List Char) : Except Refused (Raw × List Char) :=
    let (t, rest) := lines (cs.length + 1) [] cs
    .ok (String.ofList t ++ (if t.isEmpty && cs.isEmpty then "" else "\n"), rest)
  match cs.dropWhile isBlank with
  | [] => .error (.expectedBackslash, [])
  | '\\' :: rest =>
    match rest.dropWhile isBlank with
    | '\n' :: more => finish more
    | _ => finish rest
  | '\n' :: rest => .error (.expectedBackslash, rest)
  | c :: rest => if d.strict then .error (.expectedBackslash, rest) else finish (c :: rest)

structure Flags where
  all : Bool := false
  print : Bool := false
  fold : Bool := false
  byLine : Bool := false
  runs : Bool := false
  printFirst : Bool := false
  nth : Option Nat := none
  file : Option Raw := none

/-- Reads the flags behind a substitution. -/
def flags (d : Dialect) : Nat → Flags → List Char → Except Refused (Flags × List Char)
  | 0, f, cs => .ok (f, cs)
  | _ + 1, f, [] => .ok (f, [])
  | fuel + 1, f, c :: cs =>
    if c == 'g' then
      if f.all then .error (.repeatedFlag 'g', cs) else flags d fuel { f with all := true } cs
    else if c == 'p' then
      if (if f.runs then f.print else f.print || f.printFirst) then .error (.repeatedFlag 'p', cs)
      else flags d fuel { f with print := true } cs
    else if (c == 'i' || c == 'I') && !d.strict then flags d fuel { f with fold := true } cs
    else if (c == 'm' || c == 'M') && !d.strict then flags d fuel { f with byLine := true } cs
    else if c == 'e' && !d.strict then
      if d.guarded then .error (.refused, cs)
      else flags d fuel { f with runs := true, printFirst := f.print, print := false } cs
    else if c.isDigit then
      let (n, rest) := number (c :: cs)
      if f.nth.isSome then .error (.repeatedNumber, rest)
      else if n = 0 then .error (.zeroNumber, rest)
      else flags d fuel { f with nth := some n } rest
    else if c == 'w' then
      if d.guarded then .error (.refused, cs)
      else
        let (name, rest) := upToLineEnd (cs.dropWhile isBlank)
        if name.isEmpty then .error (.missingName, rest)
        else .ok ({ f with file := some (String.ofList name) }, rest)
    else if isBlank c then flags d fuel f cs
    else if c == '}' || c == '#' then .ok (f, c :: cs)
    else if c == '\n' || c == ';' || c == '\r' then .ok (f, cs)
    else .error (.unknownFlag, cs)

def substitution (d : Dialect) (cs : List Char) : Except Refused (Act × List Char) :=
  match cs with
  | [] => .error (.unterminated 's', [])
  | c :: rest =>
    match delimitedFrom c true rest with
    | .error left => .error (.unterminated 's', left)
    | .ok (pattern, rest) =>
      match delimitedFrom c false rest with
      | .error left => .error (.unterminated 's', left)
      | .ok (put, rest) => do
        let (f, after) ← flags d (rest.length + 1) {} rest
        if nestsEscape put then .error (.nestedEscape, after)
        match expression? d f.fold f.byLine pattern with
        | .error m => .error (m, after)
        | .ok e =>
          let is := inserts (put.length + 1) put
          if e.any fun e => groupCount e.regex < largestGroup is then
            .error (.badReference (largestGroup is), after)
          else
            return (.substitute
              { pattern := e, inserts := is, written := writtenInserts put, nth := f.nth, all := f.all
                print := f.print, runs := f.runs, printFirst := f.printFirst, file := f.file }, after)

/-- Reads one of the two texts of an exchange of letters. -/
def letters : Nat → List Char → List Char
  | 0, cs => cs
  | fuel + 1, '\\' :: cs =>
    match plainEscape? cs with
    | some (c, rest) => c :: letters fuel rest
    | none =>
      match cs with
      | 'n' :: rest => '\n' :: letters fuel rest
      | c :: rest => c :: letters fuel rest
      | [] => ['\\']
  | fuel + 1, c :: cs => c :: letters fuel cs
  | _ + 1, [] => []

def exchangeOfLetters (cs : List Char) : Except Refused (Act × List Char) :=
  match cs with
  | [] => .error (.unterminated 'y', [])
  | d :: rest =>
    match delimitedFrom d false rest with
    | .error left => .error (.unterminated 'y', left)
    | .ok (a, rest) =>
      match delimitedFrom d false rest with
      | .error left => .error (.unterminated 'y', left)
      | .ok (b, rest) => do
        let a := letters (a.length + 1) a
        let b := letters (b.length + 1) b
        if a.length != b.length then .error (.differentLengths, rest)
        else return (.exchangeLetters (a.zip b), ← endOfCommand rest)

/-- The commands of one letter that have no argument. -/
def plainActs : List (Char × Act) :=
  [('d', .delete), ('D', .deleteFirstLine), ('p', .print), ('P', .printFirstLine), ('=', .printNumber),
    ('F', .printName), ('n', .next), ('N', .appendNext), ('g', .get), ('G', .appendHeld), ('h', .hold),
    ('H', .appendToHeld), ('x', .exchange), ('z', .zap)]

def labelText (cs : List Char) : Raw × List Char :=
  let cs := cs.dropWhile isBlank
  let name := cs.takeWhile fun c => !isSpace c && c != ';' && c != '}'
  (String.ofList name, cs.drop name.length)

/-- Whether a version, written with dots, is newer than the one that is known here. -/
def isNewer (version : Raw) : Bool :=
  match (version.splitOn ".").map fun p => digitsValue (p.toList.takeWhile Char.isDigit) with
  | major :: minor :: more => 4 < major || (major == 4 && (9 < minor || (minor == 9 && !more.isEmpty)))
  | [major] => 4 < major
  | [] => false

/-- Reads a command behind its addresses. -/
def act (d : Dialect) (s : Scope) (c : Char) (cs : List Char) : Except Refused (Act × List Char) :=
  let text (make : Raw → Act) : Except Refused (Act × List Char) :=
    if d.strict && s.stop.isSome && c != 'c' then .error (.oneAddress, cs)
    else do
      let (t, rest) ← textArgument d cs
      return (make t, rest)
  let toLabel (make : Raw → Act) : Except Refused (Act × List Char) :=
    let (name, rest) := labelText cs
    .ok (make name, rest)
  let file (make : Raw → Act) : Except Refused (Act × List Char) :=
    if d.guarded then .error (.refused, cs)
    else
      let (name, rest) := upToLineEnd (cs.dropWhile isBlank)
      if name.isEmpty then .error (.missingName, rest) else .ok (make (String.ofList name), rest)
  let quits (silent : Bool) : Except Refused (Act × List Char) :=
    if s.stop.isSome then .error (.oneAddress, cs)
    else do
      let cs := cs.dropWhile isBlank
      let (n, rest) := number cs
      return (.quit (if rest.length < cs.length then some n else none) silent, ← endOfCommand rest)
  if d.strict && "eFvzLQTRW".toList.contains c then .error (.unknownCommand c, cs)
  else if d.strict && c == '=' && s.stop.isSome then .error (.oneAddress, cs)
  else
  match plainActs.lookup c with
  | some a => do return (a, ← endOfCommand cs)
  | none =>
    if c == 's' then substitution d cs
    else if c == 'y' then exchangeOfLetters cs
    else if c == 'a' then text .appendText
    else if c == 'i' then text .insertText
    else if c == 'c' then text .changeText
    else if c == 'b' then toLabel .jump
    else if c == 't' then toLabel .jumpIfReplaced
    else if c == 'T' then toLabel .jumpUnlessReplaced
    else if c == ':' then
      if s.start.isSome then .error (.noAddress, cs)
      else
        let (name, rest) := labelText cs
        if name.isEmpty then .error (.emptyLabel, rest) else .ok (.label name, rest)
    else if c == 'r' then file .readFile
    else if c == 'R' then file .readLine
    else if c == 'w' then file .writeFile
    else if c == 'W' then file .writeFirstLine
    else if c == 'q' then quits false
    else if c == 'Q' then quits true
    else if c == 'l' || c == 'L' then do
      let cs := cs.dropWhile isBlank
      let (n, rest) := number cs
      let a : Act := if c == 'L' then .obsolete c
        else .printVisibly (if rest.length < cs.length then some n else none)
      return (a, ← endOfCommand rest)
    else if c == 'e' then
      if d.guarded then .error (.refused, cs)
      else
        match cs.dropWhile isBlank with
        | [] => .ok (.execute "", [])
        | '\n' :: rest => .ok (.execute "", rest)
        | _ => do
          let (t, rest) ← textArgument d cs
          return (.execute t, rest)
    else .error (.unknownCommand c, cs)

/-- Reads commands to the end of the text, given how many blocks are open: the commands, and how many
blocks are open behind them. A block is opened with the size 0, which `closed` fills in. -/
def commands (d : Dialect) : Nat → Nat → List Char → Except Refused (List Command × Nat)
  | 0, depth, _ => .ok ([], depth)
  | fuel + 1, depth, cs =>
    match cs.dropWhile fun c => isSpace c || c == ';' with
    | [] => .ok ([], depth)
    | cs => do
      let (s, rest) ← scope d cs
      match rest with
      | [] => .error (.missingCommand, [])
      | c :: rest =>
        let following (a : Command) (depth : Nat) (rest : List Char) :
            Except Refused (List Command × Nat) := do
          let (more, depth) ← commands d fuel depth rest
          return (a :: more, depth)
        if c == '#' then
          if s.start.isSome then .error (.noAddressForComments, rest)
          else commands d fuel depth (upToLineEnd rest).2
        else if c == 'v' && !d.strict then
          let (version, rest) := labelText rest
          if isNewer version then .error (.newerVersion, rest) else commands d fuel depth rest
        else if c == '{' then following ⟨s, .block 0⟩ (depth + 1) rest
        else if c == '}' then
          if depth = 0 then .error (.unexpected '}', rest)
          else if s.start.isSome then .error (.noAddressForEnd, rest)
          else do following ⟨{}, .blockEnd⟩ (depth - 1) (← endOfCommand rest)
        else do
          let (a, rest) ← act d s c rest
          following ⟨s, a⟩ depth rest

/-- How many commands lie before the end of a block, given how many blocks are open in it. -/
def blockSize : Nat → List Command → Nat
  | _, [] => 0
  | depth, c :: cs =>
    match c.act, depth with
    | .blockEnd, 0 => 0
    | .blockEnd, d + 1 => blockSize d cs + 1
    | .block _, d => blockSize (d + 1) cs + 1
    | _, d => blockSize d cs + 1

/-- Fills in the sizes of blocks. -/
def closed : List Command → List Command
  | [] => []
  | c :: cs =>
    match c.act with
    | .block _ => { c with act := .block (blockSize 0 cs) } :: closed cs
    | _ => c :: closed cs

/-- A piece of a script: given in an argument, or the text of a file. -/
structure Piece where
  file : Option Raw := none
  text : Raw

/-- The complaint about a piece of a script, given its number among the arguments. -/
def refusal (number : Nat) (p : Piece) (e : Refused) : Raw :=
  let read := p.text.toList.take (p.text.length - e.2.length)
  match p.file with
  | some name =>
    let line := (read.dropLast.filter (· == '\n')).length + 1
    "file " ++ name ++ " line " ++ toString line ++ ": " ++ e.1.message
  | none =>
    "-e expression #" ++ toString number ++ ", char " ++ toString read.length ++ ": " ++ e.1.message

/-- Reads the pieces of a script, given the number of arguments before and how many blocks are open.
The number of the argument that opened the last block comes with them. -/
def pieces (d : Dialect) : Nat → Nat → Nat → List Piece → Except Raw (List Command)
  | _, depth, opener, [] =>
    if depth = 0 then .ok []
    else .error ("-e expression #" ++ toString opener ++ ", char 0: " ++ Fault.unmatchedBrace.message)
  | n, depth, opener, p :: ps =>
    let n := if p.file.isNone then n + 1 else n
    match commands d (p.text.length + 1) depth p.text.toList with
    | .error e => .error (refusal n p e)
    | .ok (cs, after) => do
      return cs ++ (← pieces d n after (if depth < after then n else opener) ps)

/-- Joins pieces of which the first ends in a backslash, so that its text goes on in the next. -/
def continued : List Piece → List Piece
  | [] => []
  | p :: ps =>
    match continued ps with
    | q :: more =>
      let slashes := p.text.toList.reverse.takeWhile (· == '\\')
      if slashes.length % 2 = 1 && p.file.isNone && q.file.isNone then
        { p with text := p.text ++ "\n" ++ q.text } :: more
      else p :: q :: more
    | [] => [p]

/-- Reads a script that is given in pieces. -/
def parse (d : Dialect) (ps : List Piece) : Except Raw (List Command) := do
  return closed (← pieces d 0 0 0 (continued ps))

/-- Whether the first line of a script asks not to show the workspace. -/
def asksForQuiet (ps : List Piece) : Bool :=
  (ps.head?.map (·.text)).any fun t => t.startsWith "#n"

end Host.Edit

end PolicyGate
