import PolicyGate.Host.Raw

/-!
# Words and operators of scripts

A script is cut into words and operators, each with the line it starts on. A word keeps its parts
apart, because quotes decide what is done with each: a quoted part is taken as it is, and what an
unquoted one expands to is cut into fields. A text that stands below a command is read where its
line ends, and belongs to the redirection that asks for it. Scripts are written in the plain notation
or in a richer one, which has more expansions and operators, rows of values, conditions between
double brackets and sums as commands.
-/

namespace PolicyGate

namespace Host.Shell

/-- What becomes of the value of a parameter, or stands for it if there is none. -/
inductive Fallback where
  | none
  /-- Another text. -/
  | use (onEmpty : Bool) (text : Raw)
  /-- The text where there is a value. -/
  | instead (onEmpty : Bool) (text : Raw)
  /-- Another text, which becomes the value. -/
  | assign (onEmpty : Bool) (text : Raw)
  /-- A complaint. -/
  | demand (onEmpty : Bool) (text : Raw)
  /-- The length of the value. -/
  | length
  /-- The value without what fits a pattern at its front or its back. -/
  | cut (back longest : Bool) (pattern : Raw)
  /-- A part of the value, from a place on. -/
  | slice (offset : Raw) (size : Option Raw)
  /-- The value with another text for what fits a pattern: the first part, all of them, the front or
  the back. -/
  | change (which : Char) (pattern put : Raw)
  /-- The value with its letters turned, the first or all that fit a pattern. -/
  | turn (sign : Char) (all : Bool) (pattern : Raw)
  /-- The value in another form. -/
  | shape (letter : Char)
  /-- Nothing that has a meaning. -/
  | bad
  deriving DecidableEq, Repr

/-- A part of a word. -/
inductive Part where
  | text (cs : Raw) (quoted : Bool)
  | param (name : Raw) (fallback : Fallback) (quoted : Bool)
  /-- The output of a script. -/
  | command (source : Raw) (quoted : Bool)
  | arithmetic (source : Raw) (quoted : Bool)
  /-- The values between brackets that a row gets. -/
  | row (source : Raw)
  /-- The place in a row that is given a value. -/
  | place (source : Raw)
  /-- A channel to a script that writes, or that reads. -/
  | process (source : Raw) (reads : Bool)
  deriving DecidableEq, Repr

abbrev Word := List Part

/-- Why a script cannot be read. -/
inductive SyntaxFault where
  | openQuote (mark : Char)
  | openBackQuote
  | openParen
  /-- The values of a row without the bracket that ends them. -/
  | openRow
  | openBrace
  | openArithmetic
  | badName
  | badLoopVariable
  /-- A condition between double brackets that is not complete. -/
  | badCondition (what : Raw)
  /-- A loop that counts without its three sums. -/
  | badCount
  /-- Something else had to come. -/
  | unexpected (what : Raw) (expected : Option Raw)
  deriving DecidableEq, Repr

def SyntaxFault.message : SyntaxFault → Raw
  | .openQuote _ => "Syntax error: Unterminated quoted string"
  | .openBackQuote => "Syntax error: EOF in backquote substitution"
  | .openParen | .openRow => "Syntax error: end of file unexpected (expecting \")\")"
  | .openBrace => "Syntax error: Missing '\x7d'"
  | .openArithmetic => "Syntax error: Missing '))'"
  | .badName => "Syntax error: Bad function name"
  | .badLoopVariable => "Syntax error: Bad for loop variable"
  | .badCondition what => what
  | .badCount => "Syntax error: Bad for loop variable"
  | .unexpected what expected =>
    "Syntax error: " ++ what ++ " unexpected" ++
      (match expected with
        | some e => " (expecting " ++ e ++ ")"
        | none => "")

inductive Token where
  | word (w : Word)
  | operator (s : String)
  /-- A redirection of a descriptor. -/
  | redirect (descriptor : Option Nat) (s : String)
  /-- A text below the command, by its number. -/
  | below (descriptor : Option Nat) (number : Nat)
  /-- A sum between double brackets. -/
  | sum (source : Raw)
  | newline
  /-- The end of the script. -/
  | finish
  /-- A place from which on nothing can be read. -/
  | broken (f : SyntaxFault)
  deriving DecidableEq, Repr

/-- A token and the line it starts on. -/
structure Lexeme where
  line : Nat
  token : Token
  deriving DecidableEq, Repr

def isNameStart (c : Char) : Bool := c.isAlpha || c == '_'
def isNamePart (c : Char) : Bool := c.isAlphanum || c == '_'

def isName (r : Raw) : Bool := r.toList.head?.any isNameStart && r.toList.all isNamePart

/-! ## Passing nested parts -/

/-- What has been passed, in reverse, and the rest. -/
abbrev Passed := List Char × List Char

mutual

/-- Passes a text in double quotes after the first of them. -/
def passDouble : Nat → List Char → List Char → Option Passed
  | 0, _, _ => none
  | _ + 1, _, [] => none
  | fuel + 1, done, c :: cs =>
    if c == '"' then some (c :: done, cs)
    else if c == '\\' then
      match cs with
      | [] => none
      | d :: rest => passDouble fuel (d :: c :: done) rest
    else
      match passNested fuel true (c :: done) c cs with
      | some (done, rest) => passDouble fuel done rest
      | none => none

/-- Passes what a character starts, if it starts something. -/
def passNested : Nat → Bool → List Char → Char → List Char → Option Passed
  | 0, _, _, _, _ => none
  | fuel + 1, quoted, done, c, cs =>
    if c == '$' then
      match cs with
      | '(' :: rest => passParen fuel 0 0 [] ('(' :: done) rest
      | '{' :: rest => passBrace fuel quoted ('{' :: done) rest
      | _ => some (done, cs)
    else if c == '\x60' then passBack fuel done cs
    else some (done, cs)

/-- Passes a text up to a back quote. -/
def passBack : Nat → List Char → List Char → Option Passed
  | 0, _, _ => none
  | _ + 1, _, [] => none
  | fuel + 1, done, c :: cs =>
    if c == '\x60' then some (c :: done, cs)
    else if c == '\\' then
      match cs with
      | [] => none
      | d :: rest => passBack fuel (d :: c :: done) rest
    else passBack fuel (c :: done) cs

/-- Passes up to the brace that closes an open one. -/
def passBrace : Nat → Bool → List Char → List Char → Option Passed
  | 0, _, _, _ => none
  | _ + 1, _, _, [] => none
  | fuel + 1, quoted, done, c :: cs =>
    if c == '}' then some (c :: done, cs)
    else if c == '\\' then
      match cs with
      | [] => none
      | d :: rest => passBrace fuel quoted (d :: c :: done) rest
    else if c == '\'' && !quoted then
      let inside := cs.takeWhile (· != '\'')
      match cs.drop inside.length with
      | [] => none
      | q :: rest => passBrace fuel quoted (q :: inside.reverse ++ c :: done) rest
    else if c == '"' then
      match passDouble fuel (c :: done) cs with
      | some (done, rest) => passBrace fuel quoted done rest
      | none => none
    else
      match passNested fuel quoted (c :: done) c cs with
      | some (done, rest) => passBrace fuel quoted done rest
      | none => none

/-- Passes up to the bracket that closes an open one, given how many brackets and how many choices are
open, and the letters of the word that is open. The bracket behind a pattern of a choice closes
none. -/
def passParen : Nat → Nat → Nat → List Char → List Char → List Char → Option Passed
  | 0, _, _, _, _, _ => none
  | _ + 1, _, _, _, _, [] => none
  | fuel + 1, depth, choices, letters, done, c :: cs =>
    let isSeparator := " \t\n;&|()".toList.contains c
    let choices :=
      if !isSeparator then choices
      else if letters == ['e', 's', 'a', 'c'] then choices + 1
      else if letters == ['c', 'a', 's', 'e'] then choices - 1
      else choices
    if c == ')' && depth = 0 && choices = 0 then some (c :: done, cs)
    else if c == ')' then passParen fuel (depth - 1) choices [] (c :: done) cs
    else if c == '(' then passParen fuel (depth + 1) choices [] (c :: done) cs
    else if isSeparator then passParen fuel depth choices [] (c :: done) cs
    else if c == '#' && letters.isEmpty then
      let inside := cs.takeWhile (· != '\n')
      passParen fuel depth choices [] (inside.reverse ++ c :: done) (cs.drop inside.length)
    else if c == '\\' then
      match cs with
      | [] => none
      | d :: rest => passParen fuel depth choices ('\\' :: letters) (d :: c :: done) rest
    else if c == '\'' then
      let inside := cs.takeWhile (· != '\'')
      match cs.drop inside.length with
      | [] => none
      | q :: rest =>
        passParen fuel depth choices ('\\' :: letters) (q :: inside.reverse ++ c :: done) rest
    else if c == '"' then
      match passDouble fuel (c :: done) cs with
      | some (done, rest) => passParen fuel depth choices ('\\' :: letters) done rest
      | none => none
    else
      match passNested fuel false (c :: done) c cs with
      | some (done, rest) => passParen fuel depth choices (c :: letters) done rest
      | none => none

end

/-- The text before the last character that was passed. -/
def insideOf (p : Passed) : Raw := String.ofList (p.1.drop 1).reverse

/-! ## Expansions -/

/-- The name at the front of an expansion. In the rich notation a place in a row may follow it. -/
def paramName (rich : Bool) (cs : List Char) : List Char :=
  let special := cs.head?.any fun c => "@*#?$!-".toList.contains c
  if special then cs.take 1
  else if cs.head?.any Char.isDigit then cs.takeWhile Char.isDigit
  else
    let name := cs.takeWhile isNamePart
    match cs.drop name.length with
    | '[' :: rest =>
      if !rich || name.isEmpty then name
      else
        match passBracket (rest.length + 1) 0 ['['] rest with
        | some (done, _) => name ++ done.reverse
        | none => name
    | _ => name
where
  /-- Passes up to the bracket that closes an open one. -/
  passBracket : Nat → Nat → List Char → List Char → Option Passed
    | 0, _, _, _ => none
    | _ + 1, _, _, [] => none
    | fuel + 1, depth, done, c :: cs =>
      if c == ']' then
        if depth = 0 then some (c :: done, cs) else passBracket fuel (depth - 1) (c :: done) cs
      else if c == '[' then passBracket fuel (depth + 1) (c :: done) cs
      else if c == '\\' then passBracket fuel depth (cs.take 1 ++ c :: done) (cs.drop 1)
      else if c == '\'' then
        let inside := cs.takeWhile (· != '\'')
        passBracket fuel depth ((cs.drop inside.length).take 1 ++ inside.reverse ++ c :: done)
          (cs.drop (inside.length + 1))
      else if c == '"' then
        match passDouble (cs.length + 1) (c :: done) cs with
        | some (done, rest) => passBracket fuel depth done rest
        | none => none
      else
        match passNested (cs.length + 2) false (c :: done) c cs with
        | some (done, rest) => passBracket fuel depth done rest
        | none => none

/-- Splits a text at the first sign outside of quotes and nested expansions. -/
def splitOutside (sign : Char) : Nat → List Char → List Char → List Char × Option (List Char)
  | 0, done, _ => (done.reverse, none)
  | _ + 1, done, [] => (done.reverse, none)
  | fuel + 1, done, c :: cs =>
    if c == sign then (done.reverse, some cs)
    else if c == '\\' then splitOutside sign fuel (cs.take 1 ++ c :: done) (cs.drop 1)
    else if c == '\'' then
      let inside := cs.takeWhile (· != '\'')
      splitOutside sign fuel ((cs.drop inside.length).take 1 ++ inside.reverse ++ c :: done)
        (cs.drop (inside.length + 1))
    else
      let passed := if c == '"' then passDouble (cs.length + 1) (c :: done) cs
        else if c == '(' then passParen (cs.length + 1) 0 0 [] (c :: done) cs
        else passNested (cs.length + 2) false (c :: done) c cs
      match passed with
      | some (done, rest) => splitOutside sign fuel done rest
      | none => splitOutside sign fuel (c :: done) cs

/-- What the rich notation can say behind the name of a parameter, beside what the plain one can. -/
def richFallback? (rest : List Char) : Option Fallback :=
  let split (sign : Char) (t : List Char) : Raw × Option Raw :=
    let (a, b) := splitOutside sign (t.length + 1) [] t
    (String.ofList a, b.map String.ofList)
  let change (which : Char) (t : List Char) : Fallback :=
    let (pattern, put) := split '/' t
    .change which pattern (put.getD "")
  match rest with
  | ':' :: t =>
    if t.head?.any fun c => c == '-' || c == '=' || c == '?' || c == '+' then none
    else
      let (offset, size) := split ':' t
      some (.slice offset size)
  | '/' :: '/' :: t =>
    match t with
    | '/' :: _ => some (.change 'a' "/" (String.ofList (t.drop 2)))
    | _ => some (change 'a' t)
  | '/' :: '#' :: t => some (change '#' t)
  | '/' :: '%' :: t => some (change '%' t)
  | '/' :: t => some (change '/' t)
  | ['@', c] => some (.shape c)
  | c :: t =>
    if c == '^' || c == ',' || c == '~' then
      if t.head? == some c then some (.turn c true (String.ofList t.tail))
      else some (.turn c false (String.ofList t))
    else none
  | [] => none

/-- Reads what stands between the braces of an expansion. -/
def bracedParam (rich quoted : Bool) (inside : Raw) : Part :=
  let cs := inside.toList
  match cs with
  | ['#'] => .param "#" .none quoted
  | '#' :: rest =>
    let name := paramName rich rest
    if !name.isEmpty && name.length = rest.length then .param (String.ofList rest) .length quoted
    else ofRest "#" rest
  | '!' :: rest =>
    let name := if rich then paramName rich rest else []
    if name.isEmpty then ofRest "!" rest
    else
      let after := rest.drop name.length
      if after == ['*'] || after == ['@'] then
        .param ("!" ++ String.ofList (name ++ after)) .none quoted
      else ofRest ("!" ++ String.ofList name) after
  | _ =>
    let name := paramName rich cs
    if name.isEmpty then .param inside .bad quoted
    else ofRest (String.ofList name) (cs.drop name.length)
where
  ofRest (n : Raw) (rest : List Char) : Part :=
    match if rich then richFallback? rest else none with
    | some f => .param n f quoted
    | none =>
      match rest with
      | [] => .param n .none quoted
      | ':' :: '-' :: t => .param n (.use true (String.ofList t)) quoted
      | ':' :: '=' :: t => .param n (.assign true (String.ofList t)) quoted
      | ':' :: '?' :: t => .param n (.demand true (String.ofList t)) quoted
      | ':' :: '+' :: t => .param n (.instead true (String.ofList t)) quoted
      | '-' :: t => .param n (.use false (String.ofList t)) quoted
      | '=' :: t => .param n (.assign false (String.ofList t)) quoted
      | '?' :: t => .param n (.demand false (String.ofList t)) quoted
      | '+' :: t => .param n (.instead false (String.ofList t)) quoted
      | '#' :: '#' :: t => .param n (.cut false true (String.ofList t)) quoted
      | '#' :: t => .param n (.cut false false (String.ofList t)) quoted
      | '%' :: '%' :: t => .param n (.cut true true (String.ofList t)) quoted
      | '%' :: t => .param n (.cut true false (String.ofList t)) quoted
      | _ => .param (if rich then inside else n) .bad quoted

/-! ## Texts with escapes -/

def octalDigit (c : Char) : Bool := '0' ≤ c && c ≤ '7'

def hexDigit? (c : Char) : Option Nat :=
  if c.isDigit then some (c.toNat - 48)
  else if 'a' ≤ c.toLower && c.toLower ≤ 'f' then some (c.toLower.toNat - 87) else none

/-- The bytes of a character, each as a character. -/
def charBytes (n : Nat) : List Char :=
  (Raw.ofText (Char.ofNat n).toString).toList

/-- Reads a text in single quotes in which a backslash starts an escape: the text and what lies behind
it. -/
def escapedText : Nat → List Char → List Char → Option Passed
  | 0, _, _ => none
  | _ + 1, _, [] => none
  | fuel + 1, done, c :: cs =>
    if c == '\'' then some (done, cs)
    else if c != '\\' then escapedText fuel (c :: done) cs
    else
      let number (base most : Nat) (cs : List Char) : Nat × List Char :=
        let ds := (cs.take most).takeWhile fun d => (hexDigit? d).any (· < base)
        (ds.foldl (fun n d => n * base + (hexDigit? d).getD 0) 0, cs.drop ds.length)
      match cs with
      | [] => none
      | d :: rest =>
        let plain : Option Char :=
          match d with
          | 'a' => some '\x07'
          | 'b' => some '\x08'
          | 'e' | 'E' => some '\x1b'
          | 'f' => some '\x0c'
          | 'n' => some '\n'
          | 'r' => some '\r'
          | 't' => some '\t'
          | 'v' => some '\x0b'
          | '\\' | '\'' | '"' | '?' => some d
          | _ => none
        match plain with
        | some e => escapedText fuel (e :: done) rest
        | none =>
          if octalDigit d then
            let (n, after) := number 8 3 cs
            escapedText fuel (Char.ofNat (n % 256) :: done) after
          else if d == 'x' && rest.head?.any (fun e => (hexDigit? e).isSome) then
            let (n, after) := number 16 2 rest
            escapedText fuel (Char.ofNat n :: done) after
          else if (d == 'u' || d == 'U') && rest.head?.any (fun e => (hexDigit? e).isSome) then
            let (n, after) := number 16 (if d == 'u' then 4 else 8) rest
            escapedText fuel ((charBytes n).reverse ++ done) after
          else if d == 'c' then
            match rest with
            | e :: after => escapedText fuel (Char.ofNat (e.toNat % 32) :: done) after
            | [] => none
          else escapedText fuel (d :: '\\' :: done) rest

/-- Reads an expansion after its dollar sign. -/
def expansion (rich quoted : Bool) (cs : List Char) : Except SyntaxFault (Part × List Char) :=
  let fuel := cs.length + 2
  let script (rest : List Char) : Except SyntaxFault (Part × List Char) :=
    match passParen fuel 0 0 [] [] rest with
    | some p => .ok (.command (insideOf p) quoted, p.2)
    | none => .error .openParen
  match cs with
  | '(' :: '(' :: rest =>
    match passParen fuel 0 0 ['\\'] [] rest with
    | some (done, ')' :: after) => .ok (.arithmetic (insideOf (done, [])) quoted, after)
    | some _ =>
      if rich then (script ('(' :: rest)).mapError fun _ => .openArithmetic else .error .openArithmetic
    | none => .error .openArithmetic
  | '(' :: rest => script rest
  | '{' :: rest =>
    match passBrace fuel quoted [] rest with
    | some p => .ok (bracedParam rich quoted (insideOf p), p.2)
    | none => .error .openBrace
  | c :: rest =>
    if isNameStart c then
      let name := c :: rest.takeWhile isNamePart
      .ok (.param (String.ofList name) .none quoted, rest.dropWhile isNamePart)
    else if c.isDigit || "@*#?$!-".toList.contains c then
      .ok (.param c.toString .none quoted, rest)
    else if rich && c == '[' then
      match paramName.passBracket fuel 0 [] rest with
      | some (done, after) => .ok (.arithmetic (String.ofList (done.drop 1).reverse) quoted, after)
      | none => .ok (.text "$" quoted, c :: rest)
    else if rich && !quoted && c == '\'' then
      match escapedText fuel [] rest with
      | some (done, after) => .ok (.text (String.ofList (done.reverse.takeWhile (· != '\x00'))) true, after)
      | none => .error (.openQuote '\'')
    else if rich && !quoted && c == '"' then .ok (.text "" true, c :: rest)
    else .ok (.text "$" quoted, c :: rest)
  | [] => .ok (.text "$" quoted, [])

/-- The script between back quotes. A backslash counts there only before some characters. -/
def withoutBackslashes (quoted : Bool) : List Char → List Char
  | '\\' :: c :: cs =>
    if c == '$' || c == '\x60' || c == '\\' || (quoted && c == '"') then
      c :: withoutBackslashes quoted cs
    else '\\' :: c :: withoutBackslashes quoted cs
  | c :: cs => c :: withoutBackslashes quoted cs
  | [] => []

/-- Reads a script between back quotes after the first of them. -/
def backQuoted (quoted : Bool) (cs : List Char) : Except SyntaxFault (Part × List Char) :=
  match passBack (cs.length + 1) [] cs with
  | some p =>
    .ok (.command (String.ofList (withoutBackslashes quoted (insideOf p).toList)) quoted, p.2)
  | none => .error .openBackQuote

/-- Adds a character to the last part of a word, the parts in reverse. -/
def addChar (c : Char) (quoted : Bool) : Word → Word
  | .text s q :: rest =>
    if q = quoted then .text (s.push c) q :: rest
    else .text c.toString quoted :: .text s q :: rest
  | w => .text c.toString quoted :: w

/-- Reads a text in double quotes into a word, or one that is written like the inside of double quotes
and goes to the end. -/
def doubleQuoted (rich closing : Bool) : Nat → Word → List Char → Except SyntaxFault (Word × List Char)
  | 0, _, _ => .error (.openQuote '"')
  | _ + 1, w, [] => if closing then .error (.openQuote '"') else .ok (w, [])
  | fuel + 1, w, c :: cs =>
    if c == '"' && closing then .ok (w, cs)
    else if c == '\\' then
      match cs with
      | [] => if closing then .error (.openQuote '"') else .ok (addChar c true w, [])
      | d :: rest =>
        if d == '\n' then doubleQuoted rich closing fuel w rest
        else if d == '$' || d == '\\' || d == '\x60' || (d == '"' && closing) then
          doubleQuoted rich closing fuel (addChar d true w) rest
        else doubleQuoted rich closing fuel (addChar d true (addChar c true w)) rest
    else if c == '$' then
      match expansion rich true cs with
      | .error e => .error e
      | .ok (p, rest) => doubleQuoted rich closing fuel (p :: w) rest
    else if c == '\x60' then
      match backQuoted true cs with
      | .error e => .error e
      | .ok (p, rest) => doubleQuoted rich closing fuel (p :: w) rest
    else doubleQuoted rich closing fuel (addChar c true w) cs

/-- The word that a text is in which only quotes and expansions mean something. Inside double quotes
single ones mean nothing, and double ones end the quotes for a while. -/
def wordOf (rich quoted : Bool) : Nat → Word → List Char → Except SyntaxFault Word
  | 0, w, _ => .ok w.reverse
  | _ + 1, w, [] => .ok w.reverse
  | fuel + 1, w, c :: cs =>
    if c == '\'' && !quoted then
      let inside := cs.takeWhile (· != '\'')
      wordOf rich quoted fuel (.text (String.ofList inside) true :: w) (cs.drop (inside.length + 1))
    else if c == '"' then
      match doubleQuoted rich true (cs.length + 1) (.text "" true :: w) cs with
      | .error e => .error e
      | .ok (w, rest) => wordOf rich quoted fuel w rest
    else if c == '\\' then
      match cs with
      | [] => .ok (addChar c true w).reverse
      | d :: rest =>
        if d == '\n' then wordOf rich quoted fuel w rest
        else if quoted && !("$\"\\\x7d".toList.contains d || d == '\x60') then
          wordOf rich quoted fuel (addChar d true (addChar c true w)) rest
        else wordOf rich quoted fuel (addChar d true w) rest
    else if c == '$' then
      match expansion rich quoted cs with
      | .error e => .error e
      | .ok (p, rest) => wordOf rich quoted fuel (p :: w) rest
    else if c == '\x60' then
      match backQuoted quoted cs with
      | .error e => .error e
      | .ok (p, rest) => wordOf rich quoted fuel (p :: w) rest
    else wordOf rich quoted fuel (addChar c quoted w) cs

/-! ## Texts below commands -/

/-- A text that is to come below a command. -/
structure Below where
  number : Nat
  /-- The line that ends it. -/
  last : Raw
  /-- Whether it is taken as it is. -/
  literal : Bool
  /-- Whether tabs in front of its lines are dropped. -/
  dropTabs : Bool

/-- The text of a word and whether any of it is quoted. -/
def delimiterOf (w : Word) : Raw × Bool :=
  (String.join (w.map fun p =>
    match p with
    | .text t _ => t
    | .param n _ _ => "$" ++ n
    | .command s _ => "$(" ++ s ++ ")"
    | .arithmetic s _ => "$((" ++ s ++ "))"
    | .row s => "(" ++ s ++ ")"
    | .place s => "[" ++ s ++ "]"
    | .process s reads => (if reads then ">(" else "<(") ++ s ++ ")"),
  w.any fun p =>
    match p with
    | .text _ q => q
    | _ => false)

/-- Reads lines up to the one that ends the text: the text, how many lines that takes, and the
rest. -/
def linesBelow (b : Below) : Nat → List Char → Nat → List Char → List Char × Nat × List Char
  | 0, done, n, cs => (done, n, cs)
  | _ + 1, done, n, [] => (done, n, [])
  | fuel + 1, done, n, cs =>
    let whole := cs.takeWhile (· != '\n')
    let line := if b.dropTabs then whole.dropWhile (· == '\t') else whole
    let rest := cs.drop (whole.length + 1)
    let ended := whole.length < cs.length
    if String.ofList line == b.last then (done, n + 1, rest)
    else linesBelow b fuel (done ++ line ++ (if ended then ['\n'] else [])) (n + 1) rest

/-- Reads a text below a command. -/
def textBelow (rich : Bool) (b : Below) (cs : List Char) : Except SyntaxFault (Word × Nat × List Char) :=
  let (text, n, rest) := linesBelow b (cs.length + 1) [] 0 cs
  if b.literal then .ok ([.text (String.ofList text) true], n, rest)
  else do
    let (w, _) ← doubleQuoted rich false (text.length + 1) [.text "" true] text
    return (w.reverse, n, rest)

/-! ## Tokens -/

/-- The operators, the longer ones first. -/
def operators : List String := ["&&", "||", ";;", "&", "|", ";", "(", ")"]
def redirects : List String := ["<<-", ">>", ">&", ">|", "<&", "<<", "<>", ">", "<"]

/-- The operators of the rich notation. -/
def richOperators : List String := [";;&", ";&", "|&"] ++ operators
def richRedirects : List String := ["&>>", "&>", "<<<"] ++ redirects

def operatorAt? (ops : List String) (cs : List Char) : Option String :=
  ops.find? fun o => o.toList.isPrefixOf cs

structure Scan where
  rest : List Char
  rich : Bool := false
  line : Nat := 1
  /-- The word that is open, its parts in reverse. -/
  word : Option Word := none
  /-- The tokens, in reverse. -/
  done : List Lexeme := []
  /-- The texts that are to come below this line, and whether the next word ends one, with its
  descriptor. -/
  waiting : List Below := []
  ending : Option (Bool × Option Nat) := none
  texts : List (Nat × Word) := []
  /-- Whether a condition between double brackets is open. -/
  condition : Bool := false
  /-- Whether patterns may have groups, and whether they may from the next line on. -/
  grouped : Bool := false
  groupsNext : Bool := false

/-- The words behind which a command may start. -/
def openingWords : List Raw :=
  ["if", "then", "else", "elif", "do", "while", "until", "!", "\x7b", "time", "coproc"]

/-- Whether a command may start behind some tokens, the last of them first. -/
def commandMayStart : List Lexeme → Bool
  | [] => true
  | l :: _ =>
    match l.token with
    | .newline | .operator _ => true
    | .word [.text t false] => openingWords.contains t
    | _ => false

namespace Scan

def push (s : Scan) (t : Token) : Scan := { s with done := ⟨s.line, t⟩ :: s.done }

/-- Ends the open word. -/
def finish (s : Scan) : Scan :=
  match s.word with
  | none => s
  | some w =>
    let s := { s with word := none }
    match s.ending with
    | none =>
      let condition := match w with
        | [.text "[[" false] => s.condition || (s.rich && commandMayStart s.done)
        | [.text "]]" false] => false
        | _ => s.condition
      let groupsNext := s.groupsNext || (s.rich && w == [.text "extglob" false])
      { s with condition, groupsNext }.push (.word w.reverse)
    | some (dropTabs, d) =>
      let (last, literal) := delimiterOf w.reverse
      let number := s.texts.length + s.waiting.length
      { s with waiting := s.waiting ++ [({ number, last, literal, dropTabs } : Below)], ending := none }.push
        (.below d number)

def open_ (s : Scan) : Word := s.word.getD []

/-- Goes on at a later place of the same line. -/
def at_ (s : Scan) (rest : List Char) : Scan := { s with rest }

/-- Goes on at a later place of the text. -/
def past (s : Scan) (rest : List Char) : Scan :=
  let passed := s.rest.take (s.rest.length - rest.length)
  { s with rest, line := s.line + passed.count '\n' }

/-- Reads the texts that are to come here. -/
def readBelow : List Below → Scan → Except SyntaxFault Scan
  | [], s => .ok { s with waiting := [] }
  | b :: bs, s => do
    let (w, n, rest) ← textBelow s.rich b s.rest
    readBelow bs { s with rest, line := s.line + n, texts := s.texts ++ [(b.number, w)] }

/-- The word that is open without the sign that adds to a value, if it is the front of an
assignment. -/
def assigns (s : Scan) : Bool :=
  match s.word with
  | some (.text t false :: rest) =>
    t.endsWith "=" &&
      (let name := (t.dropEnd 1).toString
       let name := if name.endsWith "+" then (name.dropEnd 1).toString else name
       match rest with
       | [] => isName name
       | [.place _, .text n false] => name.isEmpty && isName n
       | _ => false)
  | _ => false

/-- Whether the word that is open is the name of a row whose place comes next. -/
def namesRow (s : Scan) : Bool :=
  match s.word with
  | some [.text t false] => isName t
  | _ => false

/-- Reads what only the rich notation has, if that is what comes. -/
def richStep? (s : Scan) (c : Char) (cs : List Char) : Option (Except SyntaxFault Scan) :=
  let fuel := cs.length + 2
  let isPattern : Bool := (s.condition || s.grouped) && s.word.isSome
  let afterMatch : Bool := match s.done with
    | ⟨_, .word [.text "=~" false]⟩ :: _ => s.condition
    | _ => false
  if s.condition && afterMatch && (c == '(' || c == '|' || c == '<' || c == '>' || c == ';' || c == '&') then
    if c == '(' then
      match passParen fuel 0 0 ['\\'] [] cs with
      | some (done, rest) =>
        match wordOf true false (done.length + 1) [] ('(' :: done.reverse) with
        | .ok w => some (.ok ({ s with word := some (w.reverse ++ s.open_) }.past rest))
        | .error e => some (.error e)
      | none => some (.error .openParen)
    else some (.ok ({ s with word := some (addChar c false s.open_) }.at_ cs))
  else if s.condition && (c == '<' || c == '>') then some (.ok ((s.finish.push (.operator c.toString)).at_ cs))
  else if isPattern && c == '(' && s.word.any (fun w =>
      match w with
      | .text t false :: _ => ["@", "?", "*", "+", "!"].any fun e => t.endsWith e
      | _ => false) then
    match passParen fuel 0 0 ['\\'] [] cs with
    | some (done, rest) =>
      some (.ok ({ s with word := some (.text (String.ofList ('(' :: done.reverse)) false :: s.open_) }.past rest))
    | none => some (.error .openParen)
  else if c == '(' && s.assigns then
    match passParen fuel 0 0 [] [] cs with
    | some p => some (.ok ({ s with word := some (.row (insideOf p) :: s.open_) }.past p.2))
    | none => some (.error .openRow)
  else if c == '[' && s.namesRow && !s.condition then
    match paramName.passBracket fuel 0 [] cs with
    | some (done, rest) =>
      let isGiven := rest.head? == some '=' || rest.take 2 == ['+', '=']
      if isGiven then
        some (.ok ({ s with word := some (.place (String.ofList (done.drop 1).reverse) :: s.open_) }.past rest))
      else none
    | none => none
  else if (c == '<' || c == '>') && cs.head? == some '(' then
    match passParen fuel 0 0 [] [] cs.tail with
    | some p => some (.ok ({ s with word := some (.process (insideOf p) (c == '>') :: s.open_) }.past p.2))
    | none => some (.error .openParen)
  else if c == '(' && cs.head? == some '(' && s.word.isNone then
    let isPlaced := commandMayStart s.done || (match s.done with
      | ⟨_, .word [.text "for" false]⟩ :: _ => true
      | _ => false)
    if !isPlaced then none
    else
      match passParen fuel 0 0 ['\\'] [] cs.tail with
      | some (done, ')' :: rest) =>
        some (.ok ((s.push (.sum (insideOf (done, [])))).past rest))
      | some _ => none
      | none => some (.error .openParen)
  else none

/-- Reads one step further. -/
def step (s : Scan) (c : Char) (cs : List Char) : Except SyntaxFault Scan :=
  match if s.rich then s.richStep? c cs else none with
  | some r => r
  | none =>
  if c == ' ' || c == '\t' then .ok (s.finish.at_ cs)
  else if c == '\n' then do
    let s := s.finish.push .newline
    readBelow s.waiting { s with rest := cs, line := s.line + 1, grouped := s.grouped || s.groupsNext }
  else if c == '#' && s.word.isNone then .ok (s.at_ (cs.dropWhile (· != '\n')))
  else if c == '\'' then
    let inside := cs.takeWhile (· != '\'')
    let rest := cs.drop inside.length
    if rest.isEmpty then .error (.openQuote '\'')
    else .ok ({ s with word := some (.text (String.ofList inside) true :: s.open_) }.past (rest.drop 1))
  else if c == '"' then do
    let (w, rest) ← doubleQuoted s.rich true (cs.length + 1) (.text "" true :: s.open_) cs
    return { s with word := some w }.past rest
  else if c == '\\' then
    match cs with
    | [] => .ok ({ s with word := some (addChar '\\' true s.open_) }.at_ [])
    | d :: rest =>
      if d == '\n' then .ok { s with rest, line := s.line + 1 }
      else .ok ({ s with word := some (addChar d true s.open_) }.at_ rest)
  else if c == '$' then do
    let (p, rest) ← expansion s.rich false cs
    return { s with word := some (p :: s.open_) }.past rest
  else if c == '\x60' then do
    let (p, rest) ← backQuoted false cs
    return { s with word := some (p :: s.open_) }.past rest
  else
    match operatorAt? (if s.rich then richRedirects else redirects) (c :: cs) with
    | some o =>
      let rest := (c :: cs).drop o.length
      let isNumber (t : Raw) : Bool := t.toList.all Char.isDigit && (t.length = 1 || s.rich && t.length < 4)
      let (d, s) : Option Nat × Scan :=
        match s.word with
        | some [.text t false] =>
          if isNumber t && !o.startsWith "&" then
            (some (t.toList.foldl (fun n k => 10 * n + (k.toNat - 48)) 0), { s with word := none })
          else (none, s.finish)
        | _ => (none, s.finish)
      if o == "<<" || o == "<<-" then .ok ({ s with ending := some (o == "<<-", d) }.at_ rest)
      else .ok ((s.push (.redirect d o)).at_ rest)
    | none =>
      match operatorAt? (if s.rich then richOperators else operators) (c :: cs) with
      | some o => .ok ((s.finish.push (.operator o)).at_ ((c :: cs).drop o.length))
      | none => .ok ({ s with word := some (addChar c false s.open_) }.at_ cs)

/-- Reads to the end of the text, or to the first fault. -/
def run : Nat → Scan → Scan
  | 0, s => s
  | fuel + 1, s =>
    match s.rest with
    | [] =>
      let s := s.finish
      match readBelow s.waiting s with
      | .ok s =>
        let s := if s.ending.isSome then s.push (.redirect none "<<") else s
        (if s.rich && s.done.head?.any (·.token != .newline) then s.push .newline else s).push .finish
      | .error e => s.push (.broken e)
    | c :: cs =>
      match s.step c cs with
      | .ok s => run fuel s
      | .error e =>
        let more := if s.rich && e != .openParen then 0 else s.rest.count '\n'
        { s with line := s.line + more }.push (.broken e)

end Scan

/-- The tokens of a script, and the texts below its commands. -/
def lex (rich grouped : Bool) (source : Raw) : List Lexeme × List (Nat × Word) :=
  let s := Scan.run (source.length + 2) { rest := source.toList, rich, grouped }
  (s.done.reverse, s.texts)

end Host.Shell

end PolicyGate
