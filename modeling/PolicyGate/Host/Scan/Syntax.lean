import PolicyGate.Host.Scan.Value

/-!
# Scanning programs as trees

A program is a row of rules. What a rule does is done for each record that it is meant for.
-/

namespace PolicyGate

namespace Host.Scan

mutual

inductive Expr where
  | number (x : Float)
  | text (r : Raw)
  /-- An expression that the record is searched for. -/
  | pattern (r : Raw)
  | var (name : Raw)
  | field (e : Expr)
  | item (name : Raw) (keys : List Expr)
  | assigned (op : String) (target value : Expr)
  | choice (c a b : Expr)
  | and (a b : Expr)
  | or (a b : Expr)
  | not (a : Expr)
  /-- Whether a table has a key. -/
  | has (keys : List Expr) (name : Raw)
  | fits (negated : Bool) (a b : Expr)
  | binary (op : String) (a b : Expr)
  | joined (a b : Expr)
  | minus (a : Expr)
  | plus (a : Expr)
  /-- A step up or down, whose value is the one behind it or before it. -/
  | stepped (after up : Bool) (target : Expr)
  | call (name : Raw) (args : List Expr)
  | builtin (name : Raw) (args : List Expr)
  | read (target : Option Expr) (source : Source)
  /-- What stands in brackets. -/
  | group (es : List Expr)

/-- Where a record is read from. -/
inductive Source where
  | main
  | file (path : Expr)
  | program (command : Expr)

end

instance : Inhabited Expr := ⟨.text ""⟩

/-- Where something is written. -/
inductive Sink where
  | output
  | file (path : Expr) (append : Bool)
  | program (command : Expr)

inductive Stmt where
  | run (e : Expr)
  | print (es : List Expr) (sink : Sink)
  | printf (es : List Expr) (sink : Sink)
  | branch (c : Expr) (yes no : List Stmt)
  | loop (c : Option Expr) (body : List Stmt) (next : List Stmt)
  | again (body : List Stmt) (c : Expr)
  | each (name table : Raw) (body : List Stmt)
  | block (body : List Stmt)
  | next
  | nextFile
  | exit (e : Option Expr)
  | give (e : Option Expr)
  | stop
  | goOn
  | remove (name : Raw) (keys : Option (List Expr))

/-- When a rule applies. -/
inductive When where
  | first
  | last
  | always
  | holds (e : Expr)
  | between (place : Nat) (a b : Expr)

structure Function where
  name : Raw
  params : List Raw
  body : List Stmt

structure Program where
  rules : List (When × Option (List Stmt)) := []
  functions : List Function := []

/-- Why a program cannot be read. -/
inductive Fault where
  /-- A word that cannot stand where it does. -/
  | misplaced (line : Nat) (word : Raw)
  | openText (line : Nat) (start : Raw)
  | openPattern (line : Nat) (start : Raw)
  | missing (line : Nat) (mark near : Raw)
  | extraBrace (line : Nat) (word : Raw)
  | noFunction (line : Nat) (name : Raw)
  | illegal (line : Nat) (name : Raw)
  | improper (line : Nat) (word : Raw)

def Fault.message : Fault → Raw
  | .misplaced n w => "line " ++ toString n ++ ": syntax error at or near " ++ w
  | .openText n r => "line " ++ toString n ++ ": runaway string constant \"" ++ r ++ " ..."
  | .openPattern n r => "line " ++ toString n ++ ": runaway regular expression /" ++ r ++ " ..."
  | .missing n m near => "line " ++ toString n ++ ": missing " ++ m ++ " near " ++ near
  | .extraBrace n w =>
    "line " ++ toString n ++ ": extra '\x7d'\nmawk: line " ++ toString n ++ ": syntax error at or near " ++ w
  | .noFunction n f => "line " ++ toString n ++ ": function " ++ f ++ " never defined"
  | .illegal n v => "line " ++ toString n ++ ": illegal reference to variable " ++ v
  | .improper n w => "line " ++ toString n ++ ": improper use of " ++ w

/-!
## Words of scanning programs

A slash opens a pattern where a value has to come, and divides elsewhere. A newline ends a statement unless
it comes behind a word that asks for more.
-/

inductive Token where
  | number (x : Float) (written : Raw)
  | text (r : Raw) (written : Raw)
  | pattern (r : Raw)
  | name (r : Raw)
  /-- A name with a bracket right behind it. -/
  | function (r : Raw)
  | builtin (r : Raw)
  | word (r : Raw)
  | sign (r : Raw)
  | newline
  deriving Repr

structure Placed where
  token : Token
  line : Nat

def words : List Raw :=
  ["BEGIN", "END", "function", "func", "if", "else", "while", "for", "do", "break", "continue", "next", "nextfile",
    "exit", "return", "delete", "in", "getline", "print", "printf"]

def builtins : List Raw :=
  ["length", "substr", "index", "split", "sub", "gsub", "match", "sprintf", "sin", "cos", "atan2", "exp", "log",
    "sqrt", "int", "rand", "srand", "tolower", "toupper", "system", "close", "fflush", "systime", "strftime",
    "mktime"]

def signs : List String :=
  ["**=", "&&", "||", "++", "--", "+=", "-=", "*=", "/=", "%=", "^=", "==", "<=", ">=", "!=", "!~", ">>",
    "\x7b", "\x7d", "(", ")", "[", "]", ";", ",", "+", "-", "*", "/", "%", "^", "!", ">", "<", "|", "?", ":", "~", "$", "="]

/-- How a token is shown in complaints. -/
def Token.shown : Token → Raw
  | .number _ w => w
  | .text _ w => "\"" ++ w ++ "\""
  | .pattern r => "/" ++ r ++ "/"
  | .name r | .function r | .builtin r | .word r | .sign r => r
  | .newline => "end of line"

/-- Whether a value may not follow right behind a token, so that a slash divides. -/
def Token.endsValue : Token → Bool
  | .number .. | .text .. | .pattern _ | .name _ => true
  | .builtin r => r == "length"
  | .sign r => r == ")" || r == "]" || r == "$" || r == "++" || r == "--"
  | _ => false

def isNameStart (c : Char) : Bool := c.isAlpha || c == '_'
def isNamePart (c : Char) : Bool := c.isAlphanum || c == '_'

/-- A text with its escapes replaced. -/
def unescaped : List Char → List Char
  | '\\' :: c :: cs =>
    match "\"\"\\\\a\x07b\x08f\x0cn\nr\rt\tv\x0b".toList.idxOf? c with
    | some i =>
      if i % 2 = 0 then (("\"\"\\\\a\x07b\x08f\x0cn\nr\rt\tv\x0b".toList)[i + 1]?).getD c :: unescaped cs
      else '\\' :: c :: unescaped cs
    | none =>
      if isOctal c then
        let ds := (cs.take 2).takeWhile isOctal
        let n := (c :: ds).foldl (fun n d => 8 * n + (d.toNat - 48)) 0
        Char.ofNat (n % 256) :: unescaped (cs.drop ds.length)
      else if c == 'x' && cs.head?.any fun d => (hexValue? d).isSome then
        let ds := (cs.take 2).takeWhile fun d => (hexValue? d).isSome
        Char.ofNat (ds.foldl (fun n d => 16 * n + (hexValue? d).getD 0) 0) :: unescaped (cs.drop ds.length)
      else '\\' :: c :: unescaped cs
  | c :: cs => c :: unescaped cs
  | [] => []
termination_by cs => cs.length
decreasing_by all_goals (simp only [List.length_cons, List.length_drop]; omega)

/-- Reads up to a mark that no backslash stands before, on one line. -/
def untilMark (mark : Char) : List Char → List Char → Option (List Char × List Char)
  | _, [] => none
  | done, '\\' :: c :: cs =>
    if c == '\n' && mark == '"' then untilMark mark done cs else untilMark mark (c :: '\\' :: done) cs
  | done, c :: cs =>
    if c == mark then some (done.reverse, cs)
    else if c == '\n' then none
    else untilMark mark (c :: done) cs

/-- A pattern up to its slash. In a set a slash stands for itself. -/
def untilSlash : Bool → List Char → List Char → Option (List Char × List Char)
  | _, _, [] => none
  | inSet, done, '\\' :: c :: cs =>
    if c == '/' then untilSlash inSet ('/' :: done) cs else untilSlash inSet (c :: '\\' :: done) cs
  | inSet, done, c :: cs =>
    if c == '/' && !inSet then some (done.reverse, cs)
    else if c == '\n' then none
    else
      let first := done.head? == some '[' || (done.head? == some '^' && done.tail.head? == some '[')
      let inSet := if c == '[' then true else if c == ']' && !first then false else inSet
      untilSlash inSet (c :: done) cs

/-- Reads all tokens. The first argument bounds their number. -/
def tokensFrom : Nat → Nat → List Placed → List Char → Except Fault (List Placed)
  | 0, _, done, _ => .ok done.reverse
  | _ + 1, _, done, [] => .ok done.reverse
  | fuel + 1, line, done, c :: cs =>
    let go (t : Token) (rest : List Char) : Except Fault (List Placed) :=
      tokensFrom fuel line (⟨t, line⟩ :: done) rest
    if c == ' ' || c == '\t' || c == '\r' then tokensFrom fuel line done cs
    else if c == '\n' then tokensFrom fuel (line + 1) (⟨.newline, line⟩ :: done) cs
    else if c == '\\' && cs.head? == some '\n' then tokensFrom fuel (line + 1) done cs.tail
    else if c == '#' then tokensFrom fuel line done (cs.dropWhile (· != '\n'))
    else if c == '"' then
      match untilMark '"' [] cs with
      | some (inside, rest) =>
        tokensFrom fuel (line + inside.count '\n')
          (⟨.text (String.ofList (unescaped inside)) (String.ofList inside), line⟩ :: done) rest
      | none => .error (.openText line (String.ofList ((cs.takeWhile (· != '\n')).take 10)))
    else if c == '/' && !(done.head?.any fun t => t.token.endsValue) then
      match untilSlash false [] cs with
      | some (inside, rest) => go (.pattern (String.ofList inside)) rest
      | none => .error (.openPattern line (String.ofList ((cs.takeWhile (· != '\n')).take 10)))
    else if c.isDigit || (c == '.' && cs.head?.any Char.isDigit) then
      match Double.readAny? (c :: cs) with
      | some (x, rest) =>
        go (.number x (String.ofList ((c :: cs).take (cs.length + 1 - rest.length)))) rest
      | none => go (.sign c.toString) cs
    else if isNameStart c then
      let w := String.ofList ((c :: cs).takeWhile isNamePart)
      let rest := (c :: cs).dropWhile isNamePart
      let token : Token := if words.contains w then .word w
        else if builtins.contains w then .builtin w
        else if rest.head? == some '(' then .function w
        else .name w
      go token rest
    else
      match signs.find? fun s => s.toList.isPrefixOf (c :: cs) with
      | some s => go (.sign (if s == "**=" then "^=" else s)) ((c :: cs).drop s.length)
      | none => .error (.misplaced line c.toString)

def tokens (text : Raw) : Except Fault (List Placed) :=
  tokensFrom (text.length + 1) 1 [] text.toList

end Host.Scan

end PolicyGate
