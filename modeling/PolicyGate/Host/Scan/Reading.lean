import PolicyGate.Host.Scan.Syntax

/-!
# Reading scanning programs

Values that stand side by side are joined. A sign that compares may mean a file where something is written,
and the word between a key and a table may belong to a loop: what is read knows where it stands. The first
argument of each function bounds how deep it goes.
-/

namespace PolicyGate

namespace Host.Scan

/-- What signs may not mean here. -/
structure Context where
  /-- A larger sign names a file. -/
  writes : Bool := false
  /-- The word between key and table belongs to a loop. -/
  loops : Bool := false

def signAt (ts : List Placed) : Raw :=
  match ts with
  | ⟨.sign r, _⟩ :: _ => r
  | _ => ""

def wordAt (ts : List Placed) : Raw :=
  match ts with
  | ⟨.word r, _⟩ :: _ => r
  | _ => ""

/-- Passes newlines. -/
def passLines : List Placed → List Placed
  | ⟨.newline, _⟩ :: ts => passLines ts
  | ts => ts

/-- Passes newlines and semicolons. -/
def passEnds : List Placed → List Placed
  | ⟨.newline, _⟩ :: ts => passEnds ts
  | ⟨.sign ";", l⟩ :: ts => if l = 0 then ⟨.sign ";", l⟩ :: ts else passEnds ts
  | ts => ts

/-- Whether a value may start here. -/
def startsValue (ts : List Placed) : Bool :=
  match ts with
  | ⟨t, _⟩ :: more =>
    match t with
    | .number .. | .text .. | .pattern _ | .name _ | .function _ | .builtin _ => true
    | .sign r =>
      r == "$" || r == "(" || r == "!" ||
        ((r == "++" || r == "--") && (match more with
          | ⟨.name _, _⟩ :: _ | ⟨.sign "$", _⟩ :: _ => true
          | _ => false))
    | _ => false
  | [] => false

def isTarget : Expr → Bool
  | .var _ | .field _ | .item _ _ => true
  | _ => false

def assigning : List Raw := ["=", "+=", "-=", "*=", "/=", "%=", "^="]

def comparing : List Raw := ["<", "<=", "==", "!=", ">", ">="]

variable (eof : Nat)

/-- The complaint about the first of some tokens. -/
def misplaced (ts : List Placed) : Fault :=
  match ts with
  | t :: _ => .misplaced t.line t.token.shown
  | [] => .misplaced eof "end of file"

/-- Passes a sign. One that closes and is missing at the end of a line is told so. -/
def pass (r : Raw) (ts : List Placed) : Except Fault (List Placed) :=
  if signAt ts == r then .ok ts.tail
  else
    match r, ts with
    | ")", ⟨.newline, l⟩ :: _ => .error (.missing l ")" "end of line")
    | ")", [] => .error (.missing (eof - 1) ")" "end of line")
    | "\x7d", [] => .error (.missing eof "\x7d" "end of file")
    | _, ts => .error (misplaced eof ts)

mutual

def expr : Nat → Context → List Placed → Except Fault (Expr × List Placed)
  | 0, _, ts => .error (misplaced eof ts)
  | fuel + 1, c, ts => do
    let (a, rest) ← choice fuel c ts
    if assigning.contains (signAt rest) && isTarget a then
      let (b, more) ← expr fuel c (passLines rest.tail)
      return (.assigned (signAt rest) a b, more)
    else return (a, rest)

def choice : Nat → Context → List Placed → Except Fault (Expr × List Placed)
  | 0, _, ts => .error (misplaced eof ts)
  | fuel + 1, c, ts => do
    let (a, rest) ← disjunction fuel c ts
    if signAt rest == "?" then
      let (x, rest) ← expr fuel c (passLines rest.tail)
      let rest ← pass eof ":" (passLines rest)
      let (y, rest) ← expr fuel c (passLines rest)
      return (.choice a x y, rest)
    else return (a, rest)

def disjunction : Nat → Context → List Placed → Except Fault (Expr × List Placed)
  | 0, _, ts => .error (misplaced eof ts)
  | fuel + 1, c, ts => do
    let (a, rest) ← conjunction fuel c ts
    disjunctionRest fuel c a rest

def disjunctionRest : Nat → Context → Expr → List Placed → Except Fault (Expr × List Placed)
  | 0, _, _, ts => .error (misplaced eof ts)
  | fuel + 1, c, a, ts =>
    if signAt ts == "||" then do
      let (b, rest) ← conjunction fuel c (passLines ts.tail)
      disjunctionRest fuel c (.or a b) rest
    else .ok (a, ts)

def conjunction : Nat → Context → List Placed → Except Fault (Expr × List Placed)
  | 0, _, ts => .error (misplaced eof ts)
  | fuel + 1, c, ts => do
    let (a, rest) ← membership fuel c ts
    conjunctionRest fuel c a rest

def conjunctionRest : Nat → Context → Expr → List Placed → Except Fault (Expr × List Placed)
  | 0, _, _, ts => .error (misplaced eof ts)
  | fuel + 1, c, a, ts =>
    if signAt ts == "&&" then do
      let (b, rest) ← membership fuel c (passLines ts.tail)
      conjunctionRest fuel c (.and a b) rest
    else .ok (a, ts)

def membership : Nat → Context → List Placed → Except Fault (Expr × List Placed)
  | 0, _, ts => .error (misplaced eof ts)
  | fuel + 1, c, ts => do
    let (a, rest) ← fitting fuel c ts
    membershipRest fuel c a rest

def membershipRest : Nat → Context → Expr → List Placed → Except Fault (Expr × List Placed)
  | 0, _, _, ts => .error (misplaced eof ts)
  | fuel + 1, c, a, ts =>
    if wordAt ts == "in" && !c.loops then
      match ts.tail with
      | ⟨.name t, _⟩ :: rest =>
        let keys := match a with
          | .group es => es
          | a => [a]
        membershipRest fuel c (.has keys t) rest
      | rest => .error (misplaced eof rest)
    else .ok (a, ts)

def fitting : Nat → Context → List Placed → Except Fault (Expr × List Placed)
  | 0, _, ts => .error (misplaced eof ts)
  | fuel + 1, c, ts => do
    let (a, rest) ← comparison fuel c ts
    fittingRest fuel c a rest

def fittingRest : Nat → Context → Expr → List Placed → Except Fault (Expr × List Placed)
  | 0, _, _, ts => .error (misplaced eof ts)
  | fuel + 1, c, a, ts =>
    let s := signAt ts
    if s == "~" || s == "!~" then do
      let (b, rest) ← comparison fuel c ts.tail
      fittingRest fuel c (.fits (s == "!~") a b) rest
    else .ok (a, ts)

def comparison : Nat → Context → List Placed → Except Fault (Expr × List Placed)
  | 0, _, ts => .error (misplaced eof ts)
  | fuel + 1, c, ts => do
    let (a, rest) ← joined fuel c ts
    let s := signAt rest
    if comparing.contains s && !(s == ">" && c.writes) then
      let (b, rest) ← joined fuel c rest.tail
      return (.binary s a b, rest)
    else return (a, rest)

def joined : Nat → Context → List Placed → Except Fault (Expr × List Placed)
  | 0, _, ts => .error (misplaced eof ts)
  | fuel + 1, c, ts => do
    let (a, rest) ← sum fuel c ts
    joinedRest fuel c a rest

def joinedRest : Nat → Context → Expr → List Placed → Except Fault (Expr × List Placed)
  | 0, _, _, ts => .error (misplaced eof ts)
  | fuel + 1, c, a, ts =>
    if startsValue ts && signAt ts != "!" then do
      let (b, rest) ← sum fuel c ts
      joinedRest fuel c (.joined a b) rest
    else .ok (a, ts)

def sum : Nat → Context → List Placed → Except Fault (Expr × List Placed)
  | 0, _, ts => .error (misplaced eof ts)
  | fuel + 1, c, ts => do
    let (a, rest) ← product fuel c ts
    sumRest fuel c a rest

def sumRest : Nat → Context → Expr → List Placed → Except Fault (Expr × List Placed)
  | 0, _, _, ts => .error (misplaced eof ts)
  | fuel + 1, c, a, ts =>
    let s := signAt ts
    if s == "+" || s == "-" then do
      let (b, rest) ← product fuel c ts.tail
      sumRest fuel c (.binary s a b) rest
    else .ok (a, ts)

def product : Nat → Context → List Placed → Except Fault (Expr × List Placed)
  | 0, _, ts => .error (misplaced eof ts)
  | fuel + 1, c, ts => do
    let (a, rest) ← unary fuel c ts
    productRest fuel c a rest

def productRest : Nat → Context → Expr → List Placed → Except Fault (Expr × List Placed)
  | 0, _, _, ts => .error (misplaced eof ts)
  | fuel + 1, c, a, ts =>
    let s := signAt ts
    if s == "*" || s == "/" || s == "%" then do
      let (b, rest) ← unary fuel c ts.tail
      productRest fuel c (.binary s a b) rest
    else .ok (a, ts)

def unary : Nat → Context → List Placed → Except Fault (Expr × List Placed)
  | 0, _, ts => .error (misplaced eof ts)
  | fuel + 1, c, ts =>
    let s := signAt ts
    if s == "!" then do
      let (a, rest) ← unary fuel c ts.tail
      return (.not a, rest)
    else if s == "-" then do
      let (a, rest) ← unary fuel c ts.tail
      return (.minus a, rest)
    else if s == "+" then do
      let (a, rest) ← unary fuel c ts.tail
      return (.plus a, rest)
    else power fuel c ts

def power : Nat → Context → List Placed → Except Fault (Expr × List Placed)
  | 0, _, ts => .error (misplaced eof ts)
  | fuel + 1, c, ts => do
    let (a, rest) ← piped fuel c ts
    if signAt rest == "^" then
      let (b, rest) ← unary fuel c rest.tail
      return (.binary "^" a b, rest)
    else return (a, rest)

/-- Reads a value, and what is read from a command that it names. -/
def piped : Nat → Context → List Placed → Except Fault (Expr × List Placed)
  | 0, _, ts => .error (misplaced eof ts)
  | fuel + 1, c, ts => do
    let (a, rest) ← steps fuel c ts
    pipedRest fuel c a rest

def pipedRest : Nat → Context → Expr → List Placed → Except Fault (Expr × List Placed)
  | 0, _, _, ts => .error (misplaced eof ts)
  | fuel + 1, c, a, ts =>
    if signAt ts == "|" && wordAt ts.tail == "getline" then do
      let (target, rest) ← readTarget fuel c ts.tail.tail
      pipedRest fuel c (.read target (.program a)) rest
    else .ok (a, ts)

def steps : Nat → Context → List Placed → Except Fault (Expr × List Placed)
  | 0, _, ts => .error (misplaced eof ts)
  | fuel + 1, c, ts =>
    let s := signAt ts
    if s == "++" || s == "--" then do
      let (a, rest) ← primary fuel c ts.tail
      return (.stepped true (s == "++") a, rest)
    else do
      let (a, rest) ← primary fuel c ts
      let s := signAt rest
      if (s == "++" || s == "--") && isTarget a then return (.stepped false (s == "++") a, rest.tail)
      else return (a, rest)

/-- Reads where a line that is read goes to, if that is told. -/
def readTarget : Nat → Context → List Placed → Except Fault (Option Expr × List Placed)
  | 0, _, ts => .error (misplaced eof ts)
  | fuel + 1, c, ts =>
    match ts with
    | ⟨.name _, _⟩ :: _ | ⟨.sign "$", _⟩ :: _ => do
      let (a, rest) ← primary fuel c ts
      return (some a, rest)
    | ts => .ok (none, ts)

def primary : Nat → Context → List Placed → Except Fault (Expr × List Placed)
  | 0, _, ts => .error (misplaced eof ts)
  | fuel + 1, c, ts =>
    match ts with
    | [] => .error (misplaced eof [])
    | ⟨t, _⟩ :: rest =>
      match t with
      | .number x _ => .ok (.number x, rest)
      | .text r _ => .ok (.text r, rest)
      | .pattern r => .ok (.pattern r, rest)
      | .name n =>
        if signAt rest == "[" then do
          let (keys, rest) ← list fuel {} rest.tail
          let rest ← pass eof "]" rest
          return (.item n keys, rest)
        else .ok (.var n, rest)
      | .function n => do
        let (args, rest) ← arguments fuel rest.tail
        return (.call n args, rest)
      | .builtin n =>
        if signAt rest == "(" then do
          let (args, rest) ← arguments fuel rest.tail
          return (.builtin n args, rest)
        else if n == "length" then .ok (.builtin n [], rest)
        else .error (misplaced eof rest)
      | .sign "$" =>
        let s := signAt rest
        if s == "++" || s == "--" then do
          let (a, rest) ← steps fuel c rest
          return (.field a, rest)
        else if s == "-" then do
          let (a, rest) ← unary fuel c rest
          return (.field a, rest)
        else do
          let (a, rest) ← primary fuel c rest
          return (.field a, rest)
      | .sign "(" => do
        let (es, rest) ← list fuel {} (passLines rest)
        let rest ← pass eof ")" (passLines rest)
        if 1 < es.length && wordAt rest != "in" && (signAt rest == "(" || startsValue rest) then
          Except.error (misplaced eof rest)
        return (.group es, rest)
      | .sign "-" => do
        let (a, rest) ← unary fuel c rest
        return (.minus a, rest)
      | .word "getline" => do
        let (target, rest) ← readTarget fuel c rest
        if signAt rest == "<" then
          let (path, rest) ← primary fuel c rest.tail
          return (.read target (.file path), rest)
        else return (.read target .main, rest)
      | _ => .error (misplaced eof ts)

/-- Reads values up to a bracket. -/
def arguments : Nat → List Placed → Except Fault (List Expr × List Placed)
  | 0, ts => .error (misplaced eof ts)
  | fuel + 1, ts =>
    let ts := passLines ts
    if signAt ts == ")" then .ok ([], ts.tail)
    else if ts.isEmpty then .error (.missing (eof - 1) ")" "end of line")
    else do
      let (es, rest) ← list fuel {} ts
      let rest ← pass eof ")" (passLines rest)
      return (es, rest)

/-- Reads values with commas between them. -/
def list : Nat → Context → List Placed → Except Fault (List Expr × List Placed)
  | 0, _, ts => .error (misplaced eof ts)
  | fuel + 1, c, ts => do
    let (a, rest) ← expr fuel c ts
    if signAt rest == "," then
      let (more, rest) ← list fuel c (passLines rest.tail)
      return (a :: more, rest)
    else return ([a], rest)

end

mutual

/-- Reads a block in braces. -/
def block : Nat → List Placed → Except Fault (List Stmt × List Placed)
  | 0, ts => .error (misplaced eof ts)
  | fuel + 1, ts => do
    let rest ← pass eof "\x7b" ts
    let (body, rest) ← statements fuel rest
    let rest ← pass eof "\x7d" rest
    return (body, rest)

def statements : Nat → List Placed → Except Fault (List Stmt × List Placed)
  | 0, ts => .error (misplaced eof ts)
  | fuel + 1, ts =>
    let ts := passEnds ts
    if signAt ts == "\x7d" || ts.isEmpty then .ok ([], ts)
    else do
      let (s, rest) ← statement fuel ts
      let (more, rest) ← statements fuel rest
      return (s :: more, rest)

/-- Reads one statement behind newlines. -/
def body : Nat → List Placed → Except Fault (List Stmt × List Placed)
  | 0, ts => .error (misplaced eof ts)
  | fuel + 1, ts =>
    let ts := passLines ts
    if signAt ts == ";" then .ok ([], ts.tail)
    else do
      let (s, rest) ← statement fuel ts
      return ([s], rest)

/-- Passes the end of a simple statement. -/
def ended : Nat → List Placed → Except Fault (List Placed)
  | _, ts =>
    match ts with
    | ⟨.newline, _⟩ :: rest => .ok rest
    | ⟨.sign ";", _⟩ :: rest => .ok (passLines rest)
    | ⟨.sign "\x7d", _⟩ :: _ => .ok ts
    | [] => .ok []
    | ts => .error (misplaced eof ts)

def statement : Nat → List Placed → Except Fault (Stmt × List Placed)
  | 0, ts => .error (misplaced eof ts)
  | fuel + 1, ts =>
    let w := wordAt ts
    if signAt ts == "\x7b" then do
      let (b, rest) ← block fuel ts
      return (.block b, rest)
    else if w == "if" then do
      let rest ← pass eof "(" ts.tail
      let (c, rest) ← expr eof fuel {} rest
      let rest ← pass eof ")" rest
      let (yes, rest) ← body fuel rest
      let next := passEnds rest
      if wordAt next == "else" then
        let (no, rest) ← body fuel next.tail
        return (.branch c yes no, rest)
      else return (.branch c yes [], rest)
    else if w == "while" then do
      let rest ← pass eof "(" ts.tail
      let (c, rest) ← expr eof fuel {} rest
      let rest ← pass eof ")" rest
      let (b, rest) ← body fuel rest
      return (.loop (some c) b [], rest)
    else if w == "do" then do
      let (b, rest) ← body fuel ts.tail
      let rest := passEnds rest
      if wordAt rest != "while" then Except.error (misplaced eof rest)
      let rest ← pass eof "(" rest.tail
      let (c, rest) ← expr eof fuel {} rest
      let rest ← pass eof ")" rest
      let rest ← ended fuel rest
      return (.again b c, rest)
    else if w == "for" then do
      let rest ← pass eof "(" ts.tail
      match rest with
      | ⟨.name v, _⟩ :: ⟨.word "in", _⟩ :: ⟨.name t, _⟩ :: ⟨.sign ")", _⟩ :: more =>
        let (b, rest) ← body fuel more
        return (.each v t b, rest)
      | rest =>
        let (start, rest) ← if signAt rest == ";" then Except.ok ([], rest) else do
          let (s, rest) ← simple fuel rest
          Except.ok ([s], rest)
        let rest ← pass eof ";" rest
        let (c, rest) ← if signAt (passLines rest) == ";" then Except.ok (none, passLines rest) else do
          let (c, rest) ← expr eof fuel {} (passLines rest)
          Except.ok (some c, rest)
        let rest ← pass eof ";" rest
        let (next, rest) ← if signAt (passLines rest) == ")" then Except.ok ([], passLines rest) else do
          let (s, rest) ← simple fuel (passLines rest)
          Except.ok ([s], rest)
        let rest ← pass eof ")" rest
        let (b, rest) ← body fuel rest
        return (.block (start ++ [.loop c b next]), rest)
    else do
      let (s, rest) ← simple fuel ts
      let rest ← ended fuel rest
      return (s, rest)

/-- Reads a statement that holds no others. -/
def simple : Nat → List Placed → Except Fault (Stmt × List Placed)
  | 0, ts => .error (misplaced eof ts)
  | fuel + 1, ts =>
    let w := wordAt ts
    let rest := ts.tail
    let atEnd (ts : List Placed) : Bool :=
      match ts with
      | ⟨.newline, _⟩ :: _ | ⟨.sign ";", _⟩ :: _ | ⟨.sign "\x7d", _⟩ :: _ | [] => true
      | _ => false
    if w == "print" || w == "printf" then do
      let s := signAt rest
      let (es, rest) ← if atEnd rest || s == ">" || s == ">>" || s == "|" then Except.ok ([], rest)
        else list eof fuel { writes := true } rest
      let es := match es with
        | [.group es] => es
        | es => es
      let s := signAt rest
      let (sink, rest) : Sink × List Placed ← if s == ">" || s == ">>" then do
          let (p, rest) ← joined eof fuel { writes := true } rest.tail
          Except.ok (.file p (s == ">>"), rest)
        else if s == "|" then do
          let (p, rest) ← joined eof fuel { writes := true } rest.tail
          Except.ok (.program p, rest)
        else Except.ok (.output, rest)
      return (if w == "print" then .print es sink else .printf es sink, rest)
    else if w == "next" then .ok (.next, rest)
    else if w == "nextfile" then .ok (.nextFile, rest)
    else if w == "break" then .ok (.stop, rest)
    else if w == "continue" then .ok (.goOn, rest)
    else if w == "exit" || w == "return" then do
      let (e, rest) ← if atEnd rest then Except.ok (none, rest) else do
        let (e, rest) ← expr eof fuel {} rest
        Except.ok (some e, rest)
      return (if w == "exit" then .exit e else .give e, rest)
    else if w == "delete" then
      match rest with
      | ⟨.name t, _⟩ :: more =>
        if signAt more == "[" then do
          let (keys, more) ← list eof fuel {} more.tail
          let more ← pass eof "]" more
          return (.remove t (some keys), more)
        else .ok (.remove t none, more)
      | rest => .error (misplaced eof rest)
    else do
      let (e, rest) ← expr eof fuel {} ts
      return (.run e, rest)

end

/-- Reads the names of the parameters of a function. -/
def parameters : List Raw → List Placed → Except Fault (List Raw × List Placed)
  | done, ⟨.name p, _⟩ :: ⟨.sign ",", _⟩ :: rest =>
    match rest with
    | ⟨.newline, _⟩ :: more => parameters (p :: done) more
    | rest => parameters (p :: done) rest
  | done, ⟨.name p, _⟩ :: ⟨.sign ")", _⟩ :: rest => .ok ((p :: done).reverse, rest)
  | done, ⟨.sign ")", _⟩ :: rest => .ok (done.reverse, rest)
  | _, ts => .error (misplaced eof ts)

/-- Reads rules and functions. -/
def items : Nat → Program → List Placed → Except Fault Program
  | 0, p, _ => .ok p
  | fuel + 1, p, ts =>
    let deep := 40 * (ts.length + 10)
    let ts := passEnds ts
    let w := wordAt ts
    let add (r : When × Option (List Stmt)) : Program := { p with rules := p.rules ++ [r] }
    match ts with
    | [] => .ok p
    | t :: rest =>
      if signAt ts == "\x7d" then
        .error (.extraBrace t.line ((rest.head?.map fun t => t.token.shown).getD "end of line"))
      else if w == "BEGIN" || w == "END" then do
        let (b, rest) ← block eof deep rest
        items fuel (add (if w == "BEGIN" then .first else .last, some b)) rest
      else if w == "function" || w == "func" then
        match rest with
        | ⟨.function n, _⟩ :: ⟨.sign "(", _⟩ :: more | ⟨.name n, _⟩ :: ⟨.sign "(", _⟩ :: more => do
          let (params, more) ← parameters eof [] more
          let (b, more) ← block eof deep (passLines more)
          items fuel { p with functions := ⟨n, params, b⟩ :: p.functions } more
        | rest => .error (misplaced eof rest)
      else do
        let (when_, rest) : When × List Placed ← if signAt ts == "\x7b" then Except.ok (.always, ts) else do
          let (a, rest) ← expr eof deep {} ts
          if signAt rest == "," then
            let (b, rest) ← expr eof deep {} (passLines rest.tail)
            Except.ok (.between ts.length a b, rest)
          else Except.ok (.holds a, rest)
        if signAt rest == "\x7b" then
          let (b, rest) ← block eof deep rest
          items fuel (add (when_, some b)) rest
        else
          let rest ← ended eof 0 rest
          items fuel (add (when_, none)) rest

/-- The functions that a program calls. -/
def called (ts : List Placed) : List Raw :=
  ts.filterMap fun t =>
    match t.token with
    | .function n => some n
    | _ => none

/-- Reads a whole program. -/
def program (text : Raw) : Except Fault Program := do
  let eof := text.toList.count '\n' + 2
  let ts ← tokens text
  let p ← items eof (ts.length + 2) {} ts
  match (called ts).find? fun n => !p.functions.any fun f => f.name == n with
  | some n => .error (.noFunction eof n)
  | none => return p

end Host.Scan

end PolicyGate
