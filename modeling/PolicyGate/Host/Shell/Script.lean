import PolicyGate.Host.Shell.Token

/-!
# Scripts as trees

Commands joined by operators. Reserved words count where a command may start, and so do names that
stand for other texts. Every reader gives the tree and the tokens behind it; the first argument bounds
how deep it goes. A script is read line by line, so that what stands before a fault can still be run,
and can change what the names in later lines stand for.
-/

namespace PolicyGate

namespace Host.Shell

structure Redirect where
  descriptor : Option Nat
  operator : String
  target : Word
  deriving DecidableEq, Repr

/-- A condition between double brackets. -/
inductive Condition where
  | word (w : Word)
  | unary (op : Raw) (w : Word)
  | binary (op : Raw) (a b : Word)
  | negated (c : Condition)
  | both (a b : Condition)
  | either (a b : Condition)
  deriving Repr

/-- What comes after an arm of a choice. -/
inductive ArmEnd where
  /-- What stands behind the choice. -/
  | leave
  /-- The next arm, whether its patterns fit or not. -/
  | enter
  /-- The next arm whose patterns fit. -/
  | tryOn
  deriving DecidableEq, Repr

inductive Script where
  | empty
  | simple (line : Nat) (words : List Word) (redirects : List Redirect)
  | pipeline (parts : List Script)
  | negated (s : Script)
  | andThen (a b : Script)
  | orElse (a b : Script)
  | sequence (a b : Script)
  | background (a : Script)
  | subshell (body : Script)
  | redirected (line : Nat) (body : Script) (redirects : List Redirect)
  | branch (condition yes no : Script)
  | loop (until_ : Bool) (condition body : Script)
  | each (line : Nat) (name : Raw) (words : Option (List Word)) (body : Script)
  | select (line : Nat) (word : Word) (arms : List (List Word × Script × ArmEnd))
  | define (name : Raw) (body : Script)
  /-- A sum, whose status tells whether it is zero. -/
  | sum (line : Nat) (source : Raw)
  | condition (line : Nat) (c : Condition)
  /-- A loop that counts: a sum before it, one that tells whether it goes on, and one behind each
  round. -/
  | count (line : Nat) (start goal step : Raw) (body : Script)
  /-- A loop over answers to a menu. -/
  | menu (line : Nat) (name : Raw) (words : Option (List Word)) (body : Script)
  /-- A pipeline whose time is told. -/
  | timed (plain : Bool) (body : Script)

/-- Why and on which line a script cannot be read. -/
structure Misread where
  fault : SyntaxFault
  line : Nat
  token : Token := .finish
  deriving DecidableEq, Repr

/-- What the reading of a script depends on. -/
structure Grammar where
  rich : Bool := false
  /-- The texts below commands. -/
  texts : List (Nat × Word) := []
  /-- The names that stand for other texts. -/
  aliases : List (Raw × Raw) := []
  /-- Whether the names stand for the same texts in all lines. -/
  settled : Bool := false

namespace Script

/-- Whether the last command of a script is a simple one. -/
def endsSimply : Script → Bool
  | .simple .. => true
  | .andThen _ b | .orElse _ b | .sequence _ b | .subshell b | .redirected _ b _ => b.endsSimply
  | .branch _ yes no => yes.endsSimply || no.endsSimply
  | _ => false

def reservedWords : List Raw :=
  ["if", "then", "else", "elif", "fi", "for", "in", "do", "done", "while", "until", "case", "esac",
    "\x7b", "\x7d", "!"]

/-- The words that the rich notation reserves beside the others. -/
def richWords : List Raw := ["function", "select", "time", "[[", "]]", "coproc"]

/-- The reserved word that a token is, if it is one. -/
def reserved? : Token → Option Raw
  | .word [.text s false] => if reservedWords.contains s then some s else none
  | _ => none

def head (ts : List Lexeme) : Token := (ts.head?.map (·.token)).getD .finish

def lineOf (ts : List Lexeme) : Nat := (ts.head?.map (·.line)).getD 1

def isWord (s : Raw) (ts : List Lexeme) : Bool := reserved? (head ts) == some s

/-- How a token is named in complaints. -/
def describe : Token → Raw
  | .finish | .broken _ => "end of file"
  | .newline => "newline"
  | .operator o => "\"" ++ o ++ "\""
  | .redirect .. | .below .. => "redirection"
  | t => match reserved? t with
    | some w => "\"" ++ w ++ "\""
    | none => "word"

/-- What is wrong if something else has to come, which may be named. -/
def misread (ts : List Lexeme) (expected : Option Raw) : Misread :=
  match head ts with
  | .broken f => ⟨f, lineOf ts, .broken f⟩
  | t => ⟨.unexpected (describe t) expected, lineOf ts, t⟩

def unexpected {α : Type} (ts : List Lexeme) : Except Misread (α × List Lexeme) := .error (misread ts none)

def quote (s : Raw) : Raw := "\"" ++ s ++ "\""

/-- Passes the reserved word that has to come. -/
def expect (s : Raw) (ts : List Lexeme) : Except Misread (List Lexeme) :=
  if isWord s ts then .ok ts.tail else .error (misread ts (some (quote s)))

def skipNewlines (ts : List Lexeme) : List Lexeme := ts.dropWhile (·.token == .newline)

/-- Whether a list of commands that is not empty ends here. -/
def atEnd (ts : List Lexeme) : Bool :=
  match head ts with
  | .finish => true
  | .operator o => o == ")" || o == ";;" || o == ";&" || o == ";;&"
  | t => ["then", "else", "elif", "fi", "do", "done", "esac", "\x7d"].contains ((reserved? t).getD "")

/-! ## Names for other texts -/

/-- The name that a token is. -/
def name? : Token → Option Raw
  | .word [.text s false] => some s
  | _ => none

/-- Puts the text for a name at the front, except for the names whose texts are at hand. A text that
ends in a blank lets the next word stand for another text too. -/
def unaliased (g : Grammar) : Nat → List Raw → List Lexeme → List Lexeme
  | 0, _, ts => ts
  | fuel + 1, used, ts =>
    match name? (head ts) with
    | none => ts
    | some n =>
      match if used.contains n || (reserved? (head ts)).isSome then none else g.aliases.lookup n with
      | none => ts
      | some text =>
        let line := lineOf ts
        let tokens := (lex g.rich false text).1.filter (·.token != .finish)
        let tokens := if g.rich && !text.endsWith "\n" then tokens.dropLast else tokens
        let value := tokens.map fun l => { l with line }
        let rest := ts.tail
        let rest := if text.endsWith " " || text.endsWith "\t" then unaliased g fuel used rest else rest
        unaliased g fuel (n :: used) (value ++ rest)

variable (g : Grammar)

/-- The tokens of a command, with texts for the names at its front. -/
def commandTokens (ts : List Lexeme) : List Lexeme :=
  if g.aliases.isEmpty then ts else unaliased g 100 [] ts

/-- Whether a word assigns. -/
def assigns : Word → Bool
  | .text t false :: _ =>
    let name := t.toList.takeWhile isNamePart
    name.head?.any isNameStart && (t.toList.drop name.length).head? == some '='
  | _ => false

/-! ## Commands -/

/-- Reads redirections and, where they are wanted, words. -/
def simpleParts (takesWords : Bool) :
    Nat → List Word → List Redirect → List Lexeme → Except Misread ((List Word × List Redirect) × List Lexeme)
  | 0, _, _, ts => unexpected ts
  | fuel + 1, words, rs, ts =>
    match head ts with
    | .word w =>
      if !takesWords then .ok ((words.reverse, rs.reverse), ts)
      else
        let rest := if !g.aliases.isEmpty && assigns w && words.all assigns then commandTokens g ts.tail
          else ts.tail
        simpleParts takesWords fuel (w :: words) rs rest
    | .redirect d o =>
      match head ts.tail with
      | .word w => simpleParts takesWords fuel words (⟨d, o, w⟩ :: rs) ts.tail.tail
      | _ => unexpected ts.tail
    | .below d n =>
      let text := (g.texts.lookup n).getD []
      simpleParts takesWords fuel words (⟨d, "<<", text⟩ :: rs) ts.tail
    | .broken _ => unexpected ts
    | _ => .ok ((words.reverse, rs.reverse), ts)

/-- Reads the words of a loop up to the end of its line. -/
def loopWords : Nat → List Word → List Lexeme → Except Misread (List Word × List Lexeme)
  | 0, _, ts => unexpected ts
  | fuel + 1, words, ts =>
    match head ts with
    | .word w => loopWords fuel (w :: words) ts.tail
    | .operator ";" | .newline => .ok (words.reverse, ts.tail)
    | _ => unexpected ts

/-- Reads the patterns of an arm up to their bracket. -/
def patterns : Nat → List Word → List Lexeme → Except Misread (List Word × List Lexeme)
  | 0, _, ts => unexpected ts
  | fuel + 1, ps, ts =>
    let missing (ts : List Lexeme) : Except Misread (List Word × List Lexeme) := .error (misread ts (some "\")\""))
    match head ts with
    | .word w =>
      match head ts.tail with
      | .operator "|" => patterns fuel (w :: ps) ts.tail.tail
      | .operator ")" => .ok ((w :: ps).reverse, ts.tail.tail)
      | _ => missing ts.tail
    | .finish | .broken _ => missing ts
    | _ => missing (if g.rich then ts else ts.tail)

/-- Whether a word in front of a bracket is the name of what is defined. -/
def isDefinition (w : Word) : Bool :=
  match w with
  | .text t false :: _ => !(t.toList.contains '=' && isNameStart (t.toList.head?.getD '='))
  | _ => true

def wrap (line : Nat) (s : Script) (rs : List Redirect) : Script :=
  if rs.isEmpty then s else .redirected line s rs

/-! ## Conditions -/

/-- The operators of conditions with one operand. -/
def isUnaryTest (r : Raw) : Bool :=
  match r.toList with
  | ['-', c] => "abcdefghknoprstuvwxzLOGSNR".toList.contains c
  | _ => false

/-- The operators of conditions with two operands. -/
def isBinaryTest (r : Raw) : Bool :=
  ["=", "==", "!=", "=~", "-eq", "-ne", "-lt", "-le", "-gt", "-ge", "-nt", "-ot", "-ef"].contains r

/-- The text of a token in a complaint about a condition. -/
def tokenText : Token → Raw
  | .word w => (delimiterOf w).1
  | .operator o => o
  | .redirect _ o => o
  | .newline => "newline"
  | .sum s => "((" ++ s ++ "))"
  | .below .. => "<<"
  | .finish | .broken _ => "EOF"

/-- Reads a condition, given what binds: 0 for "or", 1 for "and", 2 for a single term. -/
def conditionAt : Nat → Nat → List Lexeme → Except Misread (Condition × List Lexeme)
  | 0, _, ts => unexpected ts
  | fuel + 1, level, ts => do
    let bad (what : Raw) (ts : List Lexeme) : Except Misread (Condition × List Lexeme) :=
      .error ⟨.badCondition what, lineOf ts, head ts⟩
    let ts := skipNewlines ts
    if level < 2 then
      let (a, rest) ← conditionAt fuel (level + 1) ts
      let rest := skipNewlines rest
      if head rest == .operator (if level = 0 then "||" else "&&") then
        let (b, rest) ← conditionAt fuel level rest.tail
        return (if level = 0 then .either a b else .both a b, rest)
      else return (a, rest)
    else
      match head ts with
      | .operator "(" => do
        let (a, rest) ← conditionAt fuel 0 ts.tail
        let rest := skipNewlines rest
        if head rest == .operator ")" then return (a, rest.tail)
        else bad ("unexpected token \x60" ++ tokenText (head rest) ++ "', expected \x60)'") rest
      | .word w =>
        match name? (head ts) with
        | some "!" => do
          let (a, rest) ← conditionAt fuel 2 ts.tail
          return (.negated a, rest)
        | some "]]" => bad "" ts
        | n =>
          let op := n.getD ""
          let binary : Option Raw := match head ts.tail with
            | .operator o => if o == "<" || o == ">" then some o else none
            | t => (name? t).filter isBinaryTest
          match binary with
          | some o =>
            match head ts.tail.tail with
            | .word b =>
              if name? (.word b) == some "]]" then
                bad ("unexpected argument \x60]]' to conditional binary operator") ts.tail.tail
              else return (.binary o w b, ts.tail.tail.tail)
            | t =>
              bad ("unexpected argument \x60" ++ tokenText t ++ "' to conditional binary operator")
                ts.tail.tail
          | none =>
            if isUnaryTest op then
              match head ts.tail with
              | .word b =>
                if name? (.word b) == some "]]" then
                  bad "unexpected argument \x60]]' to conditional unary operator" ts.tail
                else return (.unary op b, ts.tail.tail)
              | t => bad ("unexpected argument \x60" ++ tokenText t ++ "' to conditional unary operator") ts.tail
            else
              match head ts.tail with
              | .word v =>
                if name? (.word v) == some "]]" then return (.word w, ts.tail)
                else bad "conditional binary operator expected" ts.tail
              | .newline => bad "unexpected token \x60newline', conditional binary operator expected" ts
              | _ => return (.word w, ts.tail)
      | _ => bad "" ts

/-- Reads a condition behind its opening brackets. -/
def conditionAfter (ts : List Lexeme) : Except Misread (Condition × List Lexeme) := do
  let (c, rest) ← conditionAt (4 * ts.length + 8) 0 ts
  let rest := skipNewlines rest
  if name? (head rest) == some "]]" then return (c, rest.tail)
  else .error ⟨.badCondition "syntax error in conditional expression", lineOf rest, head rest⟩

/-- The three sums of a loop that counts. -/
def threeSums? (source : Raw) : Option (Raw × Raw × Raw) :=
  match source.splitOn ";" with
  | [a, b, c] => some (a, b, c)
  | _ => none

mutual

/-- Reads commands, of which there has to be one if `any` is not set. -/
def list : Nat → Bool → List Lexeme → Except Misread (Script × List Lexeme)
  | 0, _, ts => unexpected ts
  | fuel + 1, any, ts =>
    let ts := skipNewlines ts
    if (head ts == .finish && (any || !g.rich)) || (any && atEnd ts) then .ok (.empty, ts)
    else do
      let (a, rest) ← andOr fuel ts
      match head rest with
      | .operator ";" => do
        let (b, rest) ← list fuel true rest.tail
        return (.sequence a b, rest)
      | .operator "&" => do
        let (b, rest) ← list fuel true rest.tail
        return (.sequence (.background a) b, rest)
      | .newline => do
        let (b, rest) ← list fuel true rest.tail
        return (.sequence a b, rest)
      | _ => return (a, rest)

def andOr : Nat → List Lexeme → Except Misread (Script × List Lexeme)
  | 0, ts => unexpected ts
  | fuel + 1, ts => do
    let (a, rest) ← pipes fuel ts
    chain fuel a rest

/-- Reads what is joined to a command by `&&` and `||`, which bind to the left. -/
def chain : Nat → Script → List Lexeme → Except Misread (Script × List Lexeme)
  | 0, _, ts => unexpected ts
  | fuel + 1, a, ts =>
    match head ts with
    | .operator "&&" => do
      let (b, rest) ← pipes fuel (skipNewlines ts.tail)
      chain fuel (.andThen a b) rest
    | .operator "||" => do
      let (b, rest) ← pipes fuel (skipNewlines ts.tail)
      chain fuel (.orElse a b) rest
    | _ => return (a, ts)

def pipes : Nat → List Lexeme → Except Misread (Script × List Lexeme)
  | 0, ts => unexpected ts
  | fuel + 1, ts => do
    if g.rich && name? (head ts) == some "time" then
      let plain := name? (head ts.tail) == some "-p"
      let rest := if plain then ts.tail.tail else ts.tail
      let ends := match head rest with
        | .newline | .finish | .operator ";" | .operator "&" | .operator ")" => true
        | _ => false
      if ends then return (.timed plain .empty, rest)
      else
        let (s, rest) ← pipes fuel rest
        return (.timed plain s, rest)
    else if isWord "!" ts then
      let ends := g.rich && (match head ts.tail with
        | .newline | .finish | .operator ";" | .operator "&" | .operator ")" => true
        | _ => false)
      if ends then return (.negated .empty, ts.tail)
      else if g.rich then
        let (s, rest) ← pipes fuel ts.tail
        return (.negated s, rest)
      else
        let (s, rest) ← piped fuel ts.tail
        return (.negated s, rest)
    else piped fuel ts

def piped : Nat → List Lexeme → Except Misread (Script × List Lexeme)
  | 0, ts => unexpected ts
  | fuel + 1, ts => do
    let (first, rest) ← command fuel ts
    pipeRest fuel [first] rest

def pipeRest : Nat → List Script → List Lexeme → Except Misread (Script × List Lexeme)
  | 0, _, ts => unexpected ts
  | fuel + 1, done, ts =>
    match head ts with
    | .operator "|" => do
      let (s, rest) ← command fuel (skipNewlines ts.tail)
      pipeRest fuel (s :: done) rest
    | .operator "|&" => do
      let both : Redirect := ⟨some 2, ">&", [.text "1" false]⟩
      let joined := match done with
        | a :: more => .redirected (lineOf ts) a [both] :: more
        | [] => []
      let (s, rest) ← command fuel (skipNewlines ts.tail)
      pipeRest fuel (s :: joined) rest
    | _ =>
      match done with
      | [a] => return (a, ts)
      | _ => return (.pipeline done.reverse, ts)

def command : Nat → List Lexeme → Except Misread (Script × List Lexeme)
  | 0, ts => unexpected ts
  | fuel + 1, ts =>
    let ts := commandTokens g ts
    let line := lineOf ts
    let redirected (s : Script) (rest : List Lexeme) : Except Misread (Script × List Lexeme) := do
      let ((_, rs), rest) ← simpleParts g false fuel [] [] rest
      return (wrap line s rs, rest)
    let simple : Except Misread (Script × List Lexeme) := do
      let ((words, rs), after) ← simpleParts g true fuel [] [] ts
      return (.simple (if g.rich then lineOf ts.tail else line) words rs, after)
    match head ts with
    | .operator "(" => do
      let (body, rest) ← list fuel false ts.tail
      match head rest with
      | .operator ")" => redirected (.subshell body) rest.tail
      | _ => .error (misread rest (some "\")\""))
    | .sum source => if g.rich then redirected (.sum line source) ts.tail else unexpected ts
    | .word w =>
      match reserved? (head ts) with
      | some r => do
        if r == "then" || r == "else" || r == "elif" || r == "fi" || r == "do" || r == "done" ||
            r == "esac" || r == "\x7d" || r == "in" || r == "!" then
          unexpected ts
        else
          let (s, rest) ← compound fuel r ts.tail
          redirected s rest
      | none =>
        match if g.rich then name? (head ts) else none with
        | some "[[" => do
          let (c, rest) ← conditionAfter ts.tail
          redirected (.condition line c) rest
        | some "function" =>
          match head ts.tail with
          | .word n => do
            let rest := ts.tail.tail
            let rest := if head rest == .operator "(" && head rest.tail == .operator ")" then rest.tail.tail
              else rest
            let (body, rest) ← command fuel (skipNewlines rest)
            return (.define (delimiterOf n).1 body, rest)
          | _ => unexpected ts.tail
        | some "select" =>
          match name? (head ts.tail) with
          | some name => do
            let (words, rest) ← loopHead fuel ts.tail.tail
            let (body, rest) ← loopBody fuel rest
            redirected (.menu line name words body) rest
          | none => unexpected ts.tail
        | _ =>
          if head ts.tail == .operator "(" && isDefinition w then definition fuel w ts.tail.tail
          else simple
    | .redirect .. | .below .. => simple
    | _ => unexpected ts

/-- Reads a definition behind its opening bracket. -/
def definition : Nat → Word → List Lexeme → Except Misread (Script × List Lexeme)
  | 0, _, ts => unexpected ts
  | fuel + 1, w, ts =>
    match head ts with
    | .operator ")" =>
      if g.rich then do
        let rest := skipNewlines ts.tail
        let isCompound := match head rest with
          | .operator "(" | .sum _ => true
          | t => match name? t with
            | some n => ["\x7b", "if", "for", "while", "until", "case", "select", "[["].contains n
            | none => false
        if !isCompound then unexpected rest
        else
          let (body, rest) ← command fuel rest
          return (.define (delimiterOf w).1 body, rest)
      else
        match w with
        | [.text name false] =>
          if !isName name then .error ⟨.badName, lineOf ts, head ts⟩
          else do
            let (body, rest) ← command fuel (skipNewlines ts.tail)
            return (.define name body, rest)
        | _ => .error ⟨.badName, lineOf ts, head ts⟩
    | .word _ => .error ⟨.unexpected "word" (some "\")\""), lineOf ts, head ts⟩
    | _ => .error (misread ts (some "\")\""))

/-- Reads the words that a loop runs through, if they are given. -/
def loopHead : Nat → List Lexeme → Except Misread (Option (List Word) × List Lexeme)
  | 0, ts => unexpected ts
  | fuel + 1, ts => do
    let after := skipNewlines ts
    if isWord "in" after then
      let (ws, rest) ← loopWords fuel [] after.tail
      return (some ws, rest)
    else if head after == .operator ";" then return (none, after.tail)
    else return (none, after)

/-- Reads the body of a loop. -/
def loopBody : Nat → List Lexeme → Except Misread (Script × List Lexeme)
  | 0, ts => unexpected ts
  | fuel + 1, ts => do
    let ts := skipNewlines ts
    if g.rich && isWord "\x7b" ts then
      let (body, rest) ← list fuel false ts.tail
      return (body, ← expect "\x7d" rest)
    else
      let (body, rest) ← list fuel false (← expect "do" ts)
      return (body, ← expect "done" rest)

/-- Reads a compound command behind its first word. -/
def compound : Nat → Raw → List Lexeme → Except Misread (Script × List Lexeme)
  | 0, _, ts => unexpected ts
  | fuel + 1, w, ts =>
    let line := lineOf ts
    if w == "\x7b" then do
      let (body, rest) ← list fuel false ts
      return (body, ← expect "\x7d" rest)
    else if w == "if" then branches fuel ts
    else if w == "while" || w == "until" then do
      let (asked, rest) ← list fuel false ts
      let (body, rest) ← list fuel false (← expect "do" rest)
      return (.loop (w == "until") asked body, ← expect "done" rest)
    else if w == "for" then
      match head ts with
      | .sum source =>
        match threeSums? source with
        | some (a, b, c) => do
          let rest := if head ts.tail == .operator ";" then ts.tail.tail else ts.tail
          let (body, rest) ← loopBody fuel rest
          return (.count line a b c body, rest)
        | none => .error ⟨.badCount, lineOf ts, head ts⟩
      | .word [.text name false] => do
        if !isName name && !g.rich then .error ⟨.badLoopVariable, lineOf ts, head ts⟩
        else
          let (words, rest) ← loopHead fuel ts.tail
          let (body, rest) ← loopBody fuel rest
          return (.each line name words body, rest)
      | _ => if g.rich then unexpected ts else .error ⟨.badLoopVariable, lineOf ts, head ts⟩
    else
      match head ts with
      | .word subject => do
        let rest ← expect "in" (skipNewlines ts.tail)
        let (as, rest) ← arms fuel (skipNewlines rest)
        return (.select line subject as, rest)
      | _ => .error (misread ts (some "word"))

/-- Reads a condition, what it decides, and what comes otherwise. -/
def branches : Nat → List Lexeme → Except Misread (Script × List Lexeme)
  | 0, ts => unexpected ts
  | fuel + 1, ts => do
    let (asked, rest) ← list fuel false ts
    let (yes, rest) ← list fuel false (← expect "then" rest)
    if isWord "elif" rest then
      let (no, rest) ← branches fuel rest.tail
      return (.branch asked yes no, rest)
    else if isWord "else" rest then
      let (no, rest) ← list fuel false rest.tail
      return (.branch asked yes no, ← expect "fi" rest)
    else return (.branch asked yes .empty, ← expect "fi" rest)

def arms : Nat → List Lexeme → Except Misread (List (List Word × Script × ArmEnd) × List Lexeme)
  | 0, ts => unexpected ts
  | fuel + 1, ts =>
    if isWord "esac" ts then return ([], ts.tail)
    else do
      let start := if head ts == .operator "(" then ts.tail else ts
      let (ps, rest) ← patterns g fuel [] start
      let (body, rest) ← list fuel true rest
      if isWord "esac" rest then return ([(ps, body, .leave)], rest.tail)
      else
        let following (e : ArmEnd) : Except Misread (List (List Word × Script × ArmEnd) × List Lexeme) := do
          let (more, rest) ← arms fuel (skipNewlines rest.tail)
          return ((ps, body, e) :: more, rest)
        match head rest with
        | .operator ";;" => following .leave
        | .operator ";&" => following .enter
        | .operator ";;&" => following .tryOn
        | _ => .error (misread rest (some "\";;\""))

end

/-- Reads the commands up to the end of a line, which may lie behind further lines that belong to
them. -/
def lineOfCommands : Nat → List Lexeme → Except Misread (Script × List Lexeme)
  | 0, ts => unexpected ts
  | fuel + 1, ts => do
    let (a, rest) ← andOr g (8 * ts.length + 1000) ts
    let (a, more) := match head rest with
      | .operator "&" => (Script.background a, true)
      | .operator ";" => (a, true)
      | _ => (a, false)
    let rest := if more then rest.tail else rest
    match head rest with
    | .newline => return (a, rest.tail)
    | .finish => return (a, rest)
    | _ =>
      if more then
        let (b, rest) ← lineOfCommands fuel rest
        return (.sequence a b, rest)
      else unexpected rest

/-- Reads the next line of a script and what belongs to it, if there is one. -/
def next? (ts : List Lexeme) : Option (Except Misread (Script × List Lexeme)) :=
  let ts := skipNewlines ts
  if head ts == .finish then none else some (lineOfCommands g (ts.length + 1) ts)

/-! ## Complaints about the rich notation -/

/-- The text of a line of a script. -/
def lineText (source : Raw) (line : Nat) : Raw := ((source.splitOn "\n")[line - 1]?).getD ""

end Script

/-- The lines that tell, in the rich notation, why a script cannot be read, each behind the place it
is told from. -/
def Misread.lines (m : Misread) (source : Raw) : List (Nat × Raw) :=
  let lastLine := (source.splitOn "\n").length
  let ends : List (Nat × Raw) := [(lastLine + 1, "syntax error: unexpected end of file")]
  let open_ (line : Nat) (mark : Raw) : List (Nat × Raw) :=
    [(line, "unexpected EOF while looking for matching \x60" ++ mark ++ "'")]
  let quoted : List (Nat × Raw) := [(m.line, "\x60" ++ Script.lineText source m.line ++ "'")]
  match m.fault with
  | .openQuote mark => open_ m.line mark.toString
  | .openBackQuote => open_ m.line "\x60"
  | .openParen => open_ (lastLine + 1) ")"
  | .openRow => open_ m.line ")"
  | .openBrace => open_ m.line "\x7d"
  | .openArithmetic => open_ m.line ")"
  | .badCondition what =>
    let first := if what.isEmpty then [] else [(m.line, what)]
    match m.token with
    | .finish => [(lastLine + 1, "unexpected token \x60EOF' in conditional command")] ++ ends
    | t => first ++ [(m.line, "syntax error near \x60" ++ Script.tokenText t ++ "'")] ++ quoted
  | .badCount =>
    [(m.line, "syntax error: arithmetic expression required"),
      (m.line, "syntax error: \x60" ++ Script.tokenText m.token ++ "'")]
  | _ =>
    match m.token with
    | .finish => ends
    | t => (m.line, "syntax error near unexpected token \x60" ++ Script.tokenText t ++ "'") :: quoted

end Host.Shell

end PolicyGate
