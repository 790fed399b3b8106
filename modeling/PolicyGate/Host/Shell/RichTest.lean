import PolicyGate.Host.Shell.RichSetting

/-!
# Tests in the rich notation

What a test means depends on how many words it has. Only one that has more than four is read by the
signs for "and", "or" and "not" in it.
-/

namespace PolicyGate

namespace Host.Shell

namespace RichTest

def isUnary (w : Raw) : Bool :=
  match w.toList with
  | ['-', c] => "abcdefghknoprstuvwxzGLNOSR".toList.contains c
  | _ => false

def isBinary (w : Raw) : Bool :=
  ["=", "==", "!=", "<", ">", "-ef", "-nt", "-ot", "-eq", "-ne", "-lt", "-le", "-gt", "-ge"].contains w

/-- Whether a word looks like an operator with one operand. -/
def looksUnary (w : Raw) : Bool := w.startsWith "-" && w.length = 2

/-- Whether a variable, or a place in one, has a value. -/
def isSet (s : State) (word : Raw) : Bool :=
  let name := String.ofList (word.toList.takeWhile (· != '['))
  let rest := (word.toList.drop name.length).drop 1
  if rest.isEmpty then (s.parameter? name).isSome
  else
    let key := String.ofList rest.dropLast
    if key == "@" || key == "*" then ((s.items? name).map Items.size).getD 0 != 0
    else if (s.items? name).any Items.isTable then (s.element? name key).isSome
    else
      match RichSum.value s.sumNames key with
      | .ok (n, _) => (s.element? name (toString n)).isSome
      | .error _ => false

def unary (s : State) (op arg : Raw) : Bool :=
  if op == "-v" then isSet s arg
  else if op == "-o" then s.isRichOn arg
  else if op == "-R" then (s.stored? arg).any (·.refers)
  else if op == "-t" then false
  else if op == "-a" then Check.unary s.facts "-e" arg
  else if op == "-N" || op == "-b" || op == "-S" then false
  else Check.unary s.facts op arg

/-- Whether a path leads to something that has changed after what another leads to. -/
def isNewer (s : State) (a b : Raw) : Bool :=
  match Check.moment? s.facts a, Check.moment? s.facts b with
  | some x, some y => y < x
  | some _, none => true
  | none, _ => false

/-- The number in a word, or what is wrong with it. -/
def number (r : Raw) : Except Raw Int :=
  match State.integer? r with
  | some n => .ok n
  | none => .error (r ++ ": integer expression expected")

def compared (op : Raw) (x y : Int) : Bool :=
  if op == "-eq" then x == y
  else if op == "-ne" then x != y
  else if op == "-lt" then x < y
  else if op == "-le" then x ≤ y
  else if op == "-gt" then y < x
  else y ≤ x

def binary (s : State) (a op b : Raw) : Except Raw Bool :=
  if op == "=" || op == "==" then .ok (a == b)
  else if op == "!=" then .ok (a != b)
  else if op == "<" then .ok (a < b)
  else if op == ">" then .ok (b < a)
  else if op == "-nt" then .ok (isNewer s a b)
  else if op == "-ot" then .ok (isNewer s b a)
  else if op == "-ef" then Check.binary s.facts a op b
  else do return compared op (← number a) (← number b)

def two (s : State) (a b : Raw) : Except Raw Bool :=
  if a == "!" then .ok b.isEmpty
  else if isUnary a then .ok (unary s a b)
  else .error (a ++ ": unary operator expected")

def three (s : State) (a b c : Raw) : Except Raw Bool :=
  if isBinary b then binary s a b c
  else if b == "-a" then .ok (!a.isEmpty && !c.isEmpty)
  else if b == "-o" then .ok (!a.isEmpty || !c.isEmpty)
  else if a == "!" then (two s b c).map (!·)
  else if a == "(" && c == ")" then .ok (!b.isEmpty)
  else .error (b ++ ": binary operator expected")

mutual

def either (s : State) : Nat → List Raw → Except Raw (Bool × List Raw)
  | 0, _ => .error "too many arguments"
  | fuel + 1, ws => do
    let (a, rest) ← both s fuel ws
    match rest with
    | "-o" :: rest =>
      let (b, rest) ← either s fuel rest
      return (a || b, rest)
    | _ => return (a, rest)

def both (s : State) : Nat → List Raw → Except Raw (Bool × List Raw)
  | 0, _ => .error "too many arguments"
  | fuel + 1, ws => do
    let (a, rest) ← term s fuel ws
    match rest with
    | "-a" :: rest =>
      let (b, rest) ← both s fuel rest
      return (a && b, rest)
    | _ => return (a, rest)

def term (s : State) : Nat → List Raw → Except Raw (Bool × List Raw)
  | 0, _ => .error "too many arguments"
  | fuel + 1, ws =>
    match ws with
    | [] => .error "argument expected"
    | "!" :: rest => do
      let (a, rest) ← term s fuel rest
      return (!a, rest)
    | "(" :: rest => do
      let (a, rest) ← either s fuel rest
      match rest with
      | ")" :: rest => return (a, rest)
      | w :: _ => throw ("\x60)' expected, found " ++ w)
      | [] => throw "\x60)' expected"
    | a :: op :: b :: rest =>
      if isBinary op then do return (← binary s a op b, rest)
      else if isUnary a then .ok (unary s a op, b :: rest)
      else if looksUnary a then .error (a ++ ": unary operator expected")
      else .ok (!a.isEmpty, op :: b :: rest)
    | [a, b] =>
      if isUnary a then .ok (unary s a b, [])
      else if looksUnary a then .error (a ++ ": unary operator expected")
      else .ok (!a.isEmpty, [b])
    | [a] => if isUnary a then .error "argument expected" else .ok (!a.isEmpty, [])

end

/-- Whether a test holds, or what is wrong with it. -/
def holds (s : State) : List Raw → Except Raw Bool
  | [] => .ok false
  | [a] => .ok (!a.isEmpty)
  | [a, b] => two s a b
  | [a, b, c] => three s a b c
  | words =>
    let read (words : List Raw) : Except Raw Bool := do
      let (b, rest) ← either s (8 * words.length + 16) words
      if rest.isEmpty then return b else throw "too many arguments"
    match words with
    | [a, b, c, d] =>
      if a == "!" then (three s b c d).map (!·)
      else if a == "(" && d == ")" then two s b c
      else read words
    | words => read words

end RichTest

end Host.Shell

end PolicyGate
