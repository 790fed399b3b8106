import PolicyGate.Host.Raw
import PolicyGate.Width

/-!
# Sums in scripts

A sum is made of numbers, variables and operators, and can give variables new values. Its numbers are
signed and have sixty-four bits. Operands that do not count, such as the second of `0 && x`, are read
but not worked out.
-/

namespace PolicyGate

namespace Host.Shell

namespace Sum

inductive Term where
  | number (n : Int)
  | name (r : Raw)
  | operator (o : String)
  /-- A character that means nothing. -/
  | stray
  deriving DecidableEq, Repr

/-- Why a sum has no value. -/
inductive Fault where
  | expectingPrimary
  | expectingEnd
  | expectingClosing
  | expectingColon
  | byZero
  /-- A variable whose value is no number. -/
  | notANumber (r : Raw)
  deriving DecidableEq, Repr

def Fault.message (source : Raw) : Fault → Raw
  | .notANumber r => "Illegal number: " ++ r
  | f =>
    let what := match f with
      | .expectingPrimary => "expecting primary"
      | .expectingEnd => "expecting EOF"
      | .expectingClosing => "expecting ')'"
      | .expectingColon => "expecting ':'"
      | _ => "division by zero"
    "arithmetic expression: " ++ what ++ ": \"" ++ source ++ "\""

/-! ## Numbers -/

/-- Keeps a number within its bits. -/
def wrap (n : Int) : Int := Int.bmod n Width.of64

def digit? (base : Nat) (c : Char) : Option Nat :=
  let v := if c.isDigit then c.toNat - 48
    else if 'a' ≤ c.toLower && c.toLower ≤ 'f' then c.toLower.toNat - 87 else base
  if v < base then some v else none

/-- Reads a number, whose first digits tell its base. -/
def number (cs : List Char) : Int × List Char :=
  let read (base : Nat) (cs : List Char) : Int × List Char :=
    let ds := cs.takeWhile fun c => (digit? base c).isSome
    ((ds.foldl (fun n c => n * base + (digit? base c).getD 0) 0 : Nat), cs.drop ds.length)
  match cs with
  | '0' :: 'x' :: rest | '0' :: 'X' :: rest =>
    if rest.head?.any fun c => (digit? 16 c).isSome then read 16 rest else (0, cs.drop 1)
  | '0' :: _ => read 8 cs
  | _ => read 10 cs

/-- The largest number. -/
def largest : Int := (Width.of64 / 2 : Nat) - 1

/-- The number that a text is, with blanks around it. -/
def ofText? (r : Raw) : Option Int :=
  let isBlank (c : Char) : Bool := c == ' ' || ('\t' ≤ c && c ≤ '\r')
  let cs := r.toList.dropWhile isBlank
  let (negative, cs) := match cs with
    | '-' :: rest => (true, rest)
    | '+' :: rest => (false, rest)
    | cs => (false, cs)
  if !cs.head?.any Char.isDigit then (if r.toList.all isBlank then some 0 else none)
  else
    let (n, rest) := number cs
    if largest < n then none
    else if rest.all isBlank then some (if negative then -n else n) else none

/-! ## Terms -/

def operators : List String :=
  ["<<=", ">>=", "<<", ">>", "<=", ">=", "==", "!=", "&&", "||", "+=", "-=", "*=", "/=", "%=", "&=",
    "^=", "|=", "<", ">", "=", "!", "&", "|", "^", "~", "+", "-", "*", "/", "%", "(", ")", "?", ":"]

def terms : Nat → List Char → List Term
  | 0, _ => []
  | _ + 1, [] => []
  | fuel + 1, c :: cs =>
    if c == ' ' || c == '\t' || c == '\n' then terms fuel cs
    else if c.isDigit then
      let (n, rest) := number (c :: cs)
      .number (min n largest) :: terms fuel rest
    else if c.isAlpha || c == '_' then
      let isPart (d : Char) : Bool := d.isAlphanum || d == '_'
      let name := (c :: cs).takeWhile isPart
      .name (String.ofList name) :: terms fuel ((c :: cs).drop name.length)
    else
      match operators.find? fun o => o.toList.isPrefixOf (c :: cs) with
      | some o => .operator o :: terms fuel ((c :: cs).drop o.length)
      | none => .stray :: terms fuel cs

/-! ## Values -/

def ofBool (b : Bool) : Int := if b then 1 else 0

/-- The operators on bits of two numbers. -/
def onBits (f : Nat → Nat → Nat) (a b : Int) : Int :=
  wrap (f (a % Width.of64).toNat (b % Width.of64).toNat)

def combine (o : String) (a b : Int) : Except Fault Int :=
  if o == "+" then .ok (wrap (a + b))
  else if o == "-" then .ok (wrap (a - b))
  else if o == "*" then .ok (wrap (a * b))
  else if o == "/" then if b = 0 then .error .byZero else .ok (wrap (Int.tdiv a b))
  else if o == "%" then if b = 0 then .error .byZero else .ok (wrap (Int.tmod a b))
  else if o == "<<" then .ok (wrap (a * (1 <<< (b % 64).toNat : Nat)))
  else if o == ">>" then .ok (Int.fdiv a (1 <<< (b % 64).toNat : Nat))
  else if o == "&" then .ok (onBits (· &&& ·) a b)
  else if o == "|" then .ok (onBits (· ||| ·) a b)
  else if o == "^" then .ok (onBits (· ^^^ ·) a b)
  else if o == "==" then .ok (ofBool (a == b))
  else if o == "!=" then .ok (ofBool (a != b))
  else if o == "<=" then .ok (ofBool (a ≤ b))
  else if o == ">=" then .ok (ofBool (b ≤ a))
  else if o == "<" then .ok (ofBool (a < b))
  else .ok (ofBool (b < a))

/-- The levels of operators with two operands, the loosest first. -/
def levels : List (List String) :=
  [["|"], ["^"], ["&"], ["==", "!="], ["<=", ">=", "<", ">"], ["<<", ">>"], ["+", "-"],
    ["*", "/", "%"]]

/-- The operators that give a variable a value, with what they do to the old one. -/
def assigning : List (String × String) :=
  [("=", ""), ("+=", "+"), ("-=", "-"), ("*=", "*"), ("/=", "/"), ("%=", "%"), ("<<=", "<<"),
    (">>=", ">>"), ("&=", "&"), ("|=", "|"), ("^=", "^")]

/-- The values that variables have been given, the latest first. -/
abbrev Given := List (Raw × Int)

/-- The value of a variable. -/
def valueOf (values : Raw → Option Raw) (given : Given) (name : Raw) : Except Fault Int :=
  match given.lookup name with
  | some n => .ok n
  | none =>
    let r := (values name).getD ""
    match ofText? r with
    | some n => .ok n
    | none => .error (.notANumber r)

variable (values : Raw → Option Raw)

mutual

/-- Reads a sum that may give a variable a value. It is worked out only if it is live. -/
def assignment : Nat → Bool → Given → List Term → Except Fault (Int × Given × List Term)
  | 0, _, _, _ => .error .expectingPrimary
  | fuel + 1, live, given, ts =>
    match ts with
    | .name n :: .operator o :: rest =>
      match assigning.lookup o with
      | some base => do
        let (b, given, rest) ← assignment fuel live given rest
        if !live then return (b, given, rest)
        else
          let v ← if base.isEmpty then pure b else combine base (← valueOf values given n) b
          return (v, (n, v) :: given, rest)
      | none => choice fuel live given ts
    | _ => choice fuel live given ts

def choice : Nat → Bool → Given → List Term → Except Fault (Int × Given × List Term)
  | 0, _, _, _ => .error .expectingPrimary
  | fuel + 1, live, given, ts => do
    let (a, given, rest) ← disjunction fuel live given ts
    match rest with
    | .operator "?" :: rest => do
      let (b, given, rest) ← assignment fuel (live && a != 0) given rest
      match rest with
      | .operator ":" :: rest => do
        let (c, given, rest) ← choice fuel (live && a == 0) given rest
        return (if a != 0 then b else c, given, rest)
      | _ => .error .expectingColon
    | _ => return (a, given, rest)

def disjunction : Nat → Bool → Given → List Term → Except Fault (Int × Given × List Term)
  | 0, _, _, _ => .error .expectingPrimary
  | fuel + 1, live, given, ts => do
    let (a, given, rest) ← conjunction fuel live given ts
    match rest with
    | .operator "||" :: rest => do
      let (b, given, rest) ← disjunction fuel (live && a == 0) given rest
      return (ofBool (a != 0 || b != 0), given, rest)
    | _ => return (a, given, rest)

def conjunction : Nat → Bool → Given → List Term → Except Fault (Int × Given × List Term)
  | 0, _, _, _ => .error .expectingPrimary
  | fuel + 1, live, given, ts => do
    let (a, given, rest) ← level fuel live levels given ts
    match rest with
    | .operator "&&" :: rest => do
      let (b, given, rest) ← conjunction fuel (live && a != 0) given rest
      return (ofBool (a != 0 && b != 0), given, rest)
    | _ => return (a, given, rest)

/-- Reads the operands and operators of a level, which bind to the left. -/
def level : Nat → Bool → List (List String) → Given → List Term →
    Except Fault (Int × Given × List Term)
  | 0, _, _, _, _ => .error .expectingPrimary
  | fuel + 1, live, [], given, ts => primary fuel live given ts
  | fuel + 1, live, ops :: more, given, ts => do
    let (a, given, rest) ← level fuel live more given ts
    levelRest fuel live ops more a given rest

def levelRest : Nat → Bool → List String → List (List String) → Int → Given → List Term →
    Except Fault (Int × Given × List Term)
  | 0, _, _, _, _, _, _ => .error .expectingPrimary
  | fuel + 1, live, ops, more, a, given, ts =>
    match ts with
    | .operator o :: rest =>
      if ops.contains o then do
        let (b, given, rest) ← level fuel live more given rest
        let v ← if live then combine o a b else pure 0
        levelRest fuel live ops more v given rest
      else .ok (a, given, ts)
    | _ => .ok (a, given, ts)

def primary : Nat → Bool → Given → List Term → Except Fault (Int × Given × List Term)
  | 0, _, _, _ => .error .expectingPrimary
  | fuel + 1, live, given, ts =>
    match ts with
    | .number n :: rest => .ok (n, given, rest)
    | .name n :: rest => do
      let v ← if live then valueOf values given n else pure 0
      return (v, given, rest)
    | .operator "(" :: rest => do
      let (a, given, rest) ← assignment fuel live given rest
      match rest with
      | .operator ")" :: rest => return (a, given, rest)
      | _ => .error .expectingClosing
    | .operator "-" :: rest => do
      let (a, given, rest) ← primary fuel live given rest
      return (wrap (-a), given, rest)
    | .operator "+" :: rest => primary fuel live given rest
    | .operator "!" :: rest => do
      let (a, given, rest) ← primary fuel live given rest
      return (ofBool (a == 0), given, rest)
    | .operator "~" :: rest => do
      let (a, given, rest) ← primary fuel live given rest
      return (-a - 1, given, rest)
    | _ => .error .expectingPrimary

end

/-- The value of a sum, and the values that it gives variables, the latest first. An empty sum is
zero. -/
def value (source : Raw) : Except Fault (Int × Given) :=
  let ts := terms (source.length + 1) source.toList
  if ts.isEmpty then .ok (0, [])
  else do
    let (n, given, rest) ← assignment values (16 * ts.length + 32) true [] ts
    if rest.isEmpty then return (n, given) else .error .expectingEnd

end Sum

end Host.Shell

end PolicyGate
