import PolicyGate.Host.Shell.Sum

/-!
# Sums in the rich notation

These sums have powers, lists, steps up and down and numbers in other bases, and a variable may stand
for a sum itself. Complaints show the sum and what is left of it from the term that is wrong. Values
that variables are given on the way are kept apart, so that they are gone if the sum has none.
-/

namespace PolicyGate

namespace Host.Shell

namespace RichSum

/-- What is wrong with a sum. -/
inductive Cause where
  | expectingOperand
  | expectingOperator
  | expectingEnd
  | expectingExpression
  | expectingColon
  | expectingClosing
  | notAVariable
  | needsVariable (operator : String)
  | byZero
  | negativePower
  | tooGreat
  | badBase
  | badConstant
  | badPlace
  | tooDeep
  | unbound (name : Raw)
  deriving DecidableEq, Repr

def Cause.message : Cause → Raw
  | .expectingOperand => "syntax error: operand expected"
  | .expectingOperator => "syntax error: invalid arithmetic operator"
  | .expectingEnd => "syntax error in expression"
  | .expectingExpression => "expression expected"
  | .expectingColon => "\x60:' expected for conditional expression"
  | .expectingClosing => "missing \x60)'"
  | .notAVariable => "attempted assignment to non-variable"
  | .needsVariable o => o ++ ": assignment requires lvalue"
  | .byZero => "division by 0"
  | .negativePower => "exponent less than 0"
  | .tooGreat => "value too great for base"
  | .badBase => "invalid arithmetic base"
  | .badConstant => "invalid integer constant"
  | .badPlace => "bad array subscript"
  | .tooDeep => "expression recursion level exceeded"
  | .unbound _ => "unbound variable"

/-- Why a sum has no value: the sum, as far as it is shown, and what is left of it from the wrong term
on. -/
structure Fault where
  cause : Cause
  shown : Raw
  left : Raw
  deriving DecidableEq, Repr

def Fault.message (f : Fault) : Raw :=
  match f.cause with
  | .unbound name => name ++ ": unbound variable"
  | c =>
    let shown := String.ofList (f.shown.toList.dropWhile fun c => c == ' ' || c == '\t')
    shown ++ ": " ++ c.message ++ " (error token is \"" ++ f.left ++ "\")"

/-! ## Terms -/

inductive Term where
  | number (n : Int)
  /-- A variable, with what stands in brackets behind it. -/
  | name (r : Raw) (place : Option Raw)
  | operator (o : String)
  /-- A step up or down, in front of a variable or behind it. -/
  | before (step : Int)
  | behind (step : Int)
  | wrong (cause : Cause)
  deriving DecidableEq, Repr

/-- A term, what is left of the sum from its start, and what lies behind it. -/
structure Spot where
  term : Term
  start : List Char
  rest : List Char
  deriving DecidableEq, Repr

def isBlank (c : Char) : Bool := c == ' ' || c == '\t' || c == '\n'

def isNameStart (c : Char) : Bool := c.isAlpha || c == '_'

def isNamePart (c : Char) : Bool := c.isAlphanum || c == '_'

/-- The value of a digit, whose case counts in bases above 36. -/
def digit? (base : Nat) (c : Char) : Option Nat :=
  if c.isDigit then some (c.toNat - 48)
  else if c.isLower then some (c.toNat - 87)
  else if c.isUpper then some (c.toNat - (if base ≤ 36 then 55 else 29))
  else if c == '@' then some 62
  else if c == '_' then some 63
  else none

/-- The value of digits, as many bits of it as count. -/
def digits (base : Nat) (cs : List Char) : Except Cause Int := do
  let step (acc : Except Cause Nat) (c : Char) : Except Cause Nat := do
    let n ← acc
    match digit? base c with
    | some d => if d < base then return (n * base + d) % Width.of64 else throw .tooGreat
    | none => throw .tooGreat
  return Sum.wrap (← cs.foldl step (.ok 0))

/-- The number that some characters write, whose front may tell its base. -/
def number (cs : List Char) : Except Cause Int :=
  match cs with
  | '0' :: 'x' :: rest | '0' :: 'X' :: rest => digits 16 rest
  | '0' :: rest => digits 8 rest
  | _ =>
    let front := cs.takeWhile (· != '#')
    match cs.drop front.length with
    | [] => digits 10 cs
    | _ :: rest => do
      let base ← digits 10 front
      if base < 2 || 64 < base then throw .badBase
      else if !rest.head?.any (fun c => c.isAlphanum || c == '@' || c == '_') then throw .badConstant
      else digits base.toNat rest

/-- The operators, the longer ones first. -/
def operators : List String :=
  ["<<=", ">>=", "==", "!=", ">=", "<=", "<<", ">>", "&&", "||", "**", "*=", "/=", "+=", "-=", "%=",
    "&=", "^=", "|=", "=", ">", "<", "+", "-", "*", "/", "%", "!", "(", ")", "&", "|", "^", "~", "?",
    ":", ","]

/-- The characters of a place behind its opening bracket, up to the bracket that closes it. -/
def placeText : Nat → List Char → List Char → Option (List Char × List Char)
  | _, _, [] => none
  | depth, done, c :: cs =>
    if c == ']' then
      match depth with
      | 0 => some (done.reverse, cs)
      | n + 1 => placeText n (c :: done) cs
    else placeText (if c == '[' then depth + 1 else depth) (c :: done) cs

/-- Whether what has been read last can be followed by an operand only. -/
def wantsOperand : Option Term → Bool
  | none => true
  | some (.operator o) => o != ")"
  | some (.before _) => true
  | _ => false

/-- Reads the terms of a sum, given the one before. -/
def terms : Nat → Option Term → List Char → List Spot
  | 0, _, _ => []
  | fuel + 1, last, cs =>
    match cs.dropWhile isBlank with
    | [] => []
    | c :: rest =>
      let start := c :: rest
      let found (t : Term) (rest : List Char) : List Spot := ⟨t, start, rest⟩ :: terms fuel (some t) rest
      let wrong (cause : Cause) : List Spot := [⟨.wrong cause, start, []⟩]
      if isNameStart c then
        let name := start.takeWhile isNamePart
        match start.drop name.length with
        | '[' :: more =>
          match placeText 0 [] more with
          | some (inside, rest) => found (.name (String.ofList name) (some (String.ofList inside))) rest
          | none => wrong .badPlace
        | rest => found (.name (String.ofList name) none) rest
      else if c.isDigit then
        let text := start.takeWhile fun d => d.isAlphanum || d == '#' || d == '@' || d == '_'
        match number text with
        | .ok n => found (.number n) (start.drop text.length)
        | .error cause => [⟨.wrong cause, start, start.drop text.length⟩]
      else if (c == '+' || c == '-') && rest.head? == some c then
        let step : Int := if c == '+' then 1 else -1
        let isName := match last with
          | some (.name ..) => true
          | _ => false
        let named := (rest.tail.dropWhile isBlank).head?.any isNameStart
        if isName then found (.behind step) rest.tail
        else if named then found (.before step) rest.tail
        else found (.operator c.toString) rest
      else
        match operators.find? fun o => o.toList.isPrefixOf start with
        | some o => found (.operator o) (start.drop o.length)
        | none => wrong (if wantsOperand last then .expectingOperand else .expectingOperator)

/-! ## Values -/

/-- What a sum can ask about variables. -/
structure Names where
  /-- The value of a variable at a place, the first place being that of a variable without any. -/
  value? : Raw → Raw → Option Raw
  /-- Whether places are texts rather than numbers. -/
  isTable : Raw → Bool
  /-- The number behind the last place of a row. -/
  size : Raw → Nat
  /-- Whether every variable must have a value. -/
  strict : Bool := false

/-- A variable or a place in one that is given a value. -/
structure Target where
  name : Raw
  place : Option Raw
  deriving DecidableEq, Repr

/-- Where a sum is read: what is left of it, the start of the last term that was looked at, and the
values given so far, the latest first. -/
structure Reading where
  spots : List Spot
  looked : List Char
  given : List (Target × Int)

namespace Reading

def head? (r : Reading) : Option Term := r.spots.head?.map (·.term)

/-- Goes on behind the first term. -/
def next (r : Reading) : Reading :=
  let spots := r.spots.tail
  { r with spots, looked := (spots.head?.map (·.start)).getD r.looked }

def isAt (r : Reading) (o : String) : Bool := r.head? == some (.operator o)

/-- The value that a variable has been given on the way. -/
def given? (r : Reading) (name place : Raw) : Option Int :=
  (r.given.find? fun g => g.1.name == name && g.1.place.getD "0" == place).map (·.2)

def give (r : Reading) (t : Target) (n : Int) : Reading := { r with given := (t, n) :: r.given }

end Reading

def combine (o : String) (a b : Int) : Int :=
  match Sum.combine o a b with
  | .ok n => n
  | .error _ => 0

/-- A power, as many bits of it as count. -/
def power : Nat → Int → Int
  | 0, _ => 1
  | n + 1, a =>
    let half := power ((n + 1) / 2) a
    let square := Sum.wrap (half * half)
    if (n + 1) % 2 = 0 then square else Sum.wrap (square * a)

/-- What a reading gives. -/
abbrev Found := Except Fault (Int × Reading)

/-- A sum that is worked out: its names, its text, and how many sums may still stand in variables. -/
structure Work where
  names : Names
  source : Raw
  depth : Nat

def fail {α : Type} (source : Raw) (cause : Cause) (left : List Char) : Except Fault α :=
  .error ⟨cause, source, String.ofList left⟩

/-- A fault where the reading stands. -/
def refuse (source : Raw) (r : Reading) (cause : Cause) : Found :=
  match r.spots.head? with
  | some ⟨.wrong c, start, rest⟩ =>
    let isNumber := start.head?.any Char.isDigit
    if !isNumber then fail source c start
    else
      let size := start.length - rest.length
      fail (String.ofList (source.toList.take (source.length - rest.length))) c (start.take size)
  | _ => fail source cause r.looked

mutual

/-- Reads sums with commas between them, of which the last one counts. A sum is worked out only if it
is live. -/
def commas (w : Work) : Nat → Bool → Reading → Found
  | 0, _, r => fail w.source .tooDeep r.looked
  | fuel + 1, live, r => do
    let (a, r) ← assignment w fuel live r
    if r.isAt "," then commas w fuel live r.next else return (a, r)

def assignment (w : Work) : Nat → Bool → Reading → Found
  | 0, _, r => fail w.source .tooDeep r.looked
  | fuel + 1, live, r =>
    let second : Option Term := r.spots.tail.head?.map fun s => s.term
    match r.head?, second with
    | some (.name n place), some (.operator o) =>
      match Sum.assigning.lookup o with
      | some base => do
        let (key, r) ← keyOf w fuel live n place r
        let old ← if base.isEmpty then pure 0 else valueOf w fuel live n key r
        let right := r.next.next
        let (b, r) ← assignment w fuel live right
        if !live then return (b, r)
        else if (base == "/" || base == "%") && b = 0 then fail w.source .byZero right.looked
        else
          let v := if base.isEmpty then b else combine base old b
          return (v, r.give ⟨n, if place.isSome then some key else none⟩ v)
      | none => unassigned w fuel live r
    | _, _ => unassigned w fuel live r

/-- Reads a sum that gives no variable a value. -/
def unassigned (w : Work) : Nat → Bool → Reading → Found
  | 0, _, r => fail w.source .tooDeep r.looked
  | fuel + 1, live, r => do
    let (a, r) ← choice w fuel live r
    match r.head? with
    | some (.operator o) =>
      if (Sum.assigning.lookup o).isSome then refuse w.source r .notAVariable else return (a, r)
    | _ => return (a, r)

def choice (w : Work) : Nat → Bool → Reading → Found
  | 0, _, r => fail w.source .tooDeep r.looked
  | fuel + 1, live, r => do
    let (a, r) ← disjunction w fuel live r
    if !r.isAt "?" then return (a, r)
    else
      let r := r.next
      if r.spots.isEmpty || r.isAt ":" then refuse w.source r .expectingExpression
      else
        let (b, r) ← commas w fuel (live && a != 0) r
        if !r.isAt ":" then refuse w.source r .expectingColon
        else
          let r := r.next
          if r.spots.isEmpty then refuse w.source r .expectingExpression
          else
            let (c, r) ← choice w fuel (live && a == 0) r
            return (if a != 0 then b else c, r)

def disjunction (w : Work) : Nat → Bool → Reading → Found
  | 0, _, r => fail w.source .tooDeep r.looked
  | fuel + 1, live, r => do
    let (a, r) ← conjunction w fuel live r
    if r.isAt "||" then
      let (b, r) ← disjunction w fuel (live && a == 0) r.next
      return (Sum.ofBool (a != 0 || b != 0), r)
    else return (a, r)

def conjunction (w : Work) : Nat → Bool → Reading → Found
  | 0, _, r => fail w.source .tooDeep r.looked
  | fuel + 1, live, r => do
    let (a, r) ← level w fuel live Sum.levels r
    if r.isAt "&&" then
      let (b, r) ← conjunction w fuel (live && a != 0) r.next
      return (Sum.ofBool (a != 0 && b != 0), r)
    else return (a, r)

/-- Reads the operands and operators of a level, which bind to the left. -/
def level (w : Work) : Nat → Bool → List (List String) → Reading → Found
  | 0, _, _, r => fail w.source .tooDeep r.looked
  | fuel + 1, live, [], r => powers w fuel live r
  | fuel + 1, live, ops :: more, r => do
    let (a, r) ← level w fuel live more r
    levelRest w fuel live ops more a r

def levelRest (w : Work) :
    Nat → Bool → List String → List (List String) → Int → Reading → Found
  | 0, _, _, _, _, r => fail w.source .tooDeep r.looked
  | fuel + 1, live, ops, more, a, r =>
    match r.head? with
    | some (.operator o) =>
      if ops.contains o then do
        let right := r.next
        let (b, r) ← level w fuel live more right
        if live && (o == "/" || o == "%") && b = 0 then fail w.source .byZero right.looked
        else levelRest w fuel live ops more (if live then combine o a b else 0) r
      else .ok (a, r)
    | _ => .ok (a, r)

def powers (w : Work) : Nat → Bool → Reading → Found
  | 0, _, r => fail w.source .tooDeep r.looked
  | fuel + 1, live, r => do
    let (a, r) ← sign w fuel live r
    if r.isAt "**" then
      let (b, r) ← powers w fuel live r.next
      if b < 0 then refuse w.source r .negativePower else return (power b.toNat a, r)
    else return (a, r)

def sign (w : Work) : Nat → Bool → Reading → Found
  | 0, _, r => fail w.source .tooDeep r.looked
  | fuel + 1, live, r =>
    if r.isAt "!" then do
      let (a, r) ← sign w fuel live r.next
      return (Sum.ofBool (a == 0), r)
    else if r.isAt "~" then do
      let (a, r) ← sign w fuel live r.next
      return (-a - 1, r)
    else if r.isAt "-" then do
      let (a, r) ← sign w fuel live r.next
      return (Sum.wrap (-a), r)
    else if r.isAt "+" then sign w fuel live r.next
    else operand w fuel live r

def operand (w : Work) : Nat → Bool → Reading → Found
  | 0, _, r => fail w.source .tooDeep r.looked
  | fuel + 1, live, r =>
    match r.head? with
    | some (.number n) => .ok (n, r.next)
    | some (.before step) =>
      match r.next.head? with
      | some (.name n place) => do
        let (key, r) ← keyOf w fuel live n place r.next
        let v := Sum.wrap ((← valueOf w fuel live n key r) + step)
        let r := r.next
        match r.head? with
        | some (.behind s) => refuse w.source r (.needsVariable (if s = 1 then "++" else "--"))
        | _ => return (v, if live then r.give ⟨n, if place.isSome then some key else none⟩ v else r)
      | _ => refuse w.source r.next .expectingOperand
    | some (.name n place) => do
      let (key, r) ← keyOf w fuel live n place r
      let v ← valueOf w fuel live n key r
      let r := r.next
      match r.head? with
      | some (.behind step) =>
        let r := r.next
        let target : Target := ⟨n, if place.isSome then some key else none⟩
        return (v, if live then r.give target (Sum.wrap (v + step)) else r)
      | _ => return (v, r)
    | some (.operator "(") => do
      let (a, r) ← commas w fuel live r.next
      if r.isAt ")" then return (a, r.next) else refuse w.source r .expectingClosing
    | _ => refuse w.source r .expectingOperand

/-- The place that brackets stand for. -/
def keyOf (w : Work) :
    Nat → Bool → Raw → Option Raw → Reading → Except Fault (Raw × Reading)
  | 0, _, _, _, r => fail w.source .tooDeep r.looked
  | fuel + 1, live, name, place, r =>
    match place with
    | none => .ok ("0", r)
    | some text =>
      if w.names.isTable name then .ok (text, r)
      else if !live then .ok ("0", r)
      else do
        let (n, given) ← whole fuel { w with source := text } r.given
        let n := if n < 0 then n + w.names.size name else n
        if n < 0 then fail w.source .badPlace r.looked else return (toString n, { r with given })

/-- The value of a variable, which is a sum itself. -/
def valueOf (w : Work) :
    Nat → Bool → Raw → Raw → Reading → Except Fault Int
  | 0, _, _, _, r => fail w.source .tooDeep r.looked
  | fuel + 1, live, name, key, r =>
    if !live then .ok 0
    else
      match r.given? name key with
      | some n => .ok n
      | none =>
        match w.names.value? name key with
        | none => if w.names.strict then fail w.source (.unbound name) r.looked else .ok 0
        | some text =>
          match w.depth with
          | 0 => fail w.source .tooDeep r.looked
          | depth + 1 => do
            let (n, _) ← whole fuel { w with source := text, depth } r.given
            return n

/-- The value of a whole sum, given the values that variables have been given before. -/
def whole : Nat → Work → List (Target × Int) → Except Fault (Int × List (Target × Int))
  | 0, w, _ => fail w.source .tooDeep w.source.toList
  | fuel + 1, w, given =>
    let spots := terms (w.source.length + 1) none w.source.toList
    if spots.isEmpty then .ok (0, given)
    else do
      let r : Reading := ⟨spots, (spots.head?.map (·.start)).getD [], given⟩
      let (n, r) ← commas w fuel true r
      if r.spots.isEmpty then return (n, r.given)
      else
        let (_, r) ← refuse w.source r .expectingEnd
        return (n, r.given)

end

/-- How many sums may stand in one another's variables. -/
def depthLimit : Nat := 1024

/-- The value of a sum, and the values that it gives variables, the latest first. -/
def value (names : Names) (source : Raw) : Except Fault (Int × List (Target × Int)) :=
  whole 60000 ⟨names, source, depthLimit⟩ []

end RichSum

end Host.Shell

end PolicyGate
