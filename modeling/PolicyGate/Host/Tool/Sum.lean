import PolicyGate.Host.Regex.Written
import PolicyGate.Host.Tool.Say

/-!
# Sums of words

A sum is written in words: values, operators of a few levels and brackets. Its value is a text, and
the status says whether that counts as none.
-/

namespace PolicyGate

namespace Host.Tool

/-! ## Values -/

/-- The value of a sum: a text, which may be a number. -/
def isInteger (r : Raw) : Bool :=
  match r.toList with
  | '-' :: c :: cs => (c :: cs).all Char.isDigit
  | c :: cs => (c :: cs).all Char.isDigit
  | [] => false

def integer (r : Raw) : Int :=
  match r.toList with
  | '-' :: cs => -(numberOf cs : Int)
  | cs => numberOf cs

/-- Why a sum cannot be worked out. -/
inductive SumFault where
  | notANumber
  | byZero
  | unexpected (r : Raw)
  | missingAfter (r : Raw)
  | missingClosing (r : Raw)
  | notClosing (r : Raw)
  | unexpectedClosing
  | pattern (r : Raw)

def SumFault.message : SumFault → Raw
  | .notANumber => "non-integer argument"
  | .byZero => "division by zero"
  | .unexpected r => "syntax error: unexpected argument '" ++ r ++ "'"
  | .missingAfter r => "syntax error: missing argument after '" ++ r ++ "'"
  | .missingClosing r => "syntax error: expecting ')' after '" ++ r ++ "'"
  | .notClosing r => "syntax error: expecting ')' instead of '" ++ r ++ "'"
  | .unexpectedClosing => "syntax error: unexpected ')'"
  | .pattern r => r

def truth (b : Bool) : Raw := if b then "1" else "0"

/-- Whether a value counts as none. -/
def isNull (r : Raw) : Bool := r.isEmpty || (isInteger r && integer r == 0)

/-- What an operator makes of two values. -/
def combined (op a b : Raw) : Except SumFault Raw :=
  let numbers (f : Int → Int → Except SumFault Raw) : Except SumFault Raw :=
    if isInteger a && isInteger b then f (integer a) (integer b) else .error .notANumber
  let compare (text : Bool) (f : Int → Int → Bool) : Except SumFault Raw :=
    .ok (truth (if isInteger a && isInteger b then f (integer a) (integer b) else text))
  if op == "+" then numbers fun x y => .ok (toString (x + y))
  else if op == "-" then numbers fun x y => .ok (toString (x - y))
  else if op == "*" then numbers fun x y => .ok (toString (x * y))
  else if op == "/" then
    numbers fun x y => if y = 0 then .error .byZero else .ok (toString (Int.tdiv x y))
  else if op == "%" then
    numbers fun x y => if y = 0 then .error .byZero else .ok (toString (Int.tmod x y))
  else if op == "=" || op == "==" then compare (a == b) (· == ·)
  else if op == "!=" then compare (a != b) (· != ·)
  else if op == "<" then compare (a < b) fun x y => x < y
  else if op == "<=" then compare (!(b < a)) fun x y => x ≤ y
  else if op == ">" then compare (b < a) fun x y => y < x
  else if op == ">=" then compare (!(a < b)) fun x y => y ≤ x
  else if op == "&" then .ok (if isNull a || isNull b then "0" else a)
  else .ok (if !isNull a then a else if isNull b then "0" else b)

/-! ## Reading -/

/-- The operators from the loosest to the tightest. -/
def sumLevels : List (List Raw) :=
  [["|"], ["&"], ["<", "<=", "=", "==", "!=", ">=", ">"], ["+", "-"], ["*", "/", "%"], [":"]]

/-- What a pattern fits at the front of a text: what its first group fits, or how long the fit is. -/
def matched (text pattern : Raw) : Except SumFault Raw :=
  match Regex.parse { lenient := true } pattern with
  | .error e => .error (.pattern e.message)
  | .ok r =>
    let chars := text.toList.toArray
    let hasGroup := ["\\("].any fun g => 1 < (pattern.splitOn g).length
    match Regex.longest (Regex.ends { chars } r ⟨0, []⟩) with
    | none => .ok (if hasGroup then "" else "0")
    | some p =>
      match p.groups.lookup 1 with
      | some (a, b) => .ok (String.ofList (chars.extract a b).toList)
      | none => .ok (if hasGroup then "" else toString p.index)

/-- The words of a sum from a place on, with the word in front of it. -/
structure SumWords where
  last : Raw
  rest : List Raw

mutual

/-- Reads a value of a level, which binds to the left. What no answer depends on is read but not
worked out. -/
def sumOf : Nat → Bool → List (List Raw) → SumWords → Except SumFault (Raw × SumWords)
  | 0, _, _, _ => .error .notANumber
  | fuel + 1, wanted, [], ws => sumOperand fuel wanted ws
  | fuel + 1, wanted, ops :: more, ws => do
    let (a, ws) ← sumOf fuel wanted more ws
    sumMore fuel wanted ops more a ws

def sumMore : Nat → Bool → List Raw → List (List Raw) → Raw → SumWords →
    Except SumFault (Raw × SumWords)
  | 0, _, _, _, _, _ => .error .notANumber
  | fuel + 1, wanted, ops, more, a, ws =>
    match ws.rest with
    | op :: rest =>
      if ops.contains op then do
        let needed := if op == "|" then isNull a else if op == "&" then !isNull a else true
        let (b, ws) ← sumOf fuel (wanted && needed) more ⟨op, rest⟩
        let v ← if !wanted then .ok a else if op == ":" then matched a b else combined op a b
        sumMore fuel wanted ops more v ws
      else .ok (a, ws)
    | [] => .ok (a, ws)

def sumOperand : Nat → Bool → SumWords → Except SumFault (Raw × SumWords)
  | 0, _, _ => .error .notANumber
  | fuel + 1, wanted, ws =>
    match ws.rest with
    | [] => .error (.missingAfter ws.last)
    | "(" :: rest => do
      let (v, ws) ← sumOf fuel wanted sumLevels ⟨"(", rest⟩
      match ws.rest with
      | ")" :: rest => .ok (v, ⟨")", rest⟩)
      | [] => .error (.missingClosing ws.last)
      | w :: _ => .error (.notClosing w)
    | ")" :: _ => .error .unexpectedClosing
    | "length" :: rest => do
      let (v, ws) ← sumOperand fuel wanted ⟨"length", rest⟩
      .ok (toString v.length, ws)
    | "match" :: rest => do
      let (a, ws) ← sumOperand fuel wanted ⟨"match", rest⟩
      let (b, ws) ← sumOperand fuel wanted ws
      let v ← if wanted then matched a b else .ok a
      .ok (v, ws)
    | "substr" :: rest => do
      let (v, ws) ← sumOperand fuel wanted ⟨"substr", rest⟩
      let (a, ws) ← sumOperand fuel wanted ws
      let (b, ws) ← sumOperand fuel wanted ws
      let cut :=
        if isInteger a && isInteger b && 0 < integer a && 0 < integer b then
          String.ofList ((v.toList.drop ((integer a).toNat - 1)).take (integer b).toNat)
        else ""
      .ok (cut, ws)
    | "index" :: rest => do
      let (v, ws) ← sumOperand fuel wanted ⟨"index", rest⟩
      let (set, ws) ← sumOperand fuel wanted ws
      let place := (v.toList.findIdx? fun c => set.toList.contains c).map (· + 1)
      .ok (toString (place.getD 0), ws)
    | "+" :: rest =>
      match rest with
      | [] => .error (.missingAfter "+")
      | w :: rest => .ok (w, ⟨w, rest⟩)
    | w :: rest => .ok (w, ⟨w, rest⟩)

end

def expr (args : List Raw) : Ran :=
  let args := if args.head? == some "--" then args.tail else args
  if args.isEmpty then ({ tool := "expr", refusal := 2 } : Known).refuse "missing operand"
  else
    match sumOf (16 * args.length + 32) true sumLevels ⟨"", args⟩ with
    | .error e => complain ("expr: " ++ e.message) 2
    | .ok (v, ⟨_, []⟩) => said (v ++ "\n") (if isNull v then 1 else 0)
    | .ok (_, ⟨_, w :: _⟩) => complain ("expr: " ++ (SumFault.unexpected w).message) 2

end Host.Tool

end PolicyGate
