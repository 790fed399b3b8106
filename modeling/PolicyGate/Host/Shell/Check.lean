import PolicyGate.Host.Files
import PolicyGate.Host.Shell.Sum

/-!
# Tests in scripts

A test is written in words: an operator and what it is asked of, joined by signs for "and", "or" and
"not" and by brackets. Whether a word is an operator depends on the words around it.
-/

namespace PolicyGate

namespace Host.Shell

namespace Check

/-- What a test can ask. -/
structure Facts where
  /-- What a path leads to. -/
  found : Raw → Option Reached
  /-- What a path leads to, without following a link at its end. -/
  named : Raw → Option Reached
  /-- Whether a descriptor is a pipe, and whether it is open. -/
  isPipe : Nat → Bool
  isOpen : Nat → Bool

/-- What an operator takes. -/
inductive Role where
  | unary
  | binary
  | negation
  | junction
  | bracket
  deriving DecidableEq, Repr

def role? (w : Raw) : Option Role :=
  if ["-r", "-w", "-x", "-e", "-f", "-d", "-c", "-b", "-p", "-u", "-g", "-k", "-s", "-t", "-z", "-n",
    "-h", "-O", "-G", "-L", "-S"].contains w then some .unary
  else if ["=", "!=", "<", ">", "-eq", "-ne", "-ge", "-gt", "-le", "-lt", "-nt", "-ot", "-ef"].contains w
  then some .binary
  else if w == "!" then some .negation
  else if w == "-a" || w == "-o" then some .junction
  else if w == "(" || w == ")" then some .bracket
  else none

/-- Whether what follows makes an operator with one operand a mere word. -/
def isMereWord (words : Array Raw) (i : Nat) : Bool :=
  match words[i + 1]?, words[i + 2]? with
  | none, _ => true
  | some _, none => false
  | some n, some _ => role? n == some .binary

/-- The operator that stands at some place, if the word there is taken for one. -/
def operatorAt? (words : Array Raw) (i : Nat) : Option Raw :=
  (words[i]?).filter fun w =>
    match role? w with
    | none => false
    | some .unary => !isMereWord words i
    | some .bracket => !(w == "(" && (words[i + 1]?).isNone)
    | some _ => true

def number (r : Raw) : Except Raw Int :=
  match Sum.ofText? r with
  | some n => if r.isEmpty then .error "Illegal number: " else .ok n
  | none => .error ("Illegal number: " ++ r)

variable (facts : Facts)

/-- The descriptor that a path stands for. -/
def descriptor? (path : Raw) : Option Nat :=
  (facts.found path).bind fun r =>
    match r.node.content with
    | .device (.descriptor n) => some n
    | _ => none

/-- Whether there is a node at a path that is as it is asked for. -/
def isNode (path : Raw) (p : Node → Bool) : Bool := (facts.found path).any fun r => p r.node

def unary (op arg : Raw) : Bool :=
  let piped := (descriptor? facts arg).map facts.isPipe
  let there := match descriptor? facts arg with
    | some n => facts.isOpen n
    | none => (facts.found arg).isSome
  if op == "-n" then !arg.isEmpty
  else if op == "-z" then arg.isEmpty
  else if op == "-f" then isNode facts arg Node.isFile
  else if op == "-d" then isNode facts arg Node.isDirectory
  else if op == "-c" then
    piped != some true && there && isNode facts arg fun n =>
      match n.content with
      | .device _ => true
      | _ => false
  else if op == "-p" then
    piped == some true || isNode facts arg fun n => n.content == .channel
  else if op == "-h" || op == "-L" then (facts.named arg).any fun r => r.node.isLink
  else if op == "-u" then isNode facts arg fun n => n.mode / 2048 % 2 == 1
  else if op == "-g" then isNode facts arg fun n => n.mode / 1024 % 2 == 1
  else if op == "-k" then isNode facts arg fun n => n.mode / 512 % 2 == 1
  else if ["-e", "-r", "-w", "-O", "-G", "-a"].contains op then there
  else if op == "-x" then isNode facts arg fun n => n.isDirectory || n.isExecutable
  else if op == "-s" then isNode facts arg fun n => n.isDirectory || n.size != 0
  else false

/-- The moment at which what a path leads to has been changed. -/
def moment? (path : Raw) : Option Int := (facts.found path).map fun r => r.node.modified

def binary (a op b : Raw) : Except Raw Bool :=
  let numeric (f : Int → Int → Bool) : Except Raw Bool := do return f (← number a) (← number b)
  if op == "=" then .ok (a == b)
  else if op == "!=" then .ok (a != b)
  else if op == "<" then .ok (a < b)
  else if op == ">" then .ok (b < a)
  else if op == "-eq" then numeric (· == ·)
  else if op == "-ne" then numeric (· != ·)
  else if op == "-lt" then numeric fun x y => x < y
  else if op == "-le" then numeric fun x y => x ≤ y
  else if op == "-gt" then numeric fun x y => y < x
  else if op == "-ge" then numeric fun x y => y ≤ x
  else if op == "-ef" then
    .ok ((facts.found a).any fun x => (facts.found b).any fun y => x.number == y.number)
  else if op == "-nt" then
    .ok ((moment? facts a).any fun x => (moment? facts b).any fun y => y < x)
  else if op == "-ot" then
    .ok ((moment? facts a).any fun x => (moment? facts b).any fun y => x < y)
  else .ok false

mutual

/-- Reads what is joined by "or" from a place on, where a word may be taken for an operand. Gives the
place of the last word it has used. -/
def either (words : Array Raw) : Nat → Nat → Bool → Except Raw (Bool × Nat)
  | 0, _, _ => .error "too deep"
  | fuel + 1, i, operand => do
    let (a, j) ← both words fuel i operand
    if operatorAt? words (j + 1) == some "-o" then
      let (b, k) ← either words fuel (j + 2) false
      return (a || b, k)
    else return (a, j)

def both (words : Array Raw) : Nat → Nat → Bool → Except Raw (Bool × Nat)
  | 0, _, _ => .error "too deep"
  | fuel + 1, i, operand => do
    let (a, j) ← negation words fuel i operand
    if operatorAt? words (j + 1) == some "-a" then
      let (b, k) ← both words fuel (j + 2) false
      return (a && b, k)
    else return (a, j)

def negation (words : Array Raw) : Nat → Nat → Bool → Except Raw (Bool × Nat)
  | 0, _, _ => .error "too deep"
  | fuel + 1, i, operand =>
    if !operand && operatorAt? words i == some "!" then
      if (words[i + 1]?).isNone then .ok (true, i)
      else do
        let (a, j) ← negation words fuel (i + 1) false
        return (!a, j)
    else primary words fuel i operand

def primary (words : Array Raw) : Nat → Nat → Bool → Except Raw (Bool × Nat)
  | 0, _, _ => .error "too deep"
  | fuel + 1, i, operand =>
    match words[i]? with
    | none => .ok (false, i)
    | some w =>
      let op := if operand then none else operatorAt? words i
      if op == some "(" then
        if operatorAt? words (i + 1) == some ")" then .ok (false, i + 1)
        else do
          let (a, j) ← either words fuel (i + 1) false
          if operatorAt? words (j + 1) == some ")" then return (a, j + 1)
          else .error "closing paren expected"
      else if op.bind role? == some .unary then
        match words[i + 1]? with
        | none => .error (w ++ ": argument expected")
        | some arg => .ok (unary facts w arg, i + 1)
      else
        match operatorAt? words (i + 1) with
        | some o =>
          if role? o == some .binary then
            match words[i + 2]? with
            | none => .error (o ++ ": argument expected")
            | some b => do return (← binary facts w o b, i + 2)
          else .ok (!w.isEmpty, i)
        | none => .ok (!w.isEmpty, i)

end

/-- Whether a test of some words holds, given whether the first is taken for an operand. -/
def evaluated (words : List Raw) (operand : Bool) : Except Raw Bool := do
  let array := words.toArray
  let (a, j) ← either facts array (8 * words.length + 16) 0 operand
  match array[j]?, array[j + 1]? with
  | some w, some _ => .error (if w.isEmpty then "unexpected operator" else w ++ ": unexpected operator")
  | _, _ => return a

/-- Whether a test holds, or what is wrong with it. -/
def holds : List Raw → Except Raw Bool
  | [] => .ok false
  | [a, op, b] =>
    if role? op == some .binary then evaluated facts [a, op, b] true
    else if a == "(" && b == ")" then evaluated facts [op] false
    else if a == "!" then (holds [op, b]).map (!·)
    else evaluated facts [a, op, b] false
  | [a, b, c, d] =>
    if a == "(" && d == ")" then evaluated facts [b, c] false
    else if a == "!" then (holds [b, c, d]).map (!·)
    else evaluated facts [a, b, c, d] false
  | words => evaluated facts words false

end Check

end Host.Shell

end PolicyGate
