import PolicyGate.Config.Layers
import PolicyGate.Log.Pattern
import PolicyGate.Text.Alphanumeric
import PolicyGate.Text.Blank

/-!
# Directives

A directive is written `target[span{field=value}]=level`, and each of its parts may be left out. It
says how far records are shown that come from the target.

The parts are told apart in the text without the blanks around it. They are then taken from the
whole text, each at the same distance from the start; so blanks in front shift them all, and blanks
at the end belong to the last.
-/

namespace PolicyGate

namespace Log

/-- How far a directive shows: the severities up to a rank, from 0 for nothing to 5 for all. -/
abbrev Level := Nat

namespace Level

def all : Level := 5

/-- The levels with a name. -/
def names : List (List Char × Level) :=
  [("off".toList, 0), ("error".toList, 1), ("warn".toList, 2), ("info".toList, 3), ("debug".toList, 4),
    ("trace".toList, 5)]

/-- Reads a level: its name in any case of the letters, or its rank. -/
def parse? (s : List Char) : Option Level :=
  match Config.readNumber s with
  | .ok n => if n ≤ all then some n else none
  | .error _ => names.lookup (s.map Char.toLower)

end Level

/-- A field that a directive asks for. -/
structure FieldTest where
  name : List Char
  /-- Whether it asks for a value, too. -/
  hasValue : Bool
  deriving DecidableEq, Repr

structure Directive where
  target : Option (List Char) := none
  span : Option (List Char) := none
  fields : List FieldTest := []
  level : Level := Level.all
  deriving DecidableEq, Repr

namespace Directive

/-- Why a directive cannot be read. -/
inductive Refusal where
  | malformed
  /-- A part does not start or end where a character does. -/
  | torn
  deriving DecidableEq, Repr

/-! ## Parts of a text -/

/-- What is left of a text behind `n` bytes. -/
def dropBytes? : Nat → List Char → Option (List Char)
  | 0, cs => some cs
  | _ + 1, [] => none
  | n + 1, c :: cs => if c.utf8Size ≤ n + 1 then dropBytes? (n + 1 - c.utf8Size) cs else none

/-- The first `n` bytes of a text. -/
def takeBytes? : Nat → List Char → Option (List Char)
  | 0, _ => some []
  | _ + 1, [] => none
  | n + 1, c :: cs =>
    if c.utf8Size ≤ n + 1 then (takeBytes? (n + 1 - c.utf8Size) cs).map (c :: ·) else none

def orTorn {α : Type} : Option α → Except Refusal α
  | some a => .ok a
  | none => .error .torn

/-- The part of a text between two places. -/
def part (text : List Char) (start stop : Nat) : Except Refusal (List Char) :=
  orTorn ((dropBytes? start text).bind (takeBytes? (stop - start)))

/-- The part of a text from a place on. -/
def lastPart (text : List Char) (start : Nat) : Except Refusal (List Char) :=
  orTorn (dropBytes? start text)

/-! ## Reading -/

/-- Which part a character may belong to, with the place where the part starts. -/
inductive Place where
  | start
  | target (start : Nat)
  | span (start : Nat)
  | field (start : Nat)
  | afterFields
  | afterSpan
  | level (start : Nat)
  deriving DecidableEq, Repr

/-- Whether a directive can begin with a character, brackets aside. -/
def isStart (c : Char) : Bool := c == '-' || c == ':' || c == '_' || Text.isAlphanumeric c

/-- Reads a field and the value it is compared with, which ends at a second equals sign. -/
def readField (s : List Char) : Except Refusal FieldTest :=
  match s.splitOn '=' with
  | name :: value :: _ => if Pattern.isValue value then .ok ⟨name, true⟩ else .error .malformed
  | _ => if s.isEmpty then .error .malformed else .ok ⟨s, false⟩

/-- Reads what stands behind the last equals sign. No level is every level. -/
def readLevel (s : List Char) : Except Refusal Level :=
  if s.isEmpty then .ok Level.all
  else
    match Level.parse? s with
    | some l => .ok l
    | none => .error .malformed

/-- Goes past the character at a place `i`. -/
def step (text : List Char) (i : Nat) (c : Char) (p : Place) (d : Directive) :
    Except Refusal (Place × Directive) :=
  match p with
  | .start =>
    if c == '[' then .ok (.span (i + 1), d)
    else if isStart c then .ok (.target i, d)
    else .error .malformed
  | .target start =>
    if c == '=' || c == '[' then do
      let t ← part text start i
      return (if c == '=' then .level (i + 1) else .span (i + 1), { d with target := some t })
    else .ok (p, d)
  | .span start =>
    if c == ']' then do return (.afterSpan, { d with span := some (← part text start i) })
    else if c == '{' then do
      let s ← part text start i
      return (.field (i + 1), { d with span := if s.isEmpty then none else some s })
    else .ok (p, d)
  | .field start =>
    if c == '}' then do
      let f ← readField (← part text start i)
      return (.afterFields, { d with fields := d.fields ++ [f] })
    else .ok (p, d)
  | .afterFields => if c == ']' then .ok (.afterSpan, d) else .error .malformed
  | .afterSpan => if c == '=' then .ok (.level (i + 1), d) else .error .malformed
  | .level _ => .ok (p, d)

/-- What a directive comes to at its end. A target alone that is a level's name is that level. -/
def finish (text : List Char) (p : Place) (d : Directive) : Except Refusal Directive :=
  match p with
  | .target start => do
    let t ← lastPart text start
    return match Level.parse? t with
      | some level => { d with level }
      | none => { d with target := some t }
  | .level start => do return { d with level := ← readLevel (← lastPart text start) }
  | .afterSpan => .ok d
  | _ => .error .malformed

/-- Goes through the characters from a place on. -/
def readFrom (text : List Char) (i : Nat) (p : Place) (d : Directive) :
    List Char → Except Refusal Directive
  | [] => finish text p d
  | c :: cs =>
    match step text i c p d with
    | .error e => .error e
    | .ok (p, d) => readFrom text (i + c.utf8Size) p d cs

/-- Reads a directive, which holds no comma. -/
def parse (text : List Char) : Except Refusal Directive :=
  readFrom text 0 .start {} (Text.trim text)

end Directive

end Log

end PolicyGate
