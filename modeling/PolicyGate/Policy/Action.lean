import PolicyGate.Text.Blank
import PolicyGate.Text.Lines

/-!
# Announced actions

An engine announces an action by a line that holds the marker `-> EXECUTE: ` and, after its first
occurrence, the action's name. Everything else an engine writes is for people.
-/

namespace PolicyGate.Policy

open PolicyGate

namespace Action

/-- What announces an action. -/
def marker : List Char := "-> EXECUTE: ".toList

/-- What comes after a text at the front of another. -/
def afterFront? : List Char → List Char → Option (List Char)
  | [], cs => some cs
  | p :: ps, c :: cs => if p = c then afterFront? ps cs else none
  | _ :: _, [] => none

/-- What comes after the first occurrence of a text in another. -/
def afterFirst? (pattern : List Char) : List Char → Option (List Char)
  | [] => afterFront? pattern []
  | c :: cs =>
    match afterFront? pattern (c :: cs) with
    | some rest => some rest
    | none => afterFirst? pattern cs

/-- The action that a line announces. A name of blanks alone is none. -/
def ofLine? (line : List Char) : Option (List Char) :=
  match (afterFirst? marker line).map Text.trim with
  | some (c :: name) => some (c :: name)
  | _ => none

end Action

/-- The names of the actions announced in an engine's output, in order. -/
def actions (output : List Char) : List (List Char) :=
  (Text.lines output).filterMap Action.ofLine?

end PolicyGate.Policy
