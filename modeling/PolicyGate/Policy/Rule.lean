import PolicyGate.Text.Blank
import PolicyGate.Text.Lines

/-!
# Rules of a policy document

A rule line reads `- IF condition THEN action`, in any case of the two words and with any blanks
between the parts. The condition ends at the first `THEN` that stands between blanks. Rules are
read leniently: a line of another shape has none, whatever the section grammar says about it.
-/

namespace PolicyGate.Policy

open PolicyGate

/-- The two parts of a rule. -/
structure Rule where
  condition : List Char
  action : List Char
  deriving DecidableEq, Repr

namespace Rule

/-- Takes an upper-case word off the front of a text, in any case of its letters. -/
def dropWord? : List Char → List Char → Option (List Char)
  | [], cs => some cs
  | w :: word, c :: cs => if c.toUpper = w then dropWord? word cs else none
  | _ :: _, [] => none

/-- Takes a non-empty run of blanks off the front of a text. -/
def dropBlanks? : List Char → Option (List Char)
  | [] => none
  | c :: cs => if Text.isBlank c then some (cs.dropWhile Text.isBlank) else none

/-- What comes after a leading `THEN` and the blanks behind it. -/
def afterThen? (cs : List Char) : Option (List Char) :=
  (dropWord? ['T', 'H', 'E', 'N'] cs).bind dropBlanks?

/-- Cuts a text that starts with no blank at its first `THEN` between blanks. The part read so far
is `condition` and the blanks at its end are `blanks`, both in reverse. -/
def cutAtThen (condition blanks : List Char) : List Char → Option Rule
  | [] => none
  | c :: cs =>
    if Text.isBlank c then cutAtThen condition (c :: blanks) cs
    else
      match (if blanks.isEmpty then none else afterThen? (c :: cs)) with
      | some action => some ⟨condition.reverse, action⟩
      | none => cutAtThen (c :: (blanks ++ condition)) [] cs

/-- The rule in what follows the `IF` of a rule line.

With at least three blanks directly before a `THEN` and no later one between blanks, the middle
blank is the condition, so its trimmed text is empty. -/
def ofClause? (clause : List Char) : Option Rule :=
  let blanks := clause.takeWhile Text.isBlank
  let body := clause.dropWhile Text.isBlank
  if blanks.isEmpty then none
  else
    match cutAtThen [] [] body with
    | some rule => some rule
    | none => if blanks.length < 3 then none else (afterThen? body).map fun action => ⟨[], action⟩

/-- The rule on a line, if it has the shape of one. -/
def ofLine? (line : List Char) : Option Rule :=
  match Text.trim line with
  | '-' :: rest => (dropWord? ['I', 'F'] (rest.dropWhile Text.isBlank)).bind ofClause?
  | _ => none

end Rule

/-- The rules of a document, line by line. -/
def rules (document : List Char) : List Rule := (Text.lines document).filterMap Rule.ofLine?

end PolicyGate.Policy
