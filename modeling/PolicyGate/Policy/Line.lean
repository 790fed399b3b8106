import PolicyGate.Text.Blank
import PolicyGate.Text.Lines

/-!
# Lines of a policy document

Each line, trimmed, has one of five shapes. Blank lines and comments are not *significant*: they
neither open nor close a section. A `Cursor` walks over the lines of a document and can look for the
next significant one without moving. Main statements: **each step of a cursor takes the first of
the lines that remain** (`next_eq`), and **looking ahead finds the first significant one of them**
(`peek_eq`).
-/

namespace PolicyGate.Policy

open PolicyGate

/-- The shape of a trimmed line. -/
inductive LineKind where
  | blank
  | comment
  /-- ASCII letters followed by a colon; `inlined` if anything comes after the colon. -/
  | header (word : List Char) (inlined : Bool)
  | listItem
  | text
  deriving DecidableEq, Repr

/-- Whether a line of this shape counts as content. -/
def LineKind.isSignificant : LineKind → Bool
  | .blank | .comment => false
  | _ => true

/-- Whether a line of this shape opens a section, known or not. -/
def LineKind.isHeader : LineKind → Bool
  | .header _ _ => true
  | _ => false

/-- The shape of a line, which is taken as it stands: a leading blank is part of it. -/
def classify : List Char → LineKind
  | [] => .blank
  | '#' :: _ => .comment
  | '/' :: '/' :: _ => .comment
  | cs =>
    match cs.takeWhile Char.isAlpha, cs.dropWhile Char.isAlpha with
    | c :: word, ':' :: rest => .header (c :: word) (!rest.isEmpty)
    | _, _ => if cs.head? = some '-' then .listItem else .text

/-- A line of a document: its number from one, its trimmed text and that text's shape. -/
structure Line where
  number : Nat
  text : List Char
  kind : LineKind
  deriving DecidableEq, Repr

namespace Line

/-- Line numbers stop at this one. -/
def lastNumber : Nat := 4294967295

/-- The line found at an index, which counts from zero. -/
def ofRaw (index : Nat) (raw : List Char) : Line :=
  let text := Text.trim raw
  ⟨min (index + 1) lastNumber, text, classify text⟩

def isSignificant (l : Line) : Bool := l.kind.isSignificant

end Line

/-- A place between two lines of a document: how many came before, and the ones to come. -/
structure Cursor where
  consumed : Nat
  rest : List (List Char)
  deriving DecidableEq, Repr

namespace Cursor

/-- The place before the first line of a document. -/
def start (document : List Char) : Cursor := ⟨0, Text.lines document⟩

/-- The number of lines passed, which like a line number has an upper end. -/
def seen (c : Cursor) : Nat := min c.consumed Line.lastNumber

/-- The lines still to come. -/
def toLines (c : Cursor) : List Line :=
  c.rest.mapIdx fun i raw => Line.ofRaw (c.consumed + i) raw

/-- Takes the next line. -/
def next (c : Cursor) : Option (Line × Cursor) :=
  match c.rest with
  | [] => none
  | raw :: rest => some (Line.ofRaw c.consumed raw, ⟨c.consumed + 1, rest⟩)

/-- The first significant line from a given index on. -/
def firstSignificant (index : Nat) : List (List Char) → Option Line
  | [] => none
  | raw :: rest =>
    let line := Line.ofRaw index raw
    if line.isSignificant then some line else firstSignificant (index + 1) rest

/-- Looks for the next significant line and stays in place. -/
def peek (c : Cursor) : Option Line := firstSignificant c.consumed c.rest

/-- The place after the last line. -/
def finish (c : Cursor) : Cursor := ⟨c.consumed + c.rest.length, []⟩

theorem next_eq (c : Cursor) :
    c.toLines = match c.next with
      | none => []
      | some (line, c') => line :: c'.toLines := by
  obtain ⟨consumed, rest⟩ := c
  cases rest with
  | nil => rfl
  | cons raw rest =>
    simp [next, toLines, List.mapIdx_cons, Nat.add_assoc, Nat.add_comm 1]

/-- Looking ahead finds the first significant line among those to come. -/
theorem peek_eq (c : Cursor) : c.peek = c.toLines.find? Line.isSignificant := by
  obtain ⟨consumed, rest⟩ := c
  simp only [peek]
  induction rest generalizing consumed with
  | nil => rfl
  | cons raw rest ih =>
    simp only [firstSignificant, next_eq ⟨consumed, raw :: rest⟩, next, List.find?_cons]
    split <;> simp_all

end Cursor

end PolicyGate.Policy
