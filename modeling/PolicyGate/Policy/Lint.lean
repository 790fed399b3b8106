import PolicyGate.Policy.Keyword
import PolicyGate.Policy.Line

/-!
# The section grammar

One forward pass over the lines of a document collects the known headers and every defect, each at
its line. The only look-ahead is for a header with nothing after its colon: the next significant
line tells whether its section has content. A document without defects is *clean*.
-/

namespace PolicyGate.Policy

/-- What a section holds. -/
inductive Body where
  /-- Text after the colon. -/
  | inlined
  /-- Content on the lines that follow. -/
  | block
  /-- Nothing before the next header or the end. -/
  | empty
  deriving DecidableEq, Repr

/-- A known header. -/
structure Section where
  keyword : Keyword
  line : Nat
  body : Body
  deriving DecidableEq, Repr

/-- The ways in which a document can break the grammar. -/
inductive Defect where
  /-- A header whose upper-case word is no keyword. -/
  | unknownKeyword (upper : String)
  | duplicate (keyword : Keyword)
  | outOfOrder (keyword : Keyword)
  | noContent (keyword : Keyword)
  /-- A list item before the first known header. -/
  | strayItem
  /-- Other text before the first known header. -/
  | strayText
  | missing (keyword : Keyword)
  deriving DecidableEq, Repr

/-- The wording of a defect. -/
def Defect.message : Defect → String
  | .unknownKeyword upper =>
    "Unknown keyword '" ++ upper ++ "'. Expected one of: " ++ Keyword.canonicalList
  | .duplicate k =>
    "Duplicate section '" ++ k.name ++ "'. Each section should appear only once."
  | .outOfOrder k =>
    "Section '" ++ k.name ++ "' appears out of order. Canonical order violation."
  | .noContent k => "Section '" ++ k.name ++ "' must have content or list items."
  | .strayItem => "List item found outside of any section."
  | .strayText => "Content found before any valid section header (e.g., INTENT:)."
  | .missing k => "Missing mandatory section: '" ++ k.name ++ "'."

/-- A defect and the line it is reported at. -/
structure Diagnostic where
  line : Nat
  defect : Defect
  deriving DecidableEq, Repr

/-- What linting a document finds. -/
structure Report where
  sections : List Section
  diagnostics : List Diagnostic
  lineCount : Nat
  deriving DecidableEq, Repr

def Report.isClean (r : Report) : Bool := r.diagnostics.isEmpty

namespace Lint

/-- What a pass remembers: the last known header, all keywords met, and what was found. -/
structure Progress where
  last : Option Keyword
  found : List Keyword
  sections : Array Section
  diagnostics : Array Diagnostic

/-- Nothing read yet. -/
def Progress.empty : Progress := ⟨none, [], #[], #[]⟩

/-- The body of a section whose header has nothing after its colon, given the lines after it. -/
def followingBody (rest : List Line) : Body :=
  match rest.find? Line.isSignificant with
  | some line => if line.kind.isHeader then .empty else .block
  | none => .empty

/-- The keyword that a header's word means, in any case of its letters. -/
def keyword? (word : List Char) : Option Keyword :=
  Keyword.parse? (String.ofList (word.map Char.toUpper))

/-- Files a known header. -/
def Progress.enter (p : Progress) (number : Nat) (keyword : Keyword) (body : Body) : Progress :=
  let found : List Defect :=
    (if keyword ∈ p.found then [.duplicate keyword] else []) ++
    (if p.last.any (fun last => keyword.index < last.index) then [.outOfOrder keyword] else []) ++
    (if body = .empty then [.noContent keyword] else [])
  { last := some keyword
    found := keyword :: p.found
    sections := p.sections.push ⟨keyword, number, body⟩
    diagnostics := p.diagnostics ++ found.map fun d => Diagnostic.mk number d }

/-- Files a line that belongs to no known header unless one came before. -/
def Progress.stray (p : Progress) (number : Nat) (defect : Defect) : Progress :=
  if p.last.isNone then { p with diagnostics := p.diagnostics.push ⟨number, defect⟩ } else p

/-- Takes one line, with those after it in view. -/
def Progress.visit (p : Progress) (line : Line) (rest : List Line) : Progress :=
  match line.kind with
  | .blank | .comment => p
  | .listItem => p.stray line.number .strayItem
  | .text => p.stray line.number .strayText
  | .header word inlined =>
    match keyword? word with
    | none =>
      let upper := String.ofList (word.map Char.toUpper)
      { p with diagnostics := p.diagnostics.push ⟨line.number, .unknownKeyword upper⟩ }
    | some keyword =>
      p.enter line.number keyword (if inlined then .inlined else followingBody rest)

/-- Takes all lines in order. -/
def Progress.scan (p : Progress) : List Line → Progress
  | [] => p
  | line :: rest => (p.visit line rest).scan rest

/-- The mandatory keywords that never came. -/
def Progress.missing (p : Progress) : List Keyword :=
  Keyword.canonical.filter fun k => k.isMandatory && !p.found.contains k

end Lint

/-- Lints a document: the defects of its lines in order, then one for each mandatory section that
never came, reported past the last line. -/
def lint (document : List Char) : Report :=
  let start := Cursor.start document
  let done := Lint.Progress.empty.scan start.toLines
  let lineCount := start.finish.seen
  let missingAt := min (lineCount + 1) Line.lastNumber
  { sections := done.sections.toList
    diagnostics :=
      done.diagnostics.toList ++ done.missing.map fun k => Diagnostic.mk missingAt (.missing k)
    lineCount }

end PolicyGate.Policy
