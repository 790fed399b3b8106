import PolicyGate.Yaml.Glyph

/-!
# Refusals

Why a text is no YAML: what is wrong, where that shows, and what was being read at the time.
-/

namespace PolicyGate.Yaml

/-- What is wrong with a text. -/
inductive Problem where
  | controlCharacter
  | noToken
  | noColon
  | strayEntry
  | strayKey
  | strayValue
  | noDirectiveName
  | nameNotEnded
  | unknownDirective
  | lineNotEnded
  | noVersion
  | longVersion
  | noPoint
  | noBlank
  | noGap
  | noName
  | tagNotClosed
  | noExclamationMark
  | noTagText
  | noEscapedByte
  | wrongLeadingByte
  | wrongFollowingByte
  | zeroIndent
  | tabForIndent
  | documentMark
  | endOfText
  | unknownEscape
  | noHexDigits
  | noCharacter
  | tabInPlain
  | colonInBrackets
  | noDocumentStart
  | versionTwice
  | unknownVersion
  | handleTwice
  | unknownHandle
  | noContent
  | noDash
  | noKey
  | noCommaOrBracket
  | noCommaOrBrace
  | unknownAnchor
  | moreDocuments
  deriving DecidableEq, Repr

def Problem.message : Problem → String
  | .controlCharacter => "control characters are not allowed"
  | .noToken => "found character that cannot start any token"
  | .noColon => "could not find expected ':'"
  | .strayEntry => "block sequence entries are not allowed in this context"
  | .strayKey => "mapping keys are not allowed in this context"
  | .strayValue => "mapping values are not allowed in this context"
  | .noDirectiveName => "could not find expected directive name"
  | .nameNotEnded => "found unexpected non-alphabetical character"
  | .unknownDirective => "found unknown directive name"
  | .lineNotEnded => "did not find expected comment or line break"
  | .noVersion => "did not find expected version number"
  | .longVersion => "found extremely long version number"
  | .noPoint => "did not find expected digit or '.' character"
  | .noBlank => "did not find expected whitespace"
  | .noGap => "did not find expected whitespace or line break"
  | .noName => "did not find expected alphabetic or numeric character"
  | .tagNotClosed => "did not find the expected '>'"
  | .noExclamationMark => "did not find expected '!'"
  | .noTagText => "did not find expected tag URI"
  | .noEscapedByte => "did not find URI escaped octet"
  | .wrongLeadingByte => "found an incorrect leading UTF-8 octet"
  | .wrongFollowingByte => "found an incorrect trailing UTF-8 octet"
  | .zeroIndent => "found an indentation indicator equal to 0"
  | .tabForIndent => "found a tab character where an indentation space is expected"
  | .documentMark => "found unexpected document indicator"
  | .endOfText => "found unexpected end of stream"
  | .unknownEscape => "found unknown escape character"
  | .noHexDigits => "did not find expected hexdecimal number"
  | .noCharacter => "found invalid Unicode character escape code"
  | .tabInPlain => "found a tab character that violates indentation"
  | .colonInBrackets => "found unexpected ':'"
  | .noDocumentStart => "did not find expected <document start>"
  | .versionTwice => "found duplicate %YAML directive"
  | .unknownVersion => "found incompatible YAML document"
  | .handleTwice => "found duplicate %TAG directive"
  | .unknownHandle => "found undefined tag handle"
  | .noContent => "did not find expected node content"
  | .noDash => "did not find expected '-' indicator"
  | .noKey => "did not find expected key"
  | .noCommaOrBracket => "did not find expected ',' or ']'"
  | .noCommaOrBrace => "did not find expected ',' or '\x7d'"
  | .unknownAnchor => "unknown anchor"
  | .moreDocuments => "deserializing from YAML containing more than one document is not supported"

/-- What is being read. -/
inductive Activity where
  | nextToken
  | simpleKey
  | directive
  | version
  | handle
  /-- The handle that a directive names. -/
  | handleName
  /-- The end of that handle. -/
  | handleEnd
  | expansion
  | anchor
  | reference
  | tag
  | tagText
  | blockScalar
  | quotedScalar
  | escape
  | plainScalar
  | node
  | flowNode
  | blockNode
  | blockSequence
  | blockMapping
  | flowSequence
  | flowMapping
  deriving DecidableEq, Repr

def Activity.message : Activity → String
  | .nextToken => "while scanning for the next token"
  | .simpleKey => "while scanning a simple key"
  | .directive => "while scanning a directive"
  | .version => "while scanning a %YAML directive"
  | .handle => "while scanning a %TAG directive"
  | .handleName => "while scanning a tag directive"
  | .handleEnd => "while parsing a tag directive"
  | .expansion => "while parsing a %TAG directive"
  | .anchor => "while scanning an anchor"
  | .reference => "while scanning an alias"
  | .tag => "while scanning a tag"
  | .tagText => "while parsing a tag"
  | .blockScalar => "while scanning a block scalar"
  | .quotedScalar => "while scanning a quoted scalar"
  | .escape => "while parsing a quoted scalar"
  | .plainScalar => "while scanning a plain scalar"
  | .node => "while parsing a node"
  | .flowNode => "while parsing a flow node"
  | .blockNode => "while parsing a block node"
  | .blockSequence => "while parsing a block collection"
  | .blockMapping => "while parsing a block mapping"
  | .flowSequence => "while parsing a flow sequence"
  | .flowMapping => "while parsing a flow mapping"

/-- What is being read, with the place where it starts. -/
structure Context where
  activity : Activity
  mark : Mark
  deriving DecidableEq, Repr

structure Refusal where
  problem : Problem
  /-- Where it shows. -/
  mark : Mark := {}
  /-- The bytes in front of it, where no line is known. -/
  position : Nat := 0
  context : Option Context := none
  deriving DecidableEq, Repr

namespace Mark

/-- A place as it is shown, lines and columns counted from one. The start of a text is no place worth
showing. -/
def text (m : Mark) : String :=
  if m.line = 0 ∧ m.column = 0 then ""
  else " at line " ++ toString (m.line + 1) ++ " column " ++ toString (m.column + 1)

/-- Whether two places are in one column of one line. -/
def sameSpot (a b : Mark) : Bool := a.line == b.line && a.column == b.column

end Mark

/-- A refusal as it is reported. The place of the context is left out if the problem shows there. -/
def Refusal.message (r : Refusal) : String :=
  let place :=
    if r.mark.line = 0 ∧ r.mark.column = 0 ∧ r.position ≠ 0 then
      " at position " ++ toString r.position
    else r.mark.text
  let around := match r.context with
    | none => ""
    | some c =>
      ", " ++ c.activity.message ++ (if c.mark.sameSpot r.mark then "" else c.mark.text)
  r.problem.message ++ place ++ around

/-- The refusal of what starts at `gs`. -/
def refusal (gs : List Glyph) (problem : Problem) (context : Context) : Refusal :=
  { problem, mark := here gs, context := some context }

/-- Refuses what starts at `gs`. -/
def refuse {α : Type} (gs : List Glyph) (problem : Problem) (context : Context) :
    Except Refusal α :=
  .error (refusal gs problem context)

/-- Takes what there is, or else refuses what starts at `gs`. -/
def orRefuse {α : Type} (gs : List Glyph) (problem : Problem) (context : Context) :
    Option α → Except Refusal α
  | some a => .ok a
  | none => refuse gs problem context

end PolicyGate.Yaml
