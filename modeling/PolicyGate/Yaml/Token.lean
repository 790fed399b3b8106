import PolicyGate.Text.Utf8
import PolicyGate.Yaml.Glyph
import PolicyGate.Yaml.Scalar

/-!
# Tokens

What a YAML text is made of: the marks of its structure, names, and scalars. Indentation shows as
tokens that open and close blocks.
-/

namespace PolicyGate.Yaml

/-- How a scalar is written. -/
inductive Style where
  | plain
  | singleQuoted
  | doubleQuoted
  | literal
  | folded
  deriving DecidableEq, Repr

inductive Token where
  | streamEnd
  | version (major minor : Nat)
  | handle (name expansion : String)
  | documentStart
  | documentEnd
  | blockSequenceStart
  | blockMappingStart
  | blockEnd
  | flowSequenceStart
  | flowSequenceEnd
  | flowMappingStart
  | flowMappingEnd
  | blockEntry
  | flowEntry
  | key
  | value
  | reference (name : String)
  | anchor (name : String)
  | tag (handle suffix : String)
  | scalar (style : Style) (text : String)
  deriving DecidableEq, Repr

/-- Something with the place where it starts. -/
structure Located (α : Type) where
  mark : Mark
  item : α
  /-- The place behind it, where that counts. -/
  stop : Mark := mark

/-!
## Names: anchors, tags and directives

The readers of names give a token and what comes after it, and a refusal where the text breaks a
rule.
-/

/-- Reads the name of an anchor or an alias. -/
def anchorName (context : Context) (gs : List Glyph) : Except Refusal (String × List Glyph) :=
  let (name, rest) := spanText isNameChar gs
  let ends := isGapOrEnd (peek rest) || "?:,]\x7d%@`".toList.contains (peek rest)
  if !name.isEmpty && ends then .ok (name, rest) else refuse rest .noName context

/-! ### Tags -/

/-- The characters that a tag may hold, apart from escapes. Inside angle brackets and in directives
it may hold a few more. -/
def isTagChar (wide : Bool) (c : Char) : Bool :=
  isNameChar c || ";/?:@&=+$.!~*'()".toList.contains c || (wide && (c == ',' || c == '[' || c == ']'))

/-- Reads one escaped byte after its percent sign. -/
def escapedByte? : List Glyph → Option UInt8
  | a :: b :: _ => (hexValue? [a.char, b.char]).map UInt8.ofNat
  | _ => none

/-- How many bytes follow a leading byte. -/
def followers? (b : UInt8) : Option Nat :=
  if b < 0x80 then some 0
  else if 0xC0 ≤ b ∧ b < 0xE0 then some 1
  else if 0xE0 ≤ b ∧ b < 0xF0 then some 2
  else if 0xF0 ≤ b ∧ b < 0xF8 then some 3
  else none

/-- Reads the rest of a tag into bytes. `owed` counts the bytes that an escaped character still
lacks. -/
def tagBytes (context : Context) (wide : Bool) (owed : Nat) (bytes : List UInt8) :
    List Glyph → Except Refusal (List UInt8 × List Glyph)
  | [] => if owed = 0 then .ok (bytes, []) else refuse [] .noEscapedByte context
  | g :: gs =>
    if g.char == '%' then
      match escapedByte? gs with
      | none => refuse (g :: gs) .noEscapedByte context
      | some b =>
        if owed = 0 then
          match followers? b with
          | none => refuse (g :: gs) .wrongLeadingByte context
          | some n => tagBytes context wide n (bytes ++ [b]) (gs.drop 2)
        else if 0x80 ≤ b ∧ b < 0xC0 then
          tagBytes context wide (owed - 1) (bytes ++ [b]) (gs.drop 2)
        else refuse (g :: gs) .wrongFollowingByte context
    else if owed = 0 then
      if isTagChar wide g.char then
        tagBytes context wide 0 (bytes ++ String.utf8EncodeChar g.char) gs
      else .ok (bytes, g :: gs)
    else refuse (g :: gs) .noEscapedByte context
termination_by gs => gs.length
decreasing_by all_goals (simp only [List.length_cons, List.length_drop]; omega)

/-- Reads a tag's text. It must not be empty unless the tag has begun already. -/
def tagText (context : Context) (wide begun : Bool) (gs : List Glyph) :
    Except Refusal (String × List Glyph) := do
  let (bytes, rest) ← tagBytes context wide 0 [] gs
  if bytes.isEmpty && !begun then refuse rest .noTagText context
  else return (String.ofList (Utf8.lossy bytes), rest)

/-- Reads a handle: an exclamation mark, a name, and perhaps a second mark, which alone makes it
complete. -/
def handle (context : Context) (gs : List Glyph) :
    Except Refusal (String × Bool × List Glyph) :=
  if peek gs == '!' then
    let (name, rest) := spanText isNameChar gs.tail
    if peek rest == '!' then .ok (name, true, rest.tail) else .ok (name, false, rest)
  else refuse gs .noExclamationMark context

/-- Reads the handle and the suffix of a tag. -/
def tagParts (gs : List Glyph) : Except Refusal (Token × List Glyph) :=
  let start := here gs
  if peek gs.tail == '<' then do
    let (uri, rest) ← tagText ⟨.tagText, start⟩ true false (gs.drop 2)
    if peek rest == '>' then return (.tag "" uri, rest.tail)
    else refuse rest .tagNotClosed ⟨.tag, start⟩
  else do
    let (name, complete, rest) ← handle ⟨.tag, start⟩ gs
    if complete then
      let (suffix, rest) ← tagText ⟨.tagText, start⟩ false false rest
      return (.tag ("!" ++ name ++ "!") suffix, rest)
    else
      let (more, rest) ← tagText ⟨.tagText, start⟩ false true rest
      let suffix := name ++ more
      return (if suffix.isEmpty then .tag "" "!" else .tag "!" suffix, rest)

/-- Reads a tag. A blank follows it, or inside brackets a comma. -/
def tag (inFlow : Bool) (gs : List Glyph) : Except Refusal (Token × List Glyph) := do
  let (token, rest) ← tagParts gs
  if isGapOrEnd (peek rest) || (inFlow && peek rest == ',') then return (token, rest)
  else refuse rest .noGap ⟨.tag, here gs⟩

/-! ### Directives -/

/-- Reads a number of nine digits at most. -/
def versionNumber (context : Context) (gs : List Glyph) : Except Refusal (Nat × List Glyph) :=
  let (digits, rest) := spanText Char.isDigit gs
  if 9 < digits.length then refuse (gs.drop 9) .longVersion context
  else (orRefuse rest .noVersion context digits.toNat?).map (·, rest)

def versionDirective (start : Mark) (gs : List Glyph) : Except Refusal (Token × List Glyph) := do
  let (major, rest) ← versionNumber ⟨.version, start⟩ (skipSpaces gs)
  if peek rest == '.' then
    let (minor, rest) ← versionNumber ⟨.version, start⟩ rest.tail
    return (.version major minor, rest)
  else refuse rest .noPoint ⟨.version, start⟩

def handleDirective (start : Mark) (gs : List Glyph) : Except Refusal (Token × List Glyph) := do
  let (name, complete, rest) ← handle ⟨.handleName, start⟩ (skipSpaces gs)
  if !complete && !name.isEmpty then refuse rest .noExclamationMark ⟨.handleEnd, start⟩
  else if !isSpaceOrTab (peek rest) then refuse rest .noBlank ⟨.handle, start⟩
  else
    let (expansion, rest) ← tagText ⟨.expansion, start⟩ true false (skipSpaces rest)
    if isGapOrEnd (peek rest) then
      return (.handle (if complete then "!" ++ name ++ "!" else "!") expansion, rest)
    else refuse rest .noGap ⟨.handle, start⟩

/-- Reads a directive from its percent sign on, with its line. -/
def directive (gs : List Glyph) : Except Refusal (Token × List Glyph) := do
  let start := here gs
  let context : Context := ⟨.directive, start⟩
  let (name, rest) := spanText isNameChar gs.tail
  let (token, rest) ←
    if name.isEmpty then refuse rest .noDirectiveName context
    else if !isGapOrEnd (peek rest) then refuse rest .nameNotEnded context
    else if name == "YAML" then versionDirective start rest
    else if name == "TAG" then handleDirective start rest
    else refuse rest .unknownDirective context
  return (token, ← orRefuse (skipComment rest) .lineNotEnded context (restOfLine? rest))

end PolicyGate.Yaml
