/-!
# Characters with their places

Indentation carries meaning in YAML, so a text is read as characters that know where they stand.
Every line break is one glyph, however it is written, and a readable text ends in a NUL, a character
that it cannot hold. So "the next character" is always there to be looked at. A text that holds an
unreadable character ends with the block in front of it, and without a NUL.
-/

namespace PolicyGate.Yaml

/-- A place in a text, counted from zero: the bytes before it, its line and its column. -/
structure Mark where
  index : Nat := 0
  line : Nat := 0
  column : Nat := 0
  deriving DecidableEq, Repr

structure Glyph where
  char : Char
  mark : Mark

def endOfText : Char := '\x00'

/-- The characters that a text may hold: tab, line breaks and everything printable. -/
def readable (c : Char) : Bool :=
  let n := c.toNat
  n == 0x09 || n == 0x0A || n == 0x0D || (0x20 ≤ n && n ≤ 0x7E) || n == 0x85 ||
    (0xA0 ≤ n && n ≤ 0xD7FF) || (0xE000 ≤ n && n ≤ 0xFFFD) || 0x10000 ≤ n

def isBreak (c : Char) : Bool :=
  c == '\n' || c == '\r' || c == '\u0085' || c == '\u2028' || c == '\u2029'

def isSpaceOrTab (c : Char) : Bool := c == ' ' || c == '\t'

/-- A line break or the end of the text. -/
def isLineEnd (c : Char) : Bool := isBreak c || c == endOfText

/-- A character that no plain word goes past. -/
def isGapOrEnd (c : Char) : Bool := isSpaceOrTab c || isLineEnd c

/-- The characters of names: anchors, directives and tag handles. -/
def isNameChar (c : Char) : Bool := c.isAlphanum || c == '-' || c == '_'

/-- A line break as it counts in a scalar. The two Unicode separators stay what they are. -/
def normalBreak (c : Char) : Char := if c == '\u2028' || c == '\u2029' then c else '\n'

namespace Mark

/-- The place after a character that takes `n` bytes. -/
def next (m : Mark) (n : Nat) : Mark := ⟨m.index + n, m.line, m.column + 1⟩

/-- The place after a line break of `n` bytes. -/
def nextLine (m : Mark) (n : Nat) : Mark := ⟨m.index + n, m.line + 1, 0⟩

end Mark

/-- The glyphs of a text from a place on. -/
def glyphsFrom (m : Mark) : List Char → List Glyph
  | [] => [⟨endOfText, m⟩]
  | '\r' :: '\n' :: cs => ⟨'\n', m⟩ :: glyphsFrom (m.nextLine 2) cs
  | c :: cs =>
    if isBreak c then ⟨normalBreak c, m⟩ :: glyphsFrom (m.nextLine c.utf8Size) cs
    else ⟨c, m⟩ :: glyphsFrom (m.next c.utf8Size) cs

/-! ## Blocks

A text is taken in blocks of whole characters, and a block with an unreadable character in it is
refused as a whole. -/

/-- The most bytes that a block holds. -/
def blockSize : Nat := 16384

/-- The characters of the blocks in front of the first one that is refused, and whether that is the
whole text. `settled` are the blocks before the current one and `current` is what of it has been
read, both in reverse; `room` is how many bytes it can still take. -/
def readableBlocks (settled current : List Char) (room : Nat) : List Char → List Char × Bool
  | [] => ((current ++ settled).reverse, true)
  | c :: cs =>
    if c.utf8Size ≤ room then
      if readable c then readableBlocks settled (c :: current) (room - c.utf8Size) cs
      else (settled.reverse, false)
    else if readable c then
      readableBlocks (current ++ settled) [c] (blockSize - c.utf8Size) cs
    else ((current ++ settled).reverse, false)

/-- The glyphs of a text as far as it is readable. -/
def glyphs (text : String) : List Glyph :=
  let (cs, whole) := readableBlocks [] [] blockSize text.toList
  if whole then glyphsFrom {} cs else (glyphsFrom {} cs).dropLast

/-- How many bytes stand in front of the first unreadable character, if there is one. -/
def unreadableAt? (text : String) : Option Nat :=
  let cs := text.toList
  let before := cs.takeWhile readable
  if before.length = cs.length then none
  else some (before.foldl (fun n c => n + c.utf8Size) 0)

/-- Whether a text is cut off before its next token can be told from others, for which three
characters behind the next one are looked at. -/
def cutOff (gs : List Glyph) : Bool :=
  (gs.drop 3).isEmpty && !gs.any (·.char == endOfText)

/-- The next character. -/
def peek : List Glyph → Char
  | [] => endOfText
  | g :: _ => g.char

/-- The place of the next character. -/
def here : List Glyph → Mark
  | [] => {}
  | g :: _ => g.mark

/-- Whether a document marker, three dashes or three dots alone, starts here. -/
def documentMarker (c : Char) : List Glyph → Bool
  | a :: b :: d :: rest =>
    a.mark.column == 0 && a.char == c && b.char == c && d.char == c && isGapOrEnd (peek rest)
  | _ => false

def anyDocumentMarker (gs : List Glyph) : Bool := documentMarker '-' gs || documentMarker '.' gs

/-- The longest run of characters of a class, as a text, and what comes after it. -/
def spanText (p : Char → Bool) (gs : List Glyph) : String × List Glyph :=
  (String.ofList ((gs.takeWhile fun g => p g.char).map (·.char)), gs.dropWhile fun g => p g.char)

def skipSpaces (gs : List Glyph) : List Glyph := gs.dropWhile fun g => isSpaceOrTab g.char

/-- Skips spaces and a comment. -/
def skipComment (gs : List Glyph) : List Glyph :=
  let gs := skipSpaces gs
  if peek gs == '#' then gs.dropWhile fun g => !isLineEnd g.char else gs

/-- Skips spaces and a comment up to the end of the line, or nothing if more stands on it. -/
def restOfLine? (gs : List Glyph) : Option (List Glyph) :=
  let gs := skipComment gs
  if isLineEnd (peek gs) then
    if isBreak (peek gs) then some gs.tail else some gs
  else none

theorem length_restOfLine? {gs rest : List Glyph} (h : restOfLine? gs = some rest) :
    rest.length ≤ gs.length := by
  have hs : (skipSpaces gs).length ≤ gs.length := (List.dropWhile_suffix _).length_le
  have hc : ∀ hs : List Glyph,
      (hs.dropWhile fun g => !isLineEnd g.char).length ≤ hs.length :=
    fun _ => (List.dropWhile_suffix _).length_le
  have := hc (skipSpaces gs)
  simp only [restOfLine?, skipComment] at h
  grind [List.length_tail]

end PolicyGate.Yaml
