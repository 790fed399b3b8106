import PolicyGate.Yaml.Refusal

/-!
# Scalars

The three ways to write a scalar: in quotes, plain, and as an indented block. In the first two a gap
in the text may span lines: a single line break then counts as a space, and of several the first
is dropped. All readers give what is left, and a refusal where the text breaks a rule.
-/

namespace PolicyGate.Yaml

/-! ## Gaps -/

/-- The blanks and line breaks between two words of a scalar. -/
structure Gap where
  blanks : String := ""
  broken : Bool := false
  firstBreak : String := ""
  furtherBreaks : String := ""

namespace Gap

/-- Blanks around a line break do not count. -/
def addBlank (g : Gap) (c : Char) : Gap :=
  if g.broken then g else { g with blanks := g.blanks.push c }

def addBreak (g : Gap) (c : Char) : Gap :=
  if g.broken then { g with furtherBreaks := g.furtherBreaks.push c }
  else ⟨"", true, c.toString, ""⟩

/-- The gap after a line break that a backslash hides. -/
def hidden : Gap := ⟨"", true, "", ""⟩

def started (g : Gap) : Bool := g.broken || !g.blanks.isEmpty

/-- What the gap contributes to the text. -/
def text (g : Gap) : String :=
  if g.broken then
    if g.firstBreak == "\n" then
      if g.furtherBreaks.isEmpty then " " else g.furtherBreaks
    else g.firstBreak ++ g.furtherBreaks
  else g.blanks

end Gap

/-! ## Quoted scalars -/

def hexDigit? (c : Char) : Option Nat :=
  if '0' ≤ c ∧ c ≤ '9' then some (c.toNat - 48)
  else if 'A' ≤ c ∧ c ≤ 'F' then some (c.toNat - 55)
  else if 'a' ≤ c ∧ c ≤ 'f' then some (c.toNat - 87)
  else none

/-- The value of hexadecimal digits. -/
def hexValue? (cs : List Char) : Option Nat :=
  cs.foldl (fun n c => n.bind fun n => (hexDigit? c).map (n * 16 + ·)) (some 0)

/-- The character that a one-letter escape stands for. -/
def shortEscape? : Char → Option Char
  | '0' => some '\x00'
  | 'a' => some '\x07'
  | 'b' => some '\x08'
  | 't' | '\t' => some '\t'
  | 'n' => some '\n'
  | 'v' => some '\x0b'
  | 'f' => some '\x0c'
  | 'r' => some '\r'
  | 'e' => some '\x1b'
  | ' ' => some ' '
  | '"' => some '"'
  | '/' => some '/'
  | '\\' => some '\\'
  | 'N' => some '\u0085'
  | '_' => some '\u00a0'
  | 'L' => some '\u2028'
  | 'P' => some '\u2029'
  | _ => none

/-- How many hexadecimal digits follow the letter of a numeric escape. -/
def escapeWidth? : Char → Option Nat
  | 'x' => some 2
  | 'u' => some 4
  | 'U' => some 8
  | _ => none

/-- The character of a numeric escape. A surrogate is none. -/
def scalarValue? (n : Nat) : Option Char :=
  if (0xD800 ≤ n ∧ n ≤ 0xDFFF) ∨ 0x10FFFF < n then none else some (Char.ofNat n)

/-- Reads an escape from its backslash on: the character, and how many glyphs it takes behind the
backslash. -/
def escape (start : Mark) (gs : List Glyph) : Except Refusal (Char × Nat) :=
  let letter := peek gs.tail
  match shortEscape? letter, escapeWidth? letter with
  | some c, _ => .ok (c, 1)
  | none, none => refuse gs .unknownEscape ⟨.escape, start⟩
  | none, some width =>
    let digits := gs.drop 2
    let value := hexValue? ((digits.take width).map (·.char))
    match if width ≤ digits.length then value else none with
    | none => refuse digits .noHexDigits ⟨.escape, start⟩
    | some n => (orRefuse digits .noCharacter ⟨.escape, start⟩ (scalarValue? n)).map (·, width + 1)

/-- Reads the rest of a quoted scalar, up to and with its closing quote. -/
def quoted (start : Mark) (double : Bool) (gap : Gap) (text : String) :
    List Glyph → Except Refusal (String × List Glyph)
  | [] => refuse [] .endOfText ⟨.quotedScalar, start⟩
  | g :: gs =>
    if anyDocumentMarker (g :: gs) then refuse (g :: gs) .documentMark ⟨.quotedScalar, start⟩
    else if g.char == endOfText then refuse (g :: gs) .endOfText ⟨.quotedScalar, start⟩
    else if isSpaceOrTab g.char then quoted start double (gap.addBlank g.char) text gs
    else if isBreak g.char then quoted start double (gap.addBreak g.char) text gs
    else if double then
      if g.char == '"' then .ok (text ++ gap.text, gs)
      else if g.char == '\\' then
        if isBreak (peek gs) then quoted start double .hidden (text ++ gap.text) (gs.drop 1)
        else
          match escape start (g :: gs) with
          | .error e => .error e
          | .ok (c, n) => quoted start double {} ((text ++ gap.text).push c) (gs.drop n)
      else quoted start double {} ((text ++ gap.text).push g.char) gs
    else if g.char == '\'' then
      if peek gs == '\'' then quoted start double {} ((text ++ gap.text).push '\'') (gs.drop 1)
      else .ok (text ++ gap.text, gs)
    else quoted start double {} ((text ++ gap.text).push g.char) gs
termination_by gs => gs.length
decreasing_by all_goals (simp only [List.length_cons, List.length_drop]; omega)

/-! ## Plain scalars -/

/-- The characters that end a plain scalar inside brackets. -/
def isFlowMark (c : Char) : Bool := c == ',' || c == '[' || c == ']' || c == '{' || c == '}'

structure PlainEnd where
  text : String
  /-- Whether a line break stands between the scalar and what comes next. -/
  broken : Bool
  rest : List Glyph

/-- Reads a plain scalar and the gap behind it. Outside brackets a line that is indented less than
`indent` does not belong to it. -/
def plain (start : Mark) (inFlow : Bool) (indent : Nat) (gap : Gap) (text : String) :
    List Glyph → Except Refusal PlainEnd
  | [] => .ok ⟨text, gap.broken, []⟩
  | g :: gs =>
    if isSpaceOrTab g.char then
      if gap.broken && g.mark.column < indent && g.char == '\t' then
        refuse (g :: gs) .tabInPlain ⟨.plainScalar, start⟩
      else plain start inFlow indent (gap.addBlank g.char) text gs
    else if isBreak g.char then plain start inFlow indent (gap.addBreak g.char) text gs
    else if g.char == endOfText || anyDocumentMarker (g :: gs) ||
        (gap.started && (g.char == '#' || (!inFlow && g.mark.column < indent))) then
      .ok ⟨text, gap.broken, g :: gs⟩
    else if inFlow && g.char == ':' && (isFlowMark (peek gs) || peek gs == '?') then
      refuse (g :: gs) .colonInBrackets ⟨.plainScalar, start⟩
    else if (g.char == ':' && isGapOrEnd (peek gs)) || (inFlow && isFlowMark g.char) then
      .ok ⟨text, gap.broken, g :: gs⟩
    else plain start inFlow indent {} ((text ++ gap.text).push g.char) gs

/-! ## Block scalars -/

/-- What happens to the line breaks at the end of a block. -/
inductive Chomp where
  | strip
  | clip
  | keep
  deriving DecidableEq, Repr

structure BlockHeader where
  chomp : Chomp := .clip
  /-- The indentation over that of the surrounding block, where it is stated. -/
  indent : Option Nat := none

def chomp? (gs : List Glyph) : Option Chomp :=
  if peek gs == '+' then some .keep else if peek gs == '-' then some .strip else none

/-- Reads an indentation digit, if there is one. Zero is refused. -/
def blockIndent (start : Mark) (gs : List Glyph) : Except Refusal (Option Nat × List Glyph) :=
  if (peek gs).isDigit then
    if peek gs == '0' then refuse gs .zeroIndent ⟨.blockScalar, start⟩
    else .ok (some ((peek gs).toNat - 48), gs.tail)
  else .ok (none, gs)

/-- Reads what may stand between the mark of a block and the end of its line. -/
def blockHeader (start : Mark) (gs : List Glyph) : Except Refusal (BlockHeader × List Glyph) :=
  match chomp? gs with
  | some c => do
    let (indent, gs) ← blockIndent start gs.tail
    return (⟨c, indent⟩, gs)
  | none => do
    let (indent, gs) ← blockIndent start gs
    match indent.bind fun _ => chomp? gs with
    | some c => return (⟨c, indent⟩, gs.tail)
    | none => return (⟨.clip, indent⟩, gs)

/-- Skips indentation and empty lines, up to `indent` where it is known. Gives the deepest
indentation seen, and the line breaks. -/
def blockBreaks (start : Mark) (indent : Option Nat) (deepest : Nat) (breaks : String) :
    List Glyph → Except Refusal (Nat × String × List Glyph)
  | [] => .ok (deepest, breaks, [])
  | g :: gs =>
    let short := indent.all (g.mark.column < ·)
    let deepest' := max deepest g.mark.column
    if short && g.char == ' ' then blockBreaks start indent deepest breaks gs
    else if short && g.char == '\t' then refuse (g :: gs) .tabForIndent ⟨.blockScalar, start⟩
    else if isBreak g.char then blockBreaks start indent deepest' (breaks.push g.char) gs
    else .ok (deepest', breaks, g :: gs)

theorem length_blockBreaks {start : Mark} {indent : Option Nat} {deepest d : Nat}
    {breaks b : String} {gs rest : List Glyph}
    (h : blockBreaks start indent deepest breaks gs = .ok (d, b, rest)) :
    rest.length ≤ gs.length := by
  induction gs generalizing deepest breaks with
  | nil => simp_all [blockBreaks]
  | cons g gs ih =>
    simp only [blockBreaks] at h
    split at h
    · exact Nat.le_succ_of_le (ih h)
    · split at h
      · cases h
      · split at h
        · exact Nat.le_succ_of_le (ih h)
        · simp only [Except.ok.injEq, Prod.mk.injEq] at h
          exact Nat.le_of_eq (congrArg List.length h.2.2.symm)

/-- The lines of a block that have been read, and what stands between them and the next. -/
structure BlockText where
  text : String := ""
  lastBreak : String := ""
  emptyLines : String := ""
  /-- Whether the last line starts with a blank. -/
  indented : Bool := false

/-- Adds a line. In a folded block the break between two lines that start with a word counts as a
space. -/
def BlockText.addLine (b : BlockText) (folded : Bool) (line lineBreak : String) : BlockText :=
  let indented := line.toList.head?.any isSpaceOrTab
  let fold := folded && b.lastBreak == "\n" && !b.indented && !indented
  let between := if fold then (if b.emptyLines.isEmpty then " " else "") else b.lastBreak
  ⟨b.text ++ between ++ b.emptyLines ++ line, lineBreak, "", indented⟩

def BlockText.chomped (b : BlockText) : Chomp → String
  | .strip => b.text
  | .clip => b.text ++ b.lastBreak
  | .keep => b.text ++ b.lastBreak ++ b.emptyLines

/-- The text and the break of the line that starts here, and what comes after it. -/
def blockLine (gs : List Glyph) : String × String × List Glyph :=
  let (line, rest) := spanText (!isLineEnd ·) gs
  if isBreak (peek rest) then (line, (peek rest).toString, rest.tail) else (line, "", rest)

theorem length_blockLine {g : Glyph} {gs : List Glyph} (hg : isLineEnd g.char = false) :
    (blockLine (g :: gs)).2.2.length ≤ gs.length := by
  have h : ((g :: gs).dropWhile fun g => !isLineEnd g.char).length ≤ gs.length := by
    simpa [hg] using (List.dropWhile_suffix (l := gs) fun g => !isLineEnd g.char).length_le
  generalize hr : (g :: gs).dropWhile (fun g => !isLineEnd g.char) = rest at h
  by_cases hb : isBreak (peek rest)
  · simp only [blockLine, spanText, hr, hb, if_true, List.length_tail]
    omega
  · simpa only [blockLine, spanText, hr, hb, Bool.false_eq_true, if_false] using h

/-- Reads the lines that are indented by `indent`. -/
def blockLines (start : Mark) (folded : Bool) (indent : Nat) (b : BlockText) (gs : List Glyph) :
    Except Refusal (BlockText × List Glyph) :=
  match gs with
  | [] => .ok (b, [])
  | g :: gs =>
    if _hg : g.mark.column = indent ∧ isLineEnd g.char = false then
      match _hb : blockBreaks start (some indent) 0 "" (blockLine (g :: gs)).2.2 with
      | .error e => .error e
      | .ok (_, breaks, rest) =>
        let b := b.addLine folded (blockLine (g :: gs)).1 (blockLine (g :: gs)).2.1
        blockLines start folded indent { b with emptyLines := breaks } rest
    else .ok (b, g :: gs)
termination_by gs.length
decreasing_by
  have h1 := length_blockBreaks ‹_›
  have h2 := @length_blockLine g gs _hg.2
  simp only [List.length_cons]
  omega

/-- Reads a block scalar after its mark, in a block whose content is indented by `outer` at
least. -/
def block (start : Mark) (folded : Bool) (outer : Nat) (gs : List Glyph) :
    Except Refusal (String × List Glyph) := do
  let (header, gs) ← blockHeader start gs
  let gs ← orRefuse (skipComment gs) .lineNotEnded ⟨.blockScalar, start⟩ (restOfLine? gs)
  let stated := header.indent.map (outer - 1 + ·)
  let (deepest, breaks, gs) ← blockBreaks start stated 0 "" gs
  let indent := stated.getD (max deepest (max outer 1))
  let (b, rest) ← blockLines start folded indent { emptyLines := breaks } gs
  return (b.chomped header.chomp, rest)

end PolicyGate.Yaml
