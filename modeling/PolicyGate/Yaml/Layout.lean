import PolicyGate.Yaml.Token

/-!
# From glyphs to tokens

A `Layout` is what is known between two tokens: which blocks and brackets are open, and where a
mapping key may have begun. That a scalar was a key shows only at the colon behind it, on the same
line; the tokens that mark it are then put in front of it. Where the text breaks a rule, only the
tokens that no later colon could still move are delivered, with the refusal.
-/

namespace PolicyGate.Yaml

/-- A place where a key may have begun. -/
structure KeyStart where
  /-- Whether the block can only go on with a key here. -/
  required : Bool
  /-- How many tokens come before it. -/
  number : Nat
  mark : Mark

structure Layout where
  rest : List Glyph
  tokens : Array (Located Token) := #[]
  /-- The columns of the open blocks, the innermost first. -/
  columns : List Nat := []
  /-- Whether a key may begin here. -/
  keyAllowed : Bool := true
  keyStart : Option KeyStart := none
  /-- The possible keys outside the open brackets, one for each. -/
  outerKeys : List (Option KeyStart) := []
  finished : Bool := false
  /-- Where a character stands that the text must not hold. -/
  unreadable : Option Nat := none

namespace Layout

def inFlow (s : Layout) : Bool := !s.outerKeys.isEmpty

/-- The place of the next character. A last line that is not ended ends here. -/
def mark (s : Layout) : Mark :=
  let m := here s.rest
  if s.finished && m.column != 0 then ⟨m.index, m.line + 1, 0⟩ else m

/-- The least column of content in the innermost block. -/
def contentColumn (s : Layout) : Nat :=
  match s.columns with
  | [] => 0
  | c :: _ => c + 1

/-! ## Steps that every token shares -/

/-- Adds a token and skips its `n` characters. -/
def emit (s : Layout) (t : Token) (n : Nat) : Layout :=
  let rest := s.rest.drop n
  { s with tokens := s.tokens.push ⟨s.mark, t, here rest⟩, rest }

/-- Adds a token that has been read up to `rest`. -/
def emitTo (s : Layout) (t : Token) (rest : List Glyph) : Layout :=
  { s with tokens := s.tokens.push ⟨here s.rest, t, here rest⟩, rest }

/-- Puts a token in front of those from number `n` on. -/
def insert (s : Layout) (n : Nat) (m : Mark) (t : Token) : Layout :=
  { s with tokens := (s.tokens.extract 0 n).push ⟨m, t, m⟩ ++ s.tokens.extract n s.tokens.size }

/-- Closes the blocks that are indented deeper than `column`, or all of them. -/
def closeBlocks (s : Layout) (column : Option Nat) : Layout :=
  if s.inFlow then s
  else
    let n := (s.columns.takeWhile fun c => column.all (· < c)).length
    { s with
      tokens := s.tokens ++ Array.replicate n ⟨s.mark, Token.blockEnd, s.mark⟩
      columns := s.columns.drop n }

/-- Opens a block in front of token number `n` if it is indented deeper than the innermost one. -/
def openBlock (s : Layout) (n : Nat) (m : Mark) (t : Token) : Layout :=
  if s.inFlow then s
  else if s.columns.head?.all (· < m.column) then
    { s.insert n m t with columns := m.column :: s.columns }
  else s

/-- Why a key that is required cannot be forgotten. -/
def noColon (s : Layout) (k : KeyStart) : Refusal :=
  { problem := .noColon, mark := s.mark, context := some ⟨.simpleKey, k.mark⟩ }

/-- Forgets that a key may have begun. A required key must not be forgotten. -/
def dropKey (s : Layout) : Except Refusal Layout :=
  match s.keyStart.filter (·.required) with
  | some k => .error (s.noColon k)
  | none => .ok { s with keyStart := none }

/-- Notes that a key may begin here. -/
def noteKey (s : Layout) : Except Refusal Layout :=
  if s.keyAllowed then do
    let required := !s.inFlow && s.columns.head? == some (here s.rest).column
    let s ← s.dropKey
    return { s with keyStart := some ⟨required, s.tokens.size, here s.rest⟩ }
  else .ok s

def allowKey (s : Layout) (allowed : Bool) : Layout := { s with keyAllowed := allowed }

/-- The distance in bytes between a key and its colon. -/
def keyReach : Nat := 1024

def expired (now : Mark) (k : KeyStart) : Bool :=
  k.mark.line < now.line || k.mark.index + keyReach < now.index

/-- Forgets the keys that began on an earlier line or too far back. -/
def expire (s : Layout) : Except Refusal Layout :=
  let now := s.mark
  let keys := (s.keyStart :: s.outerKeys).reverse.filterMap id
  match keys.find? fun k => k.required && expired now k with
  | some k => .error (s.noColon k)
  | none =>
    .ok { s with
      keyStart := s.keyStart.filter fun k => !expired now k
      outerKeys := s.outerKeys.map (·.filter fun k => !expired now k) }

/-- How many tokens no later colon can move. -/
def settled (s : Layout) : Nat :=
  ((s.keyStart :: s.outerKeys).filterMap id).foldl (fun n k => min n k.number) s.tokens.size

/-! ## One token -/

/-- Skips blanks, comments and line breaks, and byte order marks that start a line. After a line break
outside brackets a key may begin. A tab is no indentation. -/
def skipGap (flow : Bool) (comment allowed : Bool) : List Glyph → Bool × List Glyph
  | [] => (allowed, [])
  | g :: gs =>
    if isBreak g.char then skipGap flow false (allowed || !flow) gs
    else if g.char == endOfText then (allowed, g :: gs)
    else if comment || g.char == '#' then skipGap flow true allowed gs
    else if g.char == ' ' || (g.char == '\t' && (flow || !allowed)) then
      skipGap flow false allowed gs
    else if g.char == '\uFEFF' && g.mark.column == 0 then skipGap flow false allowed gs
    else (allowed, g :: gs)

def documentMark (s : Layout) (t : Token) : Except Refusal Layout := do
  let s ← (s.closeBlocks none).dropKey
  return (s.emit t 3).allowKey false

def streamEnd (s : Layout) : Except Refusal Layout := do
  let s ← ({ s with finished := true }.closeBlocks none).dropKey
  return (s.emit .streamEnd 0).allowKey false

def directive (s : Layout) : Except Refusal Layout := do
  let s ← (s.closeBlocks none).dropKey
  let (t, rest) ← Yaml.directive s.rest
  return (s.emitTo t rest).allowKey false

def openFlow (s : Layout) (t : Token) : Except Refusal Layout := do
  let s ← s.noteKey
  return { (s.emit t 1).allowKey true with
    keyStart := none, outerKeys := s.keyStart :: s.outerKeys }

def closeFlow (s : Layout) (t : Token) : Except Refusal Layout := do
  let s ← s.dropKey
  let s := (s.emit t 1).allowKey false
  match s.outerKeys with
  | [] => return s
  | k :: ks => return { s with keyStart := k, outerKeys := ks }

def flowEntry (s : Layout) : Except Refusal Layout := do
  let s ← s.dropKey
  return (s.emit .flowEntry 1).allowKey true

/-- Refuses what stands where no key may begin. -/
def stray (s : Layout) (problem : Problem) : Except Refusal Layout :=
  .error { problem, mark := here s.rest }

/-- Takes a mark that opens a block of its own, a dash or a question mark. -/
def blockMark (s : Layout) (opening t : Token) (problem : Problem) (allowed : Bool) :
    Except Refusal Layout :=
  if !s.inFlow && !s.keyAllowed then s.stray problem
  else do
    let s ← (s.openBlock s.tokens.size (here s.rest) opening).dropKey
    return (s.emit t 1).allowKey allowed

/-- Takes a colon. The tokens that mark its key come in front of the key. -/
def colon (s : Layout) : Except Refusal Layout :=
  match s.keyStart with
  | some k =>
    let s := (s.insert k.number k.mark .key).openBlock k.number k.mark .blockMappingStart
    .ok (({ s with keyStart := none }.emit .value 1).allowKey false)
  | none =>
    if !s.inFlow && !s.keyAllowed then s.stray .strayValue
    else
      let s := s.openBlock s.tokens.size (here s.rest) .blockMappingStart
      .ok ((s.emit .value 1).allowKey !s.inFlow)

/-- Takes an alias or an anchor. -/
def name (s : Layout) (activity : Activity) (t : String → Token) : Except Refusal Layout := do
  let s ← s.noteKey
  let (n, rest) ← anchorName ⟨activity, here s.rest⟩ s.rest.tail
  return (s.emitTo (t n) rest).allowKey false

def tag (s : Layout) : Except Refusal Layout := do
  let s ← s.noteKey
  let (t, rest) ← Yaml.tag s.inFlow s.rest
  return (s.emitTo t rest).allowKey false

def blockScalar (s : Layout) (folded : Bool) : Except Refusal Layout := do
  let s ← s.dropKey
  let (text, rest) ← block (here s.rest) folded s.contentColumn s.rest.tail
  return (s.emitTo (.scalar (if folded then .folded else .literal) text) rest).allowKey true

def quotedScalar (s : Layout) (double : Bool) : Except Refusal Layout := do
  let s ← s.noteKey
  let (text, rest) ← quoted (here s.rest) double {} "" s.rest.tail
  let style := if double then Style.doubleQuoted else .singleQuoted
  return (s.emitTo (.scalar style text) rest).allowKey false

def plainScalar (s : Layout) : Except Refusal Layout := do
  let s ← s.noteKey
  let e ← plain (here s.rest) s.inFlow s.contentColumn {} "" s.rest
  return (s.emitTo (.scalar .plain e.text) e.rest).allowKey e.broken

/-- Whether a plain scalar may start here. -/
def startsPlain (flow : Bool) (gs : List Glyph) : Bool :=
  let c := peek gs
  let d := peek gs.tail
  !(isGapOrEnd c || isFlowMark c || "-?:#&*!|>'\"%@`".toList.contains c) ||
    (c == '-' && !isSpaceOrTab d) || (!flow && (c == '?' || c == ':') && !isGapOrEnd d)

/-- Takes the token that starts here. -/
def token (s : Layout) : Except Refusal Layout :=
  let c := peek s.rest
  let alone := isGapOrEnd (peek s.rest.tail)
  if c == endOfText then s.streamEnd
  else if c == '%' && (here s.rest).column == 0 then s.directive
  else if documentMarker '-' s.rest then s.documentMark .documentStart
  else if documentMarker '.' s.rest then s.documentMark .documentEnd
  else if c == '[' then s.openFlow .flowSequenceStart
  else if c == '{' then s.openFlow .flowMappingStart
  else if c == ']' then s.closeFlow .flowSequenceEnd
  else if c == '}' then s.closeFlow .flowMappingEnd
  else if c == ',' then s.flowEntry
  else if c == '-' && alone then s.blockMark .blockSequenceStart .blockEntry .strayEntry true
  else if c == '?' && (s.inFlow || alone) then
    s.blockMark .blockMappingStart .key .strayKey !s.inFlow
  else if c == ':' && (s.inFlow || alone) then s.colon
  else if c == '*' then s.name .reference .reference
  else if c == '&' then s.name .anchor .anchor
  else if c == '!' then s.tag
  else if c == '|' && !s.inFlow then s.blockScalar false
  else if c == '>' && !s.inFlow then s.blockScalar true
  else if c == '\'' then s.quotedScalar false
  else if c == '"' then s.quotedScalar true
  else if startsPlain s.inFlow s.rest then s.plainScalar
  else refuse s.rest .noToken ⟨.nextToken, here s.rest⟩

/-- The refusal of a text that holds what it must not. -/
def unreadableText (s : Layout) : Refusal :=
  { problem := .controlCharacter, position := s.unreadable.getD 0 }

/-- Goes to the next token and takes it. A refusal at the end of what is readable is one of what
comes behind it. -/
def next (s : Layout) : Except Refusal Layout := do
  let (allowed, rest) := skipGap s.inFlow false s.keyAllowed s.rest
  let s ← { s with keyAllowed := allowed, rest }.expire
  if cutOff s.rest then throw s.unreadableText
  else
    match (s.closeBlocks (some (here s.rest).column)).token with
    | .ok t => if t.rest.isEmpty then throw s.unreadableText else return t
    | .error e =>
      if s.unreadable.isSome && e.mark == {} && e.problem != .noToken then throw s.unreadableText
      else throw e

/-- Takes tokens up to the end of the text, or to the first broken rule. -/
def run : Nat → Nat → Layout → Array (Located Token) × Option Refusal
  | 0, settled, s => (s.tokens.extract 0 settled, none)
  | fuel + 1, settled, s =>
    match s.expire with
    | .error e => (s.tokens.extract 0 settled, some e)
    | .ok s =>
      if s.finished then (s.tokens, none)
      else
        match s.next with
        | .error e => (s.tokens.extract 0 s.settled, some e)
        | .ok t => run fuel s.settled t

end Layout

/-- The tokens of a text, as far as it can be read, and why it cannot be read further. Those of a
readable text end in `streamEnd`. -/
def tokens (text : String) : List (Located Token) × Option Refusal :=
  let gs := glyphs text
  let (ts, e) := Layout.run (gs.length + 2) 0 { rest := gs, unreadable := unreadableAt? text }
  (ts.toList, e)

end PolicyGate.Yaml
