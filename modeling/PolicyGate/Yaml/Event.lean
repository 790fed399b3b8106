import PolicyGate.Yaml.Layout

/-!
# From tokens to events

Events say how the documents of a text are nested. A `Reader` is what is left of the tokens and what
has to come next, as a stack: the innermost construct first. What is left out, such as a value
behind a colon, becomes an empty scalar.
-/

namespace PolicyGate.Yaml

/-- The anchor and the tag in front of a node. -/
structure Properties where
  anchor : Option String := none
  tag : Option String := none
  deriving DecidableEq, Repr

inductive Event where
  | reference (name : String)
  | scalar (properties : Properties) (style : Style) (text : String)
  | sequenceStart (properties : Properties)
  | sequenceEnd
  | mappingStart (properties : Properties)
  | mappingEnd
  | documentStart
  | documentEnd
  | streamEnd
  deriving DecidableEq, Repr

/-- What may come next in a construct. -/
inductive Expect where
  /-- The first document, which needs no marker. -/
  | firstDocument
  | document
  | documentContent
  | documentEnd
  | node
  | blockItem
  /-- An item of a sequence that is indented no deeper than the key it belongs to. -/
  | hangingItem
  | blockKey
  | blockValue
  | flowFirstItem
  | flowItem
  /-- The one key of a mapping without braces, inside a sequence in brackets. -/
  | pairKey
  | pairValue
  | pairEnd
  | flowFirstKey
  | flowKey
  | flowValue
  /-- The value of a key behind which no colon comes. -/
  | flowNoValue
  deriving DecidableEq, Repr

structure Reader where
  tokens : List (Located Token)
  /-- Why there are no more tokens. -/
  broken : Option Refusal := none
  stack : List Expect := [.firstDocument]
  /-- Where the open collections start, the innermost first. -/
  starts : List Mark := []
  /-- What the tag handles of the document stand for. -/
  handles : List (String × String) := []

namespace Reader

abbrev Said := Located Event × Reader

/-- The refusal of what has no token. -/
def refusal (r : Reader) : Refusal := r.broken.getD { problem := .endOfText }

/-- The next token. -/
def peek (r : Reader) : Except Refusal Token :=
  match r.tokens with
  | [] => .error r.refusal
  | t :: _ => .ok t.item

/-- The place of the next token. -/
def mark (r : Reader) : Mark :=
  match r.tokens with
  | [] => {}
  | t :: _ => t.mark

/-- The place behind the next token. -/
def stop (r : Reader) : Mark :=
  match r.tokens with
  | [] => {}
  | t :: _ => t.stop

def skip (r : Reader) : Reader := { r with tokens := r.tokens.tail }

/-- Goes on with the given expectations, the innermost first. -/
def await (r : Reader) (es : List Expect) : Reader := { r with stack := es ++ r.stack }

/-- Notes that a collection starts with the next token. -/
def enter (r : Reader) : Reader := { r with starts := r.mark :: r.starts }

/-- Notes that a collection ends. -/
def leave (r : Reader) : Reader := { r with starts := r.starts.tail }

/-- Refuses the next token in the innermost collection. -/
def refuseIn (r : Reader) (problem : Problem) (activity : Activity) : Except Refusal Said :=
  .error { problem, mark := r.mark, context := some ⟨activity, r.starts.headD {}⟩ }

def say (m : Mark) (e : Event) (r : Reader) : Except Refusal Said := .ok (⟨m, e, m⟩, r)

/-- An empty scalar where a node was left out. -/
def sayEmpty (r : Reader) (m : Mark) (next : List Expect) : Except Refusal Said := do
  let _ ← r.peek
  say m (.scalar {} .plain "") (r.await next)

/-! ## Documents -/

def standardHandles : List (String × String) := [("!", "!"), ("!!", "tag:yaml.org,2002:")]

/-- Reads directives. Only versions 1.1 and 1.2 are known, and nothing may be stated twice. -/
def directives (broken : Refusal) (version : Bool) (handles : List (String × String)) :
    List (Located Token) → Except Refusal (List (String × String) × List (Located Token))
  | [] => .error broken
  | t :: ts =>
    match t.item with
    | .version major minor =>
      if version then .error { problem := .versionTwice, mark := t.mark }
      else if major != 1 || (minor != 1 && minor != 2) then
        .error { problem := .unknownVersion, mark := t.mark }
      else directives broken true handles ts
    | .handle name expansion =>
      if (handles.lookup name).isSome then .error { problem := .handleTwice, mark := t.mark }
      else directives broken version ((name, expansion) :: handles) ts
    | _ => .ok (handles ++ standardHandles, t :: ts)

def explicitDocument (r : Reader) : Except Refusal Said := do
  let (handles, tokens) ← directives r.refusal false [] r.tokens
  let r' := { r with tokens, handles }
  if (← r'.peek) == .documentStart then
    say r.mark .documentStart (r'.skip.await [.documentContent, .documentEnd])
  else throw { problem := .noDocumentStart, mark := r'.mark }

def startDocument (r : Reader) (first : Bool) : Except Refusal Said := do
  match ← r.peek with
  | .streamEnd => say r.mark .streamEnd r
  | .version .. | .handle .. | .documentStart => r.explicitDocument
  | _ =>
    if first then
      say r.mark .documentStart
        ({ r with handles := standardHandles }.await [.node, .documentEnd])
    else throw { problem := .noDocumentStart, mark := r.mark }

/-! ## Nodes -/

/-- A tag counts up to its first NUL. -/
def beforeNul (text : String) : String := String.ofList (text.toList.takeWhile (· != '\x00'))

/-- The tag that a handle and a suffix stand for, in a node that starts at a place. -/
def expandTag (r : Reader) (start : Mark) (handle suffix : String) : Except Refusal String :=
  let tail := beforeNul suffix
  if handle.isEmpty then .ok tail
  else
    match r.handles.lookup handle with
    | some lead => .ok (beforeNul lead ++ tail)
    | none =>
      .error { problem := .unknownHandle, mark := r.mark, context := some ⟨.node, start⟩ }

/-- Reads the anchor and the tag of a node, in either order. -/
def properties (r : Reader) : Except Refusal (Properties × Reader) := do
  let start := r.mark
  match ← r.peek with
  | .anchor a =>
    match ← r.skip.peek with
    | .tag h s =>
      let _ ← r.skip.skip.peek
      return (⟨some a, some (← r.skip.expandTag start h s)⟩, r.skip.skip)
    | _ => return (⟨some a, none⟩, r.skip)
  | .tag h s =>
    match ← r.skip.peek with
    | .anchor a =>
      let _ ← r.skip.skip.peek
      return (⟨some a, some (← r.expandTag start h s)⟩, r.skip.skip)
    | _ => return (⟨none, some (← r.expandTag start h s)⟩, r.skip)
  | _ => return ({}, r)

/-- Where a node may stand. -/
inductive Place where
  | flow
  | block
  /-- Behind a key, where a sequence need not be indented. -/
  | behindKey
  deriving DecidableEq

/-- Reads the start of a node, or all of it if it is a scalar. -/
def node (r : Reader) (place : Place) : Except Refusal Said := do
  match ← r.peek with
  | .reference name => say r.mark (.reference name) r.skip
  | _ =>
    let m := r.mark
    let (p, r) ← r.properties
    match ← r.peek with
    | .scalar style text => say m (.scalar p style text) r.skip
    | .flowSequenceStart => say m (.sequenceStart p) (r.enter.skip.await [.flowFirstItem])
    | .flowMappingStart => say m (.mappingStart p) (r.enter.skip.await [.flowFirstKey])
    | t =>
      if t == .blockEntry && place == .behindKey then
        say m (.sequenceStart p) (r.await [.hangingItem])
      else if t == .blockSequenceStart && place != .flow then
        say m (.sequenceStart p) (r.enter.skip.await [.blockItem])
      else if t == .blockMappingStart && place != .flow then
        say m (.mappingStart p) (r.enter.skip.await [.blockKey])
      else if p == {} then
        throw
          { problem := .noContent
            mark := r.mark
            context := some ⟨if place == .flow then .flowNode else .blockNode, m⟩ }
      else say m (.scalar p .plain "") r

/-- Reads a node, or leaves it out in front of one of the given tokens. `m` is the place where it
would be then. -/
def nodeUnless (r : Reader) (m : Mark) (stops : List Token) (place : Place) (next : Expect) :
    Except Refusal Said := do
  if stops.contains (← r.peek) then r.sayEmpty m [next] else (r.await [next]).node place

/-! ## Collections -/

def blockItem (r : Reader) : Except Refusal Said := do
  match ← r.peek with
  | .blockEntry => r.skip.nodeUnless r.stop [.blockEntry, .blockEnd] .block .blockItem
  | .blockEnd => say r.mark .sequenceEnd r.leave.skip
  | _ => r.refuseIn .noDash .blockSequence

def hangingItem (r : Reader) : Except Refusal Said := do
  match ← r.peek with
  | .blockEntry =>
    r.skip.nodeUnless r.stop [.blockEntry, .key, .value, .blockEnd] .block .hangingItem
  | _ => say r.mark .sequenceEnd r

def blockKey (r : Reader) : Except Refusal Said := do
  match ← r.peek with
  | .key => r.skip.nodeUnless r.stop [.key, .value, .blockEnd] .behindKey .blockValue
  | .blockEnd => say r.mark .mappingEnd r.leave.skip
  | _ => r.refuseIn .noKey .blockMapping

def blockValue (r : Reader) : Except Refusal Said := do
  match ← r.peek with
  | .value => r.skip.nodeUnless r.stop [.key, .value, .blockEnd] .behindKey .blockKey
  | _ => r.sayEmpty r.mark [.blockKey]

/-- The reader behind the comma that separates it from what came before. -/
def afterComma (r : Reader) (first : Bool) (problem : Problem) (activity : Activity) :
    Except Refusal Reader := do
  if first then return r
  else
    match ← r.peek with
    | .flowEntry => return r.skip
    | _ => (r.refuseIn problem activity).map (·.2)

def flowItem (r : Reader) (first : Bool) : Except Refusal Said := do
  if (← r.peek) == .flowSequenceEnd then say r.mark .sequenceEnd r.leave.skip
  else
    let r ← r.afterComma first .noCommaOrBracket .flowSequence
    match ← r.peek with
    | .key => say r.mark (.mappingStart {}) (r.skip.await [.pairKey, .flowItem])
    | .flowSequenceEnd => say r.mark .sequenceEnd r.leave.skip
    | _ => (r.await [.flowItem]).node .flow

/-- A key that is left out takes the token behind it along. -/
def pairKey (r : Reader) : Except Refusal Said := do
  match ← r.peek with
  | .value | .flowEntry | .flowSequenceEnd => r.skip.sayEmpty r.stop [.pairValue]
  | _ => (r.await [.pairValue]).node .flow

def pairValue (r : Reader) : Except Refusal Said := do
  match ← r.peek with
  | .value => r.skip.nodeUnless r.skip.mark [.flowEntry, .flowSequenceEnd] .flow .pairEnd
  | _ => r.sayEmpty r.mark [.pairEnd]

def flowKey (r : Reader) (first : Bool) : Except Refusal Said := do
  if (← r.peek) == .flowMappingEnd then say r.mark .mappingEnd r.leave.skip
  else
    let r ← r.afterComma first .noCommaOrBrace .flowMapping
    match ← r.peek with
    | .key => r.skip.nodeUnless r.skip.mark [.value, .flowEntry, .flowMappingEnd] .flow .flowValue
    | .flowMappingEnd => say r.mark .mappingEnd r.leave.skip
    | _ => (r.await [.flowNoValue]).node .flow

def flowValue (r : Reader) : Except Refusal Said := do
  match ← r.peek with
  | .value => r.skip.nodeUnless r.skip.mark [.flowEntry, .flowMappingEnd] .flow .flowKey
  | _ => r.sayEmpty r.mark [.flowKey]

def documentContent (r : Reader) : Except Refusal Said := do
  match ← r.peek with
  | .version .. | .handle .. | .documentStart | .documentEnd | .streamEnd => r.sayEmpty r.mark []
  | _ => r.node .block

def documentEnd (r : Reader) : Except Refusal Said := do
  let r' := if (← r.peek) == .documentEnd then r.skip else r
  say r.mark .documentEnd (r'.await [.document])

/-! ## The run -/

/-- Gives what the innermost construct expects. -/
def serve (e : Expect) (r : Reader) : Except Refusal Said :=
  match e with
  | .firstDocument => r.startDocument true
  | .document =>
    { r with tokens := r.tokens.dropWhile (·.item == Token.documentEnd) }.startDocument false
  | .documentContent => r.documentContent
  | .documentEnd => r.documentEnd
  | .node => r.node .block
  | .blockItem => r.blockItem
  | .hangingItem => r.hangingItem
  | .blockKey => r.blockKey
  | .blockValue => r.blockValue
  | .flowFirstItem => r.flowItem true
  | .flowItem => r.flowItem false
  | .pairKey => r.pairKey
  | .pairValue => r.pairValue
  | .pairEnd => do
    let _ ← r.peek
    say r.mark .mappingEnd r
  | .flowFirstKey => r.flowKey true
  | .flowKey => r.flowKey false
  | .flowValue => r.flowValue
  | .flowNoValue => r.sayEmpty r.mark [.flowKey]

/-- The next event, or why there is none. -/
def next (r : Reader) : Except Refusal Said :=
  match r.stack with
  | [] => .error r.refusal
  | e :: stack => { r with stack }.serve e

/-- All events, and why there are no more. -/
def run : Nat → Reader → Array (Located Event) → Array (Located Event) × Refusal
  | 0, r, done => (done, r.refusal)
  | fuel + 1, r, done =>
    match r.next with
    | .error e => (done, e)
    | .ok (e, r) => run fuel r (done.push e)

end Reader

/-- The events of a text, as far as it can be read, and why it cannot be read further. A token gives
rise to four events at most. -/
def events (text : String) : List (Located Event) × Refusal :=
  let (ts, broken) := tokens text
  let (es, e) := Reader.run (4 * ts.length + 8) { tokens := ts, broken } #[]
  (es.toList, e)

end PolicyGate.Yaml
