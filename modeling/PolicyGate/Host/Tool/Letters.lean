import PolicyGate.Host.Format
import PolicyGate.Host.Tool.Lines

/-!
# Exchanging letters

A set of bytes is written with ranges, classes and repeats. One set is exchanged for another byte by
byte, or its bytes are dropped, or those that repeat.
-/

namespace PolicyGate

namespace Host.Tool

/-- A part of a set as it is written. -/
inductive SetPart where
  | byte (b : UInt8)
  | range (low high : UInt8)
  | cls (name : String)
  /-- All bytes that count as one. -/
  | alike (b : UInt8)
  /-- A byte so many times, or as often as it takes. -/
  | times (b : UInt8) (n : Nat)
  deriving DecidableEq, Repr

namespace SetPart

def classNames : List String :=
  ["alpha", "upper", "lower", "digit", "alnum", "space", "blank", "punct", "graph", "print", "cntrl",
    "xdigit"]

def inClass (name : String) (b : UInt8) : Bool :=
  let upper := 0x41 ≤ b && b ≤ 0x5A
  let lower := 0x61 ≤ b && b ≤ 0x7A
  let digit := 0x30 ≤ b && b ≤ 0x39
  let graph := 0x21 ≤ b && b ≤ 0x7E
  if name == "upper" then upper
  else if name == "lower" then lower
  else if name == "alpha" then upper || lower
  else if name == "digit" then digit
  else if name == "alnum" then upper || lower || digit
  else if name == "space" then isAsciiSpace b
  else if name == "blank" then b = 0x20 || b = 0x09
  else if name == "punct" then graph && !(upper || lower || digit)
  else if name == "graph" then graph
  else if name == "print" then graph || b = 0x20
  else if name == "cntrl" then b < 0x20 || b = 0x7F
  else if name == "xdigit" then digit || (0x41 ≤ b && b ≤ 0x46) || (0x61 ≤ b && b ≤ 0x66)
  else false

def allBytes : List UInt8 := (List.range 256).map UInt8.ofNat

/-- The bytes of a part. A repeat without a number takes so many. -/
def bytes (room : Nat) : SetPart → List UInt8
  | .byte b | .alike b => [b]
  | .range low high => ((List.range (high.toNat + 1)).drop low.toNat).map UInt8.ofNat
  | .cls name => allBytes.filter (inClass name)
  | .times b 0 => List.replicate room b
  | .times b n => List.replicate n b

def isOpen : SetPart → Bool
  | .times _ 0 => true
  | _ => false

end SetPart

/-- The bytes of a written set, and whether each is escaped. -/
def setLetters : Nat → List Char → List (UInt8 × Bool)
  | 0, _ => []
  | _ + 1, [] => []
  | fuel + 1, '\\' :: cs =>
    match cs with
    | [] => [(0x5C, false)]
    | d :: rest =>
      match (letterEscape? d).filter fun _ => d != 'e' with
      | some b => (b, true) :: setLetters fuel rest
      | none =>
        if isOctal d then
          let three := ((cs.take 3).takeWhile isOctal)
          let n := three.foldl (fun (v : Nat) c => v * 8 + (c.toNat - 48)) 0
          let size := if 255 < n then 2 else three.length
          let value := (three.take size).foldl (fun (v : Nat) c => v * 8 + (c.toNat - 48)) 0
          (UInt8.ofNat value, true) :: setLetters fuel (cs.drop size)
        else (byteOf d, true) :: setLetters fuel rest
  | fuel + 1, c :: cs => (byteOf c, false) :: setLetters fuel cs

/-- A byte as it is named in a complaint. -/
def namedByte (b : UInt8) : List Char :=
  let c := Char.ofNat b.toNat
  if c == '\\' then ['\\', '\\'] else if isShown c then [c] else escapedChar c

def namedLetters (ls : List (UInt8 × Bool)) : Raw := String.ofList (ls.flatMap fun l => namedByte l.1)

/-- The letters up to a mark and a closing bracket, and what is behind. -/
def closedBy (mark : UInt8) : List (UInt8 × Bool) → Option (List (UInt8 × Bool) × List (UInt8 × Bool))
  | (b, false) :: (0x5D, false) :: rest =>
    if b = mark then some ([], rest)
    else (closedBy mark ((0x5D, false) :: rest)).map fun (inside, rest) => ((b, false) :: inside, rest)
  | l :: rest => (closedBy mark rest).map fun (inside, rest) => (l :: inside, rest)
  | [] => none

/-- Whether a repeat goes on here: a star, digits and a bracket. -/
def starDigitsBracket (ls : List (UInt8 × Bool)) : Bool :=
  match ls with
  | (0x2A, false) :: rest =>
    match rest.dropWhile fun l => 0x30 ≤ l.1 && l.1 ≤ 0x39 with
    | (0x5D, false) :: _ => true
    | _ => false
  | _ => false

/-- Reads a repeat behind its bracket. -/
def repeat? (ls : List (UInt8 × Bool)) : Option (Except Raw (SetPart × List (UInt8 × Bool))) :=
  match ls with
  | (b, _) :: (0x2A, false) :: rest =>
    let inside := rest.takeWhile fun l => l != (0x5D, false)
    match rest.drop inside.length with
    | [] => none
    | _ :: after =>
      let digits := inside.map fun l => Char.ofNat l.1.toNat
      let base := if digits.head? == some '0' then 8 else 10
      if digits.isEmpty then some (.ok (.times b 0, after))
      else if digits.all fun c => c.isDigit && c.toNat - 48 < base then
        some (.ok (.times b (digits.foldl (fun (v : Nat) c => v * base + (c.toNat - 48)) 0), after))
      else some (.error ("invalid repeat count " ++ quoted (namedLetters inside) ++ " in [c*n] construct"))
  | _ => none

/-- Reads the parts of a set. -/
def setParts : Nat → List (UInt8 × Bool) → Except Raw (List SetPart)
  | 0, _ => .ok []
  | _ + 1, [] => .ok []
  | fuel + 1, ls@((b, escaped) :: rest) =>
    let plain : Except Raw (List SetPart) :=
      match rest with
      | (0x2D, false) :: (d, _) :: more =>
        if d < b then
          .error ("range-endpoints of '" ++ String.ofList (namedByte b) ++ "-" ++ String.ofList (namedByte d) ++
            "' are in reverse collating sequence order")
        else (setParts fuel more).map (SetPart.range b d :: ·)
      | _ => (setParts fuel rest).map (SetPart.byte b :: ·)
    if ls.length < 3 then .ok (ls.map fun l => .byte l.1)
    else if b != 0x5B || escaped then plain
    else
      let again : Except Raw (List SetPart) :=
        match repeat? rest with
        | some (.ok (part, after)) => (setParts fuel after).map (part :: ·)
        | some (.error e) => .error e
        | none => plain
      match rest with
      | (mark, false) :: more =>
        if mark = 0x3A || mark = 0x3D then
          match closedBy mark more with
          | none => again
          | some (inside, after) =>
            if inside.isEmpty then
              .error (if mark = 0x3A then "missing character class name '[::]'"
                else "missing equivalence class character '[==]'")
            else if mark = 0x3A then
              let name := String.ofList (inside.map fun l => Char.ofNat l.1.toNat)
              if SetPart.classNames.contains name then (setParts fuel after).map (SetPart.cls name :: ·)
              else if starDigitsBracket more then again
              else .error ("invalid character class " ++ quoted (namedLetters inside))
            else
              match inside with
              | [(c, _)] => (setParts fuel after).map (SetPart.alike c :: ·)
              | _ =>
                if starDigitsBracket more then again
                else .error (namedLetters inside ++ ": equivalence class operand must be a single character")
        else again
      | _ => again

def setOf? (r : Raw) : Except Raw (List SetPart) :=
  let ls := setLetters (r.length + 1) r.toList
  setParts (ls.length + 1) ls

/-- The bytes of parts, of which an open repeat fills up to so many. -/
def fullBytes (room : Nat) (parts : List SetPart) : List UInt8 :=
  let fixed := ((parts.filter fun p => !p.isOpen).map fun p => (p.bytes 0).length).foldl (· + ·) 0
  parts.flatMap (SetPart.bytes (room - fixed))

/-- The bytes that are not in a set. -/
def othersOf (bytes : List UInt8) : List UInt8 := SetPart.allBytes.filter fun b => !bytes.contains b

/-- For each byte what stands for it. The last byte of a short set is used again. -/
def exchangeTable (source target : List UInt8) : Array UInt8 :=
  let last := target.getLast?
  let step : Array UInt8 × List UInt8 → UInt8 → Array UInt8 × List UInt8 := fun (table, target) b =>
    match target with
    | t :: ts => (table.setIfInBounds b.toNat t, ts)
    | [] => (match last with
      | some t => table.setIfInBounds b.toNat t
      | none => table, [])
  (source.foldl step (SetPart.allBytes.toArray, target)).1

/-- Drops bytes of a set that repeat the one before. -/
def squeeze (set : List UInt8) (bytes : List UInt8) : List UInt8 :=
  let member : Array Bool := set.foldl (fun a b => a.setIfInBounds b.toNat true) (Array.replicate 256 false)
  let step : List UInt8 × Option UInt8 → UInt8 → List UInt8 × Option UInt8 := fun (done, last) b =>
    if last == some b && member.getD b.toNat false then (done, last) else (b :: done, some b)
  (bytes.foldl step ([], none)).1.reverse

/-- Whether the classes of letters of one case stand at the same places in both sets. -/
def misaligned (room : Nat) (source target : List SetPart) : Bool :=
  let isCase (p : SetPart) : Bool := p == .cls "upper" || p == .cls "lower"
  let starts (parts : List SetPart) (room : Nat) : List (Nat × SetPart) :=
    (parts.foldl (fun ((done, at_) : List (Nat × SetPart) × Nat) p =>
      ((if isCase p then (at_, p) :: done else done), at_ + (p.bytes room).length)) ([], 0)).1
  let fixed := ((target.filter fun p => !p.isOpen).map fun p => (p.bytes 0).length).foldl (· + ·) 0
  let mine := (starts source 0).map (·.1)
  (starts target (room - fixed)).any fun t => !mine.contains t.1

def trKnown : Known :=
  { tool := "tr", plain := "cCdst", mixed := false
    long := [("complement", 'c'), ("delete", 'd'), ("squeeze-repeats", 's'), ("truncate-set1", 't')] }

def tr (s : Scene) (args : List Raw) : Ran :=
  trKnown.run args fun o =>
    let complemented := o.has 'c' || o.has 'C'
    let refuse (e : Raw) : Ran := complain ("tr: " ++ e) 1
    let first (parts : List SetPart) : Except Ran (List UInt8) :=
      if parts.any SetPart.isOpen then
        .error (refuse "the [c*] repeat construct may not appear in string1")
      else
        let set := fullBytes 0 parts
        .ok (if complemented then othersOf set else set)
    let read (r : Raw) : Except Ran (List SetPart) := (setOf? r).mapError refuse
    let finish (t : Stream) : Ran :=
      { writes := [(false, t.bytes)], endless := t.cycle, rest := some .empty }
    let squeezing (set : List UInt8) (t : Stream) : Stream := ⟨squeeze set t.bytes, squeeze set t.cycle⟩
    let dropping (gone : List UInt8) (t : Stream) : Stream :=
      let member : Array Bool := gone.foldl (fun a b => a.setIfInBounds b.toNat true) (Array.replicate 256 false)
      t.flatMap fun b => if member.getD b.toNat false then [] else [b]
    let result : Except Ran Ran :=
      match o.operands with
      | [] => .error (trKnown.refuse "missing operand")
      | [a] =>
        if o.has 'd' && !o.has 's' then do return finish (dropping (← first (← read a)) s.input)
        else if o.has 's' && !o.has 'd' then do return finish (squeezing (← first (← read a)) s.input)
        else
          .error (trKnown.refuse ("missing operand after " ++ quoted a ++
            (if o.has 'd' then "\nTwo strings must be given when both deleting and squeezing repeats."
            else "\nTwo strings must be given when translating.")))
      | [a, b] =>
        if o.has 'd' && !o.has 's' then
          .error (trKnown.refuse ("extra operand " ++ quoted b ++
            "\nOnly one string may be given when deleting without squeezing repeats."))
        else if o.has 'd' then do
          let source ← first (← read a)
          let target ← read b
          if target.any SetPart.isOpen then
            throw (refuse "the [c*] construct may appear in string2 only when translating")
          return finish (squeezing (fullBytes 0 target) (dropping source s.input))
        else do
          let parts ← read a
          let source ← first parts
          let target ← read b
          if 1 < (target.filter SetPart.isOpen).length then
            throw (refuse "only one [c*] repeat construct may appear in string2")
          let isOther (p : SetPart) : Bool :=
            match p with
            | .cls name => name != "upper" && name != "lower"
            | _ => false
          let isAlike (p : SetPart) : Bool :=
            match p with
            | .alike _ => true
            | _ => false
          if target.any isAlike then
            throw (refuse "[=c=] expressions may not appear in string2 when translating")
          if target.any isOther then
            throw (refuse ("when translating, the only character classes that may appear in\n" ++
              "string2 are 'upper' and 'lower'"))
          if misaligned source.length parts target then
            throw (refuse "misaligned [:upper:] and/or [:lower:] construct")
          let bytes := fullBytes source.length target
          let isClass (p : SetPart) : Bool :=
            match p with
            | .cls _ => true
            | _ => false
          if !o.has 't' then
            if bytes.isEmpty && !source.isEmpty then
              throw (refuse "when not truncating set1, string2 must be non-empty")
            if bytes.length < source.length && target.getLast?.any isClass then
              throw (refuse ("when translating with string1 longer than string2,\n" ++
                "the latter string must not end with a character class"))
          if complemented && parts.any isClass && 1 < (bytes.take source.length).eraseDups.length then
            throw (refuse ("when translating with complemented character classes,\n" ++
              "string2 must map all characters in the domain to one"))
          let source := if o.has 't' then source.take bytes.length else source
          let table := exchangeTable source bytes
          let t := s.input.flatMap fun c => [table.getD c.toNat c]
          return finish (if o.has 's' then squeezing bytes t else t)
      | _ :: _ :: c :: _ => .error (trKnown.refuse ("extra operand " ++ quoted c))
    match result with
    | .ok r => r
    | .error r => r

end Host.Tool

end PolicyGate
