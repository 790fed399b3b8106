import PolicyGate.Decimal.Rounded
import PolicyGate.Host.Tool.Basic

/-!
# Bytes in writing

A dump writes bytes in rows. Each row is written in one or more styles, one under the other; a style
takes units of one or more bytes and gives each the same number of columns, so that units of
different styles that start at the same byte end in the same column.
-/

namespace PolicyGate

namespace Host.Tool

/-! ## Units -/

/-- How a unit of a dump is written. -/
inductive UnitKind where
  | hex
  | octal
  | signed
  | unsigned
  | floating
  /-- Characters and escapes. -/
  | characters
  /-- Characters and names for those that are not shown. -/
  | names
  deriving DecidableEq, Repr

structure DumpStyle where
  kind : UnitKind
  /-- The number of bytes of a unit. -/
  size : Nat
  /-- Whether the row is shown as a text too. -/
  shown : Bool := false
  deriving DecidableEq, Repr

def digitText (base width n : Nat) : Raw :=
  let ds := Nat.toDigits base n
  String.ofList (List.replicate (width - ds.length) '0' ++ ds)

def flushRight (width : Nat) (r : Raw) : Raw :=
  String.ofList (List.replicate (width - r.length) ' ') ++ r

/-- A byte as a dump of characters writes it. -/
def dumpedChar (b : UInt8) : Raw :=
  if b = 0 then "\\0"
  else if b = 7 then "\\a"
  else if b = 8 then "\\b"
  else if b = 9 then "\\t"
  else if b = 10 then "\\n"
  else if b = 11 then "\\v"
  else if b = 12 then "\\f"
  else if b = 13 then "\\r"
  else if 0x20 ≤ b && b < 0x7F then (Char.ofNat b.toNat).toString
  else digitText 8 3 b.toNat

def controlNames : List Raw :=
  ["nul", "soh", "stx", "etx", "eot", "enq", "ack", "bel", "bs", "ht", "nl", "vt", "ff", "cr", "so",
    "si", "dle", "dc1", "dc2", "dc3", "dc4", "nak", "syn", "etb", "can", "em", "sub", "esc", "fs",
    "gs", "rs", "us", "sp"]

/-- A byte as a dump of names writes it. Only seven bits count. -/
def namedChar (b : UInt8) : Raw :=
  let n := b.toNat % 128
  if n = 127 then "del" else (controlNames[n]?).getD (Char.ofNat n).toString

/-- The columns that a unit takes, without the blank in front. -/
def DumpStyle.width (st : DumpStyle) : Nat :=
  let of (widths : List Nat) : Nat := (widths[st.size]?).getD 0
  match st.kind with
  | .hex => 2 * st.size
  | .octal => of [0, 3, 6, 8, 11, 14, 16, 19, 22]
  | .signed => of [1, 4, 6, 8, 11, 13, 16, 18, 20]
  | .unsigned => of [0, 3, 5, 8, 10, 13, 15, 17, 20]
  | .floating => if st.size = 4 then 15 else 24
  | .characters | .names => 3

/-- A binary fraction of some bits with as few digits as read back. -/
def floatText (size bits : Nat) : Raw :=
  let (fractionBits, exponentBits, usual) := if size = 4 then (23, 8, 6) else (52, 11, 15)
  let unit := Nat.pow 2 fractionBits
  let top := Nat.pow 2 exponentBits
  let negative := bits / (unit * top) = 1
  let biased : Nat := bits / unit % top
  let fraction := bits % unit
  let least : Int := 2 - (top / 2 : Nat) - (fractionBits : Nat)
  let sign (r : Raw) : Raw := if negative then "-" ++ r else r
  let finite (usual : Nat) (b : Binary) : Raw :=
    let d := b.shortest .toEven
    sign (Double.generalText b (max usual (Nat.toDigits 10 d.digits).length) false)
  if biased = top - 1 then sign (if fraction = 0 then "inf" else "nan")
  else if biased = 0 then if fraction = 0 then sign "0" else finite 1 ⟨fraction, least, false⟩
  else finite usual ⟨unit + fraction, least + ((biased : Int) - 1), fraction = 0 && 1 < biased⟩

/-- A unit in writing, its bytes with the least weighty first. -/
def DumpStyle.unitText (st : DumpStyle) (bytes : List UInt8) : Raw :=
  let n := bytes.foldr (fun b n => n * 256 + b.toNat) 0
  match st.kind with
  | .hex => digitText 16 (2 * st.size) n
  | .octal => digitText 8 st.width n
  | .unsigned => toString n
  | .signed =>
    let top := Nat.pow 256 st.size
    if top ≤ 2 * n then "-" ++ toString (top - n) else toString n
  | .floating => floatText st.size n
  | .characters => dumpedChar (bytes.headD 0)
  | .names => namedChar (bytes.headD 0)

/-! ## Rows -/

/-- How all rows are written. -/
structure DumpLayout where
  styles : List DumpStyle
  /-- The base of addresses, if they are written. -/
  radix : Option Nat := some 8
  /-- The number of bytes of a row. -/
  width : Nat := 16
  /-- Whether rows like the one before are written. -/
  all : Bool := false
  /-- Whether the weightiest byte of a unit comes first. -/
  bigFirst : Bool := false

namespace DumpLayout

def address (v : DumpLayout) (place : Nat) : Raw :=
  match v.radix with
  | some base => digitText base (if base = 16 then 6 else 7) place
  | none => ""

/-- The columns of a full row in the widest style. -/
def columns (v : DumpLayout) : Nat :=
  (v.styles.map fun st => v.width / st.size * (st.width + 1)).foldl max 0

/-- The units of a row, given how many are to come in a full row and how many blanks are left to share
out among them. -/
def units (v : DumpLayout) (st : DumpStyle) (spare : Nat) : Nat → Nat → List UInt8 → Raw
  | 0, _, _ => ""
  | left + 1, blanks, bytes =>
    if bytes.isEmpty then ""
    else
      let taken := bytes.take st.size
      let full := taken ++ List.replicate (st.size - taken.length) 0
      let kept := spare * left / (v.width / st.size)
      " " ++ flushRight (blanks - kept + st.width)
        (st.unitText (if v.bigFirst then full.reverse else full)) ++
        units v st spare left kept (bytes.drop st.size)

/-- A row in one style. -/
def rowText (v : DumpLayout) (row : List UInt8) (st : DumpStyle) : Raw :=
  let count := v.width / st.size
  let spare := v.columns - count * (st.width + 1)
  let text := v.units st spare count spare row
  if st.shown then
    text ++ String.ofList (List.replicate (v.columns - text.length) ' ') ++ "  >" ++
      String.ofList (row.map fun b => if 0x20 ≤ b && b < 0x7F then Char.ofNat b.toNat else '.') ++ "<"
  else text

/-- The rows of a dump, given where the first starts. Rows like the one before are written as a
star. -/
def rows (v : DumpLayout) : Nat → Nat → Option (List UInt8) → Bool → List UInt8 → List Raw
  | 0, _, _, _, _ => []
  | fuel + 1, place, last, starred, bytes =>
    match bytes with
    | [] => if v.radix.isSome then [v.address place] else []
    | _ =>
      let row := bytes.take v.width
      let rest := bytes.drop v.width
      if !v.all && last == some row && row.length = v.width then
        (if starred then [] else ["*"]) ++ rows v fuel (place + v.width) last true rest
      else
        let texts := v.styles.map (v.rowText row)
        let front := v.address place
        let gap := String.ofList (List.replicate front.length ' ')
        let lines := (texts.take 1).map (front ++ ·) ++ (texts.drop 1).map (gap ++ ·)
        lines ++ rows v fuel (place + row.length) (some row) false rest

end DumpLayout

/-! ## Styles in writing -/

/-- The size that a letter or a number behind a kind stands for, with what is left. -/
def unitSize (floating : Bool) (usual : Nat) (cs : List Char) : Nat × List Char :=
  match cs with
  | c :: rest =>
    if floating && c == 'F' then (4, rest)
    else if floating && c == 'D' then (8, rest)
    else if floating && c == 'L' then (16, rest)
    else if !floating && c == 'C' then (1, rest)
    else if !floating && c == 'S' then (2, rest)
    else if !floating && c == 'I' then (4, rest)
    else if !floating && c == 'L' then (8, rest)
    else if c.isDigit then (numeral cs, cs.dropWhile Char.isDigit)
    else (usual, cs)
  | [] => (usual, [])

/-- Reads the styles in a word. -/
def dumpStyles (word : Raw) : Nat → List Char → Except Raw (List DumpStyle)
  | 0, _ => .ok []
  | _ + 1, [] => .ok []
  | fuel + 1, c :: cs =>
    let letters : List (Char × UnitKind) :=
      [('x', .hex), ('o', .octal), ('d', .signed), ('u', .unsigned), ('f', .floating),
        ('c', .characters), ('a', .names)]
    match letters.lookup c with
    | none => .error ("invalid character '" ++ c.toString ++ "' in type string " ++ quoted word)
    | some kind =>
      let plain := kind == .characters || kind == .names
      let floating := kind == .floating
      let (size, rest) := if plain then (1, cs) else unitSize floating (if floating then 8 else 4) cs
      let known := if floating then [4, 8] else [1, 2, 4, 8]
      if !known.contains size then
        .error ("invalid type string " ++ quoted word ++ ";\nthis system doesn't provide a " ++
          toString size ++ "-byte " ++ (if floating then "floating point" else "integral") ++ " type")
      else
        let shown := rest.head? == some 'z'
        (dumpStyles word fuel (if shown then rest.tail else rest)).map (⟨kind, size, shown⟩ :: ·)

/-- The styles that short options stand for. -/
def shortStyles : List (Char × DumpStyle) :=
  [('a', ⟨.names, 1, false⟩), ('b', ⟨.octal, 1, false⟩), ('c', ⟨.characters, 1, false⟩),
    ('d', ⟨.unsigned, 2, false⟩), ('f', ⟨.floating, 4, false⟩), ('e', ⟨.floating, 8, false⟩),
    ('F', ⟨.floating, 8, false⟩), ('i', ⟨.signed, 4, false⟩), ('l', ⟨.signed, 8, false⟩),
    ('I', ⟨.signed, 8, false⟩), ('L', ⟨.signed, 8, false⟩), ('o', ⟨.octal, 2, false⟩),
    ('B', ⟨.octal, 2, false⟩), ('s', ⟨.signed, 2, false⟩), ('x', ⟨.hex, 2, false⟩),
    ('X', ⟨.hex, 4, false⟩), ('H', ⟨.hex, 4, false⟩), ('D', ⟨.unsigned, 4, false⟩),
    ('O', ⟨.octal, 4, false⟩), ('h', ⟨.hex, 2, false⟩)]

/-- A count that may be in octal or hexadecimal digits. -/
def dumpCount? (r : Raw) : Option Nat :=
  match r.toList with
  | '0' :: 'x' :: ds =>
    if !ds.isEmpty && ds.all fun c => (Double.hexDigit? c).isSome then
      some (ds.foldl (fun n c => n * 16 + (Double.hexDigit? c).getD 0) 0)
    else none
  | '0' :: ds =>
    if ds.all fun c => '0' ≤ c && c ≤ '7' then
      some (ds.foldl (fun n c => n * 8 + (c.toNat - 48)) 0)
    else count? r
  | _ => count? r

/-! ## The tool -/

def odKnown : Known :=
  { tool := "od", plain := "vabcdefFiIlLoBsxXHDOh", withArgument := "AtNjSE", optional := "w"
    long := [("address-radix", 'A'), ("format", 't'), ("read-bytes", 'N'), ("skip-bytes", 'j'),
      ("output-duplicates", 'v'), ("width", 'w'), ("strings", 'S'), ("endian", 'E')] }

/-- The base that a letter stands for. -/
def radix? (r : Raw) : Option (Option Nat) :=
  [("d", some 10), ("o", some 8), ("x", some 16), ("n", none)].lookup r

/-- The texts of a least length that a zero ends, each with its place. -/
def textsIn (least : Nat) (bytes : List UInt8) : List (Nat × Raw) :=
  let step : List (Nat × Raw) × List UInt8 × Nat → UInt8 → List (Nat × Raw) × List UInt8 × Nat :=
    fun (done, open_, i) b =>
      if b = 0 then
        ((if least ≤ open_.length && !open_.isEmpty then
            (i - open_.length, Raw.ofBytes open_.reverse) :: done else done), [], i + 1)
      else if 0x20 ≤ b && b < 0x7F then (done, b :: open_, i + 1)
      else (done, [], i + 1)
  (bytes.foldl step ([], [], 0)).1.reverse

def dumpedWith (s : Scene) (o : Options) (styles : List DumpStyle) (radix : Option Nat) : Ran :=
  let number (c : Char) : Option Nat := (o.value? c).bind dumpCount?
  let (found, bad) := sources "od" s o.operands
  let whole := joined found
  let skipped := (number 'j').getD 0
  let room := if whole.isEndless then skipped + (number 'N').getD 65536 else 0
  let all := whole.unroll room
  if found.isEmpty && !bad.isEmpty && !bad.all fun e => e.endsWith (reason .isADirectory) then
    ({ status := 1 } : Ran).after bad 1
  else if all.length < skipped then
    reading o.operands
      (({ writes := [complaint "od: cannot skip past end of combined input"], status := 1 } : Ran).after
        bad 1)
  else
    let bytes := all.drop skipped
    let bytes := match number 'N' with
      | some n => bytes.take n
      | none => bytes
    let styles := if styles.isEmpty then [⟨.octal, 2, false⟩] else styles
    let unit := (styles.map (·.size)).foldl max 1
    let asked := (o.value? 'w').map fun v => if v.isEmpty then 32 else (dumpCount? v).getD 0
    let fine := asked.all fun w => 0 < w && w % unit = 0
    let width := if fine then asked.getD (16 / unit * unit) else unit
    let note := if fine then []
      else [complaint ("od: warning: invalid width " ++ toString (asked.getD 0) ++ "; using " ++
        toString unit ++ " instead")]
    let layout : DumpLayout :=
      { styles, radix, width, all := o.has 'v', bigFirst := o.value? 'E' == some "big" }
    let lines := match (o.value? 'S').map fun v => (dumpCount? v).getD 3 with
      | some least => (textsIn least bytes).map fun (i, t) =>
          (if radix.isSome then layout.address (skipped + i) ++ " " else "") ++ t
      | none => layout.rows (bytes.length / width + 2) skipped none false bytes
    let out : List (Bool × List UInt8) := [(false, lines.flatMap ended)]
    reading o.operands (({ writes := note ++ out } : Ran).after bad 1)

def od (s : Scene) (args : List Raw) : Ran :=
  odKnown.run args fun o =>
    let bad (c : Char) : Option Raw :=
      match o.value? c with
      | some v =>
        if (dumpCount? v).isSome || (c == 'w' && v.isEmpty) then none
        else some ("od: invalid -" ++ c.toString ++ " argument " ++ quoted v)
      | none => none
    match (['j', 'N', 'S', 'w'].filterMap bad).head?, radix? ((o.value? 'A').getD "o") with
    | some e, _ => complain e 1
    | none, none =>
      complain ("od: invalid output address radix " ++ quoted ((o.value? 'A').getD "") ++
        "; it must be one character from [doxn]") 1
    | none, some radix =>
      let styles : Except Raw (List (List DumpStyle)) := o.given.mapM fun g =>
        if g.1 == 't' then dumpStyles g.2 (g.2.length + 1) g.2.toList
        else .ok (shortStyles.lookup g.1).toList
      match styles with
      | .error e => complain ("od: " ++ e) 1
      | .ok styles => dumpedWith s o styles.flatten radix

end Host.Tool

end PolicyGate
