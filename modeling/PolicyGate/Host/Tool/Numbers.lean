import PolicyGate.Host.Tool.Columns
import PolicyGate.Host.Format
import PolicyGate.Host.Tool.Lines

/-!
# Numbers

Rows of numbers, the factors of numbers, and numbers with the letters of their units.
-/

namespace PolicyGate

namespace Host.Tool

/-! ## Rows of numbers -/

/-- A number with so many places behind its point, and how it was written. -/
structure Numeral where
  /-- In units of the last place. -/
  value : Int
  places : Nat
  /-- The number of places that is shown, if the way it was written tells. -/
  shown : Option Nat
  /-- The number of characters that it takes. -/
  width : Nat := 0

/-- Whether a word asks for numbers without end. -/
def isEndless (r : Raw) : Bool :=
  let cs := r.toList.map Char.toLower
  let cs := if cs.head? == some '+' then cs.tail else cs
  cs == ['i', 'n', 'f'] || cs == "infinity".toList

def numeral? (r : Raw) : Option Numeral :=
  let cs := r.toList.dropWhile fun c => c == ' ' || c == '\t'
  let (negative, body) := match cs with
    | '-' :: cs => (true, cs)
    | '+' :: cs => (false, cs)
    | cs => (false, cs)
  let sign (n : Nat) : Int := if negative then -(n : Int) else n
  let written := if cs.head? == some '+' then body else cs
  match body with
  | '0' :: x :: hex =>
    if (x == 'x' || x == 'X') && !hex.isEmpty && hex.all fun c => (hexValue? c).isSome then
      some { value := sign (digitsIn 16 hex).1, places := 0, shown := some 0, width := 0 }
    else decimalNumeral sign written body
  | _ => decimalNumeral sign written body
where
  decimalNumeral (sign : Nat → Int) (written body : List Char) : Option Numeral :=
    let whole := body.takeWhile Char.isDigit
    let rest := body.drop whole.length
    let hasPoint := rest.head? == some '.'
    let fraction := if hasPoint then rest.tail.takeWhile Char.isDigit else []
    let rest := if hasPoint then rest.tail.drop fraction.length else rest
    let exponent? : Option (Option Int) := match rest with
      | [] => some none
      | e :: ds =>
        let (minus, ds) := match ds with
          | '-' :: ds => (true, ds)
          | '+' :: ds => (false, ds)
          | ds => (false, ds)
        if (e == 'e' || e == 'E') && !ds.isEmpty && ds.all Char.isDigit && numeral ds < 400 then
          some (some (if minus then -(numeral ds : Int) else numeral ds))
        else none
    match exponent? with
    | none => none
    | some exponent =>
      if whole.isEmpty && fraction.isEmpty then none
      else
        let n := numeral (whole ++ fraction)
        let e := exponent.getD 0
        let places : Int := (fraction.length : Int) - e
        let (value, places) := if places < 0 then (n * Nat.pow 10 places.natAbs, 0) else (n, places.toNat)
        let pointWidth : Int := if hasPoint then
            (if fraction.isEmpty then -1 else if whole.isEmpty then 1 else 0) else 0
        let shown : Int := if e < 0 then (fraction.length : Int) - e
          else (fraction.length : Int) - min (fraction.length : Int) e
        let width : Int := (written.length : Int) + pointWidth
        let width := match exponent with
          | none => width
          | some _ =>
            let width := width - (rest.length : Int)
            if e < 0 then
              (if hasPoint then (if fraction.isEmpty then width + 1 else width) else width + 1) - e
            else
              let width := if hasPoint && shown = 0 && !fraction.isEmpty then width - 1 else width
              width + (e - min (fraction.length : Int) e)
        some { value := sign value, places, shown := some shown.toNat, width := width.toNat }

/-- The value in units of the last of more places. -/
def Numeral.scaled (n : Numeral) (places : Nat) : Int := n.value * Nat.pow 10 (places - n.places)

/-- A value in units of the last of some places, as it is written. -/
def decimal (places : Nat) (value : Int) : Raw :=
  let digits := (toString value.natAbs).toList
  let digits := List.replicate (places + 1 - digits.length) '0' ++ digits
  let whole := digits.take (digits.length - places)
  let sign := if value < 0 then "-" else ""
  sign ++ String.ofList whole ++
    (if places = 0 then "" else "." ++ String.ofList (digits.drop whole.length))

/-- The most numbers that are written out, and how many stand for more than that. -/
def countLimit : Nat := 1000000
def countShown : Nat := 20000

def seqKnown : Known := { tool := "seq" }

/-- What a row of numbers looks like. -/
structure RowStyle where
  separator : Raw := "\n"
  wide : Bool := false
  form : Option Raw := none

/-- The options and operands of `seq`, among which negative numbers are no options. -/
def seqOptions (st : RowStyle) : List Raw → Except Ran (RowStyle × List Raw)
  | [] => .ok (st, [])
  | a :: rest =>
    let isNumber := match a.toList with
      | '-' :: c :: _ => c.isDigit || c == '.'
      | _ => false
    if a == "-w" || a == "--equal-width" then seqOptions { st with wide := true } rest
    else if a == "--" then .ok (st, rest)
    else if isNumber then .ok (st, a :: rest)
    else
      let (option, value) : Raw × Option Raw :=
        if a.startsWith "--separator=" then ("-s", some (a.drop 12).toString)
        else if a.startsWith "--format=" then ("-f", some (a.drop 9).toString)
        else if a == "--separator" then ("-s", none)
        else if a == "--format" then ("-f", none)
        else if (a.startsWith "-s" || a.startsWith "-f") && 2 < a.length then
          ((a.take 2).toString, some (a.drop 2).toString)
        else (a, none)
      if option == "-s" || option == "-f" then
        let set (v : Raw) : RowStyle :=
          if option == "-s" then { st with separator := v } else { st with form := some v }
        match value, rest with
        | some v, rest => seqOptions (set v) rest
        | none, v :: rest => seqOptions (set v) rest
        | none, [] => .error (seqKnown.refuse ("option requires an argument -- '" ++ (option.drop 1).toString ++ "'"))
      else if a.startsWith "--" then .error (seqKnown.refuse ("unrecognized option '" ++ a ++ "'"))
      else if a.startsWith "-" && 1 < a.length then
        .error (seqKnown.refuse ("invalid option -- '" ++ ((a.drop 1).take 1).toString ++ "'"))
      else .ok (st, a :: rest)

/-- A format for one number: what stands before it, its directive and letter, and what stands behind. -/
structure NumberForm where
  before : Raw
  directive : Directive
  letter : Char
  behind : Raw

/-- Why a form of a number cannot be used. -/
inductive FormFault where
  | noDirective
  | unfinished
  | unknown (letter : Char)
  | tooMany

def FormFault.message (form : Raw) : FormFault → Raw
  | .noDirective => "format " ++ quoted form ++ " has no % directive"
  | .unfinished => "format " ++ quoted form ++ " ends in %"
  | .unknown letter => "format " ++ quoted form ++ " has unknown %" ++ letter.toString ++ " directive"
  | .tooMany => "format " ++ quoted form ++ " has too many % directives"

/-- Reads a format with one directive for a number. -/
def numberForm? (form : Raw) : Except FormFault NumberForm :=
  let rec plain : Nat → List Char → List Char → List Char × List Char
    | 0, done, cs => (done.reverse, cs)
    | _ + 1, done, [] => (done.reverse, [])
    | fuel + 1, done, '%' :: '%' :: cs => plain fuel ('%' :: done) cs
    | fuel + 1, done, c :: cs => if c == '%' then (done.reverse, c :: cs) else plain fuel (c :: done) cs
  let (before, rest) := plain (form.length + 1) [] form.toList
  match rest with
  | [] => .error .noDirective
  | _ :: cs =>
    let flags := cs.takeWhile fun c => "-+#0 '".toList.contains c
    let cs := cs.drop flags.length
    let width := cs.takeWhile Char.isDigit
    let cs := cs.drop width.length
    let (precision, cs) := match cs with
      | '.' :: more =>
        let ds := more.takeWhile Char.isDigit
        (some (numeral ds), more.drop ds.length)
      | cs => (none, cs)
    let cs := match cs with
      | 'L' :: more => more
      | cs => cs
    match cs with
    | [] => .error .unfinished
    | letter :: more =>
      if !("efgaEFGA".toList.contains letter) then
        .error (.unknown letter)
      else
        let (behind, rest) := plain (form.length + 1) [] more
        if rest.isEmpty then
          .ok {
            before := String.ofList before, letter, behind := String.ofList behind
            directive :=
              { left := flags.contains '-', zeros := flags.contains '0', plus := flags.contains '+'
                blank := flags.contains ' ', alternative := flags.contains '#', width := numeral width
                precision } }
        else .error .tooMany

/-- A number with places as a float. -/
def floatOf (value : Int) (places : Nat) : Float :=
  let x := Float.ofScientific value.natAbs true places
  if value < 0 then -x else x

def seq (args : List Raw) : Ran :=
  match seqOptions {} args with
  | .error r => r
  | .ok (style, operands) =>
    let form : Except Raw (Option NumberForm) := match style.form with
      | none => .ok none
      | some f => ((numberForm? f).mapError (FormFault.message f)).map some
    match form with
    | .error e => complain ("seq: " ++ e) 1
    | .ok form =>
      if 3 < operands.length then seqKnown.refuse ("extra operand " ++ quoted ((operands[3]?).getD ""))
      else if operands.isEmpty then seqKnown.refuse "missing operand"
      else if style.form.isSome && style.wide then
        seqKnown.refuse "format string may not be specified when printing equal width strings"
      else
        let endless := (operands.getLast?).any isEndless
        let given := if endless then operands.dropLast ++ ["999999999"] else operands
        let isNan (a : Raw) : Bool := a.toLower == "nan" || a.toLower == "+nan" || a.toLower == "-nan"
        match given.find? fun a => (numeral? a).isNone with
        | some a =>
          if isNan a then seqKnown.refuse ("invalid 'not-a-number' argument: " ++ quoted a)
          else seqKnown.refuse ("invalid floating point argument: " ++ quoted a)
        | none =>
          let one : Numeral := { value := 1, places := 0, shown := some 0, width := 1 }
          let (first, step, last) := match given.filterMap numeral? with
            | [last] => (one, one, last)
            | [first, last] => (first, one, last)
            | [first, step, last] => (first, step, last)
            | _ => (one, one, one)
          let most := max first.places (max step.places last.places)
          let f := first.scaled most
          let d := step.scaled most
          let l := last.scaled most
          let places := max (first.shown.getD 0) (step.shown.getD 0)
          if d = 0 then seqKnown.refuse ("invalid Zero increment value: " ++ quoted ((operands[1]?).getD ""))
          else
            let n := if 0 < d then (if l < f then 0 else ((l - f) / d + 1).toNat)
              else if f < l then 0 else ((f - l) / -d + 1).toNat
            let cut := countLimit < n
            let n := if cut then countShown else n
            let widthOf (m : Numeral) (own : Nat) : Nat :=
              let w : Int := (m.width : Int) + ((places : Int) - own)
              let w := if own = 0 && places != 0 then w + 1 else w
              w.toNat
            let lastWidth := let w := widthOf last (last.shown.getD 0)
              if last.shown.getD 0 != 0 && places = 0 then w - 1 else w
            let width := if style.wide && !endless then max (widthOf first (first.shown.getD 0)) lastWidth else 0
            let rounded (v : Int) : Int :=
              if places ≤ most then
                let unit : Int := Nat.pow 10 (most - places)
                (2 * v + unit) / (2 * unit)
              else v * Nat.pow 10 (places - most)
            let padded (r : Raw) : Raw :=
              let zeros := String.ofList (List.replicate (width - r.length) '0')
              if r.startsWith "-" then "-" ++ zeros ++ (r.drop 1).toString else zeros ++ r
            let shown := (List.range n).map fun (i : Nat) =>
              let v := f + d * (i : Int)
              match form with
              | none => padded (decimal places (rounded v))
              | some g => g.before ++ showFloat g.directive g.letter (floatOf v most) ++ g.behind
            if shown.isEmpty then silent 0
            else if endless || cut then
              { writes := [(false, Raw.toBytes (style.separator.intercalate shown ++ style.separator))]
                endless := Raw.toBytes ((shown.getLast?).getD "" ++ style.separator) }
            else said (style.separator.intercalate shown ++ "\n") 0

/-! ## Factors -/

/-- The prime factors of a number, from a candidate on. -/
def primeFactors : Nat → Nat → Nat → List Nat → List Nat
  | 0, _, n, done => (if 1 < n then n :: done else done).reverse
  | fuel + 1, p, n, done =>
    if n < p * p then (if 1 < n then n :: done else done).reverse
    else if n % p = 0 then primeFactors fuel p (n / p) (p :: done)
    else primeFactors fuel (if p = 2 then 3 else p + 2) n done

def factor (s : Scene) (args : List Raw) : Ran :=
  let k : Known := { tool := "factor", plain := "h", long := [("exponents", 'h')] }
  k.run args fun o =>
    let isGap (c : Char) : Bool := c == ' ' || c == '\t' || c == '\n'
    let words := if o.operands.isEmpty then
        ((Raw.ofBytes s.input.bytes).toList.splitOnP isGap).filter (!·.isEmpty) |>.map String.ofList
      else o.operands
    let powers (fs : List Nat) : List Raw :=
      (fs.eraseDups).map fun p =>
        let n := fs.count p
        if o.has 'h' && 1 < n then toString p ++ "^" ++ toString n else toString p
    let one (a : Raw) : Bool × List UInt8 :=
      let cs := a.toList.dropWhile fun c => c == ' ' || c == '+'
      if !cs.isEmpty && cs.all Char.isDigit then
        let n := numeral cs
        let fs := if n = 0 then [] else primeFactors 3000000 2 n []
        let shown := if o.has 'h' then powers fs else fs.map toString
        (false, Raw.toBytes (toString n ++ ":" ++ String.join (shown.map (" " ++ ·)) ++ "\n"))
      else complaint ("factor: " ++ quoted a ++ " is not a valid positive integer")
    let writes := words.map one
    let r : Ran := { writes, status := if writes.any (·.1) then 1 else 0 }
    if o.operands.isEmpty then { r with rest := some .empty } else r

/-! ## Units -/

/-- A number as a fraction. -/
structure Fraction where
  num : Int
  den : Nat

/-- A rounding to whole numbers. -/
inductive RoundTo where
  | up
  | down
  | fromZero
  | towardsZero
  | nearest
  deriving DecidableEq

def Fraction.round (f : Fraction) (r : RoundTo) : Int :=
  let den : Int := max f.den 1
  let floor := f.num / den
  let ceil := -((-f.num) / den)
  match r with
  | .up => ceil
  | .down => floor
  | .fromZero => if f.num < 0 then floor else ceil
  | .towardsZero => if f.num < 0 then ceil else floor
  | .nearest => if f.num < 0 then -((2 * -f.num + den) / (2 * den)) else (2 * f.num + den) / (2 * den)

/-- The scales that numbers with units are in. -/
inductive UnitScale where
  | none
  | auto
  | si
  | iec
  | iecI
  deriving DecidableEq

def unitScale? (r : Raw) : Option UnitScale :=
  ([("none", .none), ("auto", .auto), ("si", .si), ("iec", .iec), ("iec-i", .iecI)] :
    List (Raw × UnitScale)).lookup r

def numfmtKnown : Known :=
  { tool := "numfmt", plain := "zgD", withArgument := "dfmtpusUIR", optional := "H", refusal := 1
    long := [("delimiter", 'd'), ("field", 'f'), ("format", 'm'), ("from", 's'), ("to", 't'),
      ("padding", 'p'), ("suffix", 'u'), ("from-unit", 'I'), ("to-unit", 'U'), ("header", 'H'),
      ("round", 'R'), ("grouping", 'g'), ("zero-terminated", 'z'), ("debug", 'D'), ("invalid", 'v')] }

/-- How `numfmt` reads and writes. -/
structure UnitStyle where
  source : UnitScale := .none
  target : UnitScale := .none
  sourceUnit : Nat := 1
  targetUnit : Nat := 1
  rounding : RoundTo := .fromZero
  suffix : Raw := ""
  padding : Int := 0
  precision : Option Nat := none
  zeros : Bool := false
  lead : Raw := ""
  tail : Raw := ""

/-- The most digits that a number may have in front of its point. -/
def greatestDigits : Nat := 33

/-- Reads the unit behind a number, given the number for a factor and a count of places. With a unit the
number has no places of its own. -/
def unitValue (st : UnitStyle) (r : Raw) (value : Nat → Option Nat → Fraction × Nat) (rest : List Char) :
    Except Raw (Fraction × Nat) :=
  match rest with
  | [] => .ok (value 1 none)
  | c :: more =>
    match "KMGTPEZYRQ".toList.idxOf? c with
    | none => .error ("invalid suffix in input: " ++ quoted r)
    | some i =>
      let scaled (base : Nat) (behind : List Char) : Except Raw (Fraction × Nat) :=
        if behind.isEmpty then .ok (value (Nat.pow base (i + 1)) (some 0))
        else .error ("invalid suffix in input " ++ quoted r ++ ": " ++ quoted (String.ofList behind))
      match st.source, more with
      | .none, _ => .error ("rejecting suffix in input: " ++ quoted r ++ " (consider using --from)")
      | .si, _ => scaled 1000 more
      | .iec, _ => scaled 1024 more
      | .iecI, 'i' :: behind => scaled 1024 behind
      | .iecI, _ => .error ("missing 'i' suffix in input: " ++ quoted r ++ " (e.g Ki/Mi/Gi)")
      | .auto, 'i' :: behind => scaled 1024 behind
      | .auto, _ => scaled 1000 more

/-- Reads a number with a unit: its value, and how many places it was written with. -/
def unitNumber? (st : UnitStyle) (r : Raw) : Except Raw (Fraction × Nat) :=
  let text := if !st.suffix.isEmpty && r.endsWith st.suffix then
      String.ofList (r.toList.take (r.length - st.suffix.length)) else r
  let cs := text.toList.dropWhile (· == ' ')
  let (negative, cs) := match cs with
    | '-' :: cs => (true, cs)
    | cs => (false, cs)
  let whole := cs.takeWhile Char.isDigit
  let (fraction, rest) := match cs.drop whole.length with
    | '.' :: ds => (ds.takeWhile Char.isDigit, ds.dropWhile Char.isDigit)
    | rest => ([], rest)
  if whole.isEmpty && fraction.isEmpty then .error ("invalid number: " ++ quoted r)
  else
    let n : Int := numeral (whole ++ fraction)
    let den := Nat.pow 10 fraction.length
    let value (factor : Nat) (places : Option Nat) : Fraction × Nat :=
      (⟨(if negative then -n else n) * factor * st.sourceUnit, den⟩, places.getD fraction.length)
    let dot := cs[whole.length]? == some '.'
    let digits := (whole.dropWhile (· == '0')).length
    if dot && fraction.isEmpty then .error ("invalid number: " ++ quoted r)
    else if greatestDigits < digits then .error ("value too large to be converted: " ++ quoted r)
    else unitValue st r value (rest.dropWhile (· == ' '))

/-- A large number in a few digits with the power of ten. -/
def shortLarge (n : Nat) : Raw :=
  let ds := Nat.toDigits 10 n
  let drop := ds.length - 6
  let front := Nat.toDigits 10 (Fraction.round ⟨n, Nat.pow 10 drop⟩ .nearest).natAbs
  let places := ((front.drop 1).reverse.dropWhile (· == '0')).reverse
  if ds.length < 7 then String.ofList ds
  else
    String.ofList (front.take 1 ++ (if places.isEmpty then [] else '.' :: places)) ++ "e+" ++
      toString (drop + front.length - 1)

/-- The power of ten of a number of which only nineteen digits count. -/
def tensOf (n : Nat) : Nat :=
  let drop := (Nat.toDigits 10 n).length - 19
  drop + (Nat.toDigits 10 (Fraction.round ⟨n, Nat.pow 10 drop⟩ .nearest).natAbs).length - 1

/-- What is wrong with a number that is too large to be written. -/
def largeFault? (st : UnitStyle) (f : Fraction) (places : Nat) : Option Raw :=
  let whole := f.num.natAbs / (f.den * st.targetUnit)
  let power := tensOf whole
  let places := st.precision.getD places
  let sign := if f.num < 0 then "-" else ""
  if st.target = .none && 18 < power + places then
    some (if places = 0 then
        "value too large to be printed: '" ++ sign ++ shortLarge whole ++ "' (consider using --to)"
      else
        "value/precision too large to be printed: '" ++ sign ++ shortLarge whole ++ "/" ++
          toString places ++ "' (consider using --to)")
  else if greatestDigits - 1 < power then
    some ("value too large to be printed: '" ++ sign ++ shortLarge whole ++
      "' (cannot handle values > 999Q)")
  else none

/-- A factor of a unit: a number, a letter or both. -/
def unitFactor? (r : Raw) : Option Nat :=
  let ds := r.toList.takeWhile Char.isDigit
  let n := if ds.isEmpty then 1 else numeral ds
  match r.toList.drop ds.length with
  | [] => if ds.isEmpty || n = 0 then none else some n
  | c :: more =>
    ("KMGTPEZYRQ".toList.idxOf? c).bind fun i =>
      match more with
      | [] => some (n * Nat.pow 1000 (i + 1))
      | ['i'] => some (n * Nat.pow 1024 (i + 1))
      | _ => none

/-- Writes a number with a unit. -/
def unitText (st : UnitStyle) (f : Fraction) (places : Nat) : Raw :=
  let f : Fraction := ⟨f.num, f.den * st.targetUnit⟩
  match st.target with
  | .none =>
    let places := st.precision.getD places
    decimal places (Fraction.round ⟨f.num * Nat.pow 10 places, f.den⟩ st.rounding)
  | scale =>
    let base := if scale == .si then 1000 else 1024
    let rec reduce : Nat → Nat → Nat → Nat × Nat
      | 0, den, power => (den, power)
      | fuel + 1, den, power =>
        if f.num.natAbs < den * base then (den, power) else reduce fuel (den * base) (power + 1)
    let (den, power) := reduce 10 f.den 0
    let adjust := match st.precision with
      | some p => min (power * 3) p
      | none => if f.num.natAbs < 10 * den then 1 else 0
    let v := Fraction.round ⟨f.num * Nat.pow 10 adjust, den⟩ st.rounding
    let (num, den, power) : Int × Nat × Nat :=
      if base * Nat.pow 10 adjust ≤ v.natAbs then (v, Nat.pow 10 adjust * base, power + 1)
      else (v, Nat.pow 10 adjust, power)
    let places := match st.precision with
      | some p => p
      | none => if num != 0 && num.natAbs < 10 * den && 0 < power then 1 else 0
    let letter := if power = 0 then "" else (("KMGTPEZYRQ".toList[power - 1]?).map Char.toString).getD ""
    decimal places (Fraction.round ⟨num * Nat.pow 10 places, den⟩ .nearest) ++ letter ++
      (if scale == .iecI && 0 < power then "i" else "")

def numfmt (s : Scene) (args : List Raw) : Ran :=
  let k := { numfmtKnown with withArgument := numfmtKnown.withArgument ++ "v" }
  k.run args fun o =>
    let scale (c : Char) (name : Raw) : Except Ran UnitScale :=
      match o.value? c with
      | none => .ok .none
      | some v =>
        match unitScale? v with
        | some u => .ok u
        | none => .error (k.refuse ("invalid argument " ++ quoted v ++ " for '--" ++ name ++
            "'\nValid arguments are:\n  - 'none'" ++ (if c == 's' then "\n  - 'auto'" else "") ++
            "\n  - 'si'\n  - 'iec'\n  - 'iec-i'"))
    let among (c : Char) (option : Raw) (names : List Raw) : Except Ran Unit :=
      match (o.value? c).filter fun v => !names.contains v with
      | some v => .error (k.refuse ("invalid argument " ++ quoted v ++ " for '--" ++ option ++
          "'\nValid arguments are:" ++ String.join (names.map fun n => "\n  - " ++ quoted n)))
      | none => .ok ()
    let refusedIf (wrong : Bool) (what : Raw) : Except Ran Unit :=
      if wrong then .error (complain ("numfmt: " ++ what) 1) else .ok ()
    let checks : Except Ran Unit := do
      among 'R' "round" ["up", "down", "from-zero", "towards-zero", "nearest"]
      among 'v' "invalid" ["abort", "fail", "warn", "ignore"]
      let isPositive (r : Raw) : Bool := isNumeral r && 0 < numeral r.toList
      let padding := (o.value? 'p').getD "1"
      refusedIf (!isPositive (if padding.startsWith "-" then String.ofList (padding.toList.drop 1) else padding))
        ("invalid padding value " ++ quoted padding)
      let header := (o.value? 'H').getD "1"
      refusedIf (!header.isEmpty && !isPositive header) ("invalid header value " ++ quoted header)
      refusedIf (1 < ((o.value? 'd').getD "").length) "the delimiter must be a single character"
      match (o.value? 'f').map fun f => if f == "-" then .ok [] else spans true f with
      | some (.error e) => throw (k.refuse e)
      | _ => pure ()
      refusedIf (o.has 'g' && (o.value? 'm').isSome) "--grouping cannot be combined with --format"
      refusedIf (o.has 'g' && (o.value? 't').isSome) "grouping cannot be combined with --to"
    let run : Except Ran Ran := do
      checks
      let source ← scale 's' "from"
      let target ← scale 't' "to"
      let rounding := match o.value? 'R' with
        | some "up" => RoundTo.up
        | some "down" => .down
        | some "towards-zero" => .towardsZero
        | some "nearest" => .nearest
        | _ => .fromZero
      for c in ['I', 'U'] do
        match (o.value? c).filter fun r => (unitFactor? r).isNone with
        | some r => throw (complain ("numfmt: invalid unit size: " ++ quoted r) 1)
        | none => pure ()
      let st : UnitStyle :=
        { source, target, rounding, suffix := (o.value? 'u').getD ""
          sourceUnit := ((o.value? 'I').bind unitFactor?).getD 1
          targetUnit := ((o.value? 'U').bind unitFactor?).getD 1
          padding := ((o.value? 'p').map fun p => if p.startsWith "-" then -(numeral (p.toList.drop 1) : Int)
            else (numeral p.toList : Int)).getD 0 }
      let st ← match o.value? 'm' with
        | none => .ok st
        | some f =>
          match numberForm? (f.replace "'" "") with
          | .error (.unknown _) =>
            .error (complain ("numfmt: invalid format " ++ quoted f ++
              ", directive must be %[0]['][-][N][.][N]f") 1)
          | .error e => .error (complain ("numfmt: " ++ e.message f) 1)
          | .ok g =>
            .ok { st with
              lead := g.before, tail := g.behind, precision := g.directive.precision, zeros := g.directive.zeros
              padding := if g.directive.width = 0 then st.padding
                else if g.directive.left then -(g.directive.width : Int) else g.directive.width }
      let isGap (c : Char) : Bool := c == ' ' || c == '\t'
      let padded (r : Raw) : Raw :=
        let room := st.padding.natAbs - r.length
        let fill (c : Char) : Raw := String.ofList (List.replicate room c)
        if st.padding < 0 then r ++ fill ' ' else if st.zeros then fill '0' ++ r else fill ' ' ++ r
      let convert (r : Raw) : Except Raw Raw := do
        let (f, places) ← unitNumber? st r
        match largeFault? st f places with
        | some fault => throw fault
        | none => pure ()
        return st.lead ++ padded (unitText st f places ++ st.suffix) ++ st.tail
      let wanted (n : Nat) : Bool :=
        match o.value? 'f' with
        | none => n = 1
        | some "-" => true
        | some spec => (spec.splitOn ",").any fun p =>
          match p.splitOn "-" with
          | [a] => n = numeral a.toList
          | [a, b] => (a.isEmpty || numeral a.toList ≤ n) && (b.isEmpty || n ≤ numeral b.toList)
          | _ => false
      let line (l : Raw) : Except Raw Raw :=
        match o.value? 'd' with
        | some d => do
          let parts ← ((l.splitOn d).zipIdx 1).mapM fun (p, n) => if wanted n then convert p else .ok p
          return d.intercalate parts
        | none => do
          let rec fields : Nat → Nat → List Char → List (Raw × Raw)
            | 0, _, _ => []
            | _ + 1, _, [] => []
            | fuel + 1, n, cs =>
              let gap := cs.takeWhile isGap
              let word := (cs.drop gap.length).takeWhile fun c => !isGap c
              (String.ofList gap, String.ofList word) :: fields fuel (n + 1) (cs.drop (gap.length + word.length))
          let parts ← ((fields (l.length + 1) 1 l.toList).zipIdx 1).mapM fun ((gap, w), n) =>
            if wanted n && !w.isEmpty then do
              let text ← convert w
              let automatic := st.padding = 0 && 1 < gap.length + (if n = 1 then 1 else 0) && n != 0
              let width := gap.length + w.length
              let text := if automatic then padLeft (width - (if n = 1 then 0 else 1)) text else text
              return (if automatic then (if n = 1 then "" else " ") else gap) ++ text
            else return gap ++ w
          return String.join parts
      let ending : UInt8 := if o.has 'z' then 0 else 0x0A
      let inputs := if o.operands.isEmpty then
          (linesEndedBy ending s.input.bytes).map fun l =>
            Raw.ofBytes (if l.getLast? == some ending then l.dropLast else l)
        else o.operands
      let header := if o.has 'H' then (((o.value? 'H').bind count?).getD 1) else 0
      let mode := (o.value? 'v').getD "abort"
      let step : List (Bool × List UInt8) × Nat × Bool → Raw × Nat → List (Bool × List UInt8) × Nat × Bool :=
        fun (done, status, going) (l, i) =>
          if !going then (done, status, going)
          else
            let text (r : Raw) : Bool × List UInt8 := (false, Raw.toBytes r ++ [ending])
            if i < header && o.operands.isEmpty then (text l :: done, status, true)
            else
              match line l with
              | .ok r => (text r :: done, status, true)
              | .error e =>
                if mode == "ignore" then (text l :: done, status, true)
                else if mode == "warn" then (text l :: complaint ("numfmt: " ++ e) :: done, status, true)
                else if mode == "fail" then (text l :: complaint ("numfmt: " ++ e) :: done, 2, true)
                else (complaint ("numfmt: " ++ e) :: done, 2, false)
      let (writes, status, _) := inputs.zipIdx.foldl step ([], 0, true)
      let idle := source = .none && target = .none && !o.has 'g' && st.padding = 0 && (o.value? 'm').isNone
      let notes := if !o.has 'D' then [] else
        (if idle then [complaint "numfmt: no conversion option specified"] else []) ++
        (if o.has 'H' && !o.operands.isEmpty then
          [complaint "numfmt: --header ignored with command-line input"] else [])
      let r : Ran := { writes := notes ++ writes.reverse, status }
      return if o.operands.isEmpty then { r with rest := some .empty } else r
    match run with
    | .ok r => r
    | .error r => r

end Host.Tool

end PolicyGate
