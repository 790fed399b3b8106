import PolicyGate.Host.Format

/-!
# Values of extraction scripts

A value is a number or a text, and either is taken for the other where that is asked for: a text counts
as the number at its front, and a number is written with fifteen digits at most.
-/

namespace PolicyGate

namespace Host.Extract

inductive Value where
  /-- No value. -/
  | absent
  | whole (n : Int)
  | real (x : Float)
  | text (r : Raw)
  deriving Repr

namespace Value

/-- The text of a number with a point. -/
def realText (x : Float) : Raw :=
  let v := Double.ofFloat x
  match v with
  | .nan => "NaN"
  | .infinite n => if n then "-Inf" else "Inf"
  | .zero _ => "0"
  | v => (if v.isNegative then "-" else "") ++ v.text .general 15 false

def toText : Value → Raw
  | .absent => ""
  | .whole n => toString n
  | .real x => realText x
  | .text r => r

/-- Whether a number is one of those that have no point. -/
def fits (n : Int) : Bool := -(Width.of63 : Int) ≤ n && n < (Width.of64 : Int)

/-- A number without a point, unless it is too large for that. -/
def ofInt (n : Int) : Value :=
  if fits n then .whole n
  else .real (if n < 0 then -(Float.ofNat n.natAbs) else Float.ofNat n.natAbs)

def isBlank (c : Char) : Bool := c == ' ' || ('\t' ≤ c && c ≤ '\r')

/-- The number at the front of a text. -/
def numberAt (r : Raw) : Value :=
  let cs := r.toList.dropWhile isBlank
  let (negative, body) := match cs with
    | '-' :: rest => (true, rest)
    | '+' :: rest => (false, rest)
    | rest => (false, rest)
  let digits := body.takeWhile Char.isDigit
  let rest := body.drop digits.length
  let isWhole := !digits.isEmpty && !(rest.head?.any fun c => c == '.' || c == 'e' || c == 'E')
  let lower := (body.take 3).map Char.toLower
  if isWhole then
    let n : Int := (digits.foldl (fun n c => 10 * n + (c.toNat - 48)) 0 : Nat)
    ofInt (if negative then -n else n)
  else if lower == "inf".toList || lower == "nan".toList then
    match Double.readAny? cs with
    | some (x, _) => .real x
    | none => .whole 0
  else
    match Double.read? cs with
    | some (x, _) => .real x
    | none => .whole 0

/-- The value as a number. -/
def toNumber : Value → Value
  | .absent => .whole 0
  | .text r => numberAt r
  | v => v

def toFloat (v : Value) : Float :=
  match v.toNumber with
  | .whole n => if n < 0 then -(Float.ofNat n.natAbs) else Float.ofNat n.natAbs
  | .real x => x
  | _ => 0

/-- The part of a number with a point that stands in front of it. -/
def truncated (x : Float) : Int :=
  if x.isNaN then 0
  else if x.isInf then (if x < 0 then -(Width.of63 : Int) else Width.of63 - 1)
  else
    match Double.ofFloat x with
    | .finite negative b =>
      let n : Nat := b.value.num / b.value.den
      if negative then -(n : Int) else n
    | _ => 0

def toInt (v : Value) : Int :=
  match v.toNumber with
  | .whole n => n
  | .real x => truncated x
  | _ => 0

/-- A number that has no point if it needs none. -/
def ofFloat (x : Float) : Value :=
  if x.isNaN || x.isInf then .real x
  else
    let n := truncated x
    if n.natAbs < 9007199254740992 && (Value.whole n).toFloat == x then .whole n else .real x

def isTrue : Value → Bool
  | .absent => false
  | .whole n => n != 0
  | .real x => x != 0
  | .text r => !(r.isEmpty || r == "0")

def ofBool (b : Bool) : Value := if b then .whole 1 else .text ""

def isAbsent : Value → Bool
  | .absent => true
  | _ => false

/-! ## Sums -/

/-- Works on two numbers, as long as both and what comes out have no point. -/
def combine (exact : Int → Int → Option Int) (near : Float → Float → Float) (a b : Value) : Value :=
  match a.toNumber, b.toNumber with
  | .whole x, .whole y =>
    match exact x y with
    | some n => if fits n then .whole n else ofFloat (near a.toFloat b.toFloat)
    | none => ofFloat (near a.toFloat b.toFloat)
  | _, _ => ofFloat (near a.toFloat b.toFloat)

def add : Value → Value → Value := combine (fun x y => some (x + y)) (· + ·)
def sub : Value → Value → Value := combine (fun x y => some (x - y)) (· - ·)
def mul : Value → Value → Value := combine (fun x y => some (x * y)) (· * ·)

/-- The quotient. The divisor is not zero. -/
def div : Value → Value → Value :=
  combine (fun x y => if x % y = 0 then some (x / y) else none) (· / ·)

/-- A power. A whole one has no point as long as the bits of the base, so many times, fit into a word. -/
def pow (a b : Value) : Value :=
  let isPowerOfTwo (n : Nat) : Bool := Nat.pow 2 n.log2 == n
  let exact (x y : Int) : Option Int :=
    if y < 0 || x.natAbs < 2 || isPowerOfTwo x.natAbs || 64 < (x.natAbs.log2 + 1) * y.toNat then none
    else some (Int.pow x y.toNat)
  combine exact Float.pow a b

/-- What is left of a division of whole numbers, with the sign of the divisor. -/
def mod (a b : Value) : Value := ofInt (Int.fmod a.toInt b.toInt)

/-- The order of two numbers, if they have one. -/
def compareNumbers (a b : Value) : Option Ordering :=
  match a.toNumber, b.toNumber with
  | .whole x, .whole y => some (compare x y)
  | _, _ =>
    let x := a.toFloat
    let y := b.toFloat
    if x < y then some .lt else if y < x then some .gt else if x == y then some .eq else none

def compareTexts (a b : Value) : Ordering :=
  let x := a.toText
  let y := b.toText
  if x < y then .lt else if x == y then .eq else .gt

/-- The bits of a number, as far as they go. -/
def bits (v : Value) : Nat := (v.toInt % (Width.of64 : Int)).toNat

/-- The value that follows a text of letters and digits. -/
def next (v : Value) : Value :=
  match v with
  | .text r =>
    let letters := r.toList.takeWhile Char.isAlpha
    let isPlain := !r.isEmpty && (r.toList.drop letters.length).all Char.isDigit && !letters.isEmpty
    if isPlain then .text (String.ofList (step r.toList.reverse).reverse) else add v (.whole 1)
  | .absent => .whole 1
  | v => add v (.whole 1)
where
  /-- Steps on from the last character, the characters in reverse. -/
  step : List Char → List Char
    | [] => []
    | c :: cs =>
      let carried (first again : Char) : List Char := if cs.isEmpty then [first, again] else first :: step cs
      if c == '9' then carried '0' '1'
      else if c == 'z' then carried 'a' 'a'
      else if c == 'Z' then carried 'A' 'A'
      else Char.ofNat (c.toNat + 1) :: cs

end Value

/-! ## Formats -/

/-- Writes a value as a directive with its letter asks for it. -/
def shown (d : Directive) (letter : Char) (v : Value) : Raw :=
  let cut (r : Raw) : Raw := match d.precision with
    | some n => String.ofList (r.toList.take n)
    | none => r
  if letter == 's' then pad d d.zeros "" (cut v.toText)
  else if letter == 'c' then pad d false "" (Char.ofNat (v.toInt.toNat % 256)).toString
  else if letter == 'd' || letter == 'i' then showNumber d 'd' v.toInt
  else if letter == 'b' || letter == 'B' then
    let digits := Nat.toDigits 2 v.bits
    let digits := List.replicate (d.precision.getD 0 - digits.length) '0' ++ digits
    pad d (d.zeros && d.precision.isNone) (if d.alternative && v.bits != 0 then "0b" else "")
      (String.ofList digits)
  else if "uoxX".toList.contains letter then showNumber d letter v.bits
  else showFloat d letter v.toFloat

/-- Writes a format with values. -/
def formatted : Nat → List Char → List Value → List Char
  | 0, _, _ => []
  | _ + 1, [], _ => []
  | fuel + 1, '%' :: '%' :: cs, vs => '%' :: formatted fuel cs vs
  | fuel + 1, '%' :: cs, vs =>
    let flags := cs.takeWhile fun c => "-0+ #".toList.contains c
    let size (cs : List Char) (vs : List Value) : Option Int × List Char × List Value :=
      match cs with
      | '*' :: rest => (some ((vs.head?.map Value.toInt).getD 0), rest, vs.tail)
      | _ =>
        let ds := cs.takeWhile Char.isDigit
        (if ds.isEmpty then none else some (numberOf ds : Int), cs.drop ds.length, vs)
    let (width, rest, vs) := size (cs.drop flags.length) vs
    let (precision, rest, vs) : Option Nat × List Char × List Value := match rest with
      | '.' :: more =>
        let (n, rest, vs) := size more vs
        (some (n.getD 0).toNat, rest, vs)
      | _ => (none, rest, vs)
    let rest := rest.dropWhile fun c => "hlqLV".toList.contains c
    let w := width.getD 0
    let d : Directive :=
      { left := flags.contains '-' || w < 0, zeros := flags.contains '0', plus := flags.contains '+'
        blank := flags.contains ' ', alternative := flags.contains '#', width := w.natAbs, precision }
    match rest with
    | letter :: after =>
      if "csdiuoxXbBeEfFgG".toList.contains letter then
        (shown d letter (vs.head?.getD .absent)).toList ++ formatted fuel after vs.tail
      else '%' :: formatted fuel cs vs
    | [] => '%' :: formatted fuel cs vs
  | fuel + 1, c :: cs, vs => c :: formatted fuel cs vs

end Host.Extract

end PolicyGate
