import PolicyGate.Host.Format

/-!
# Values of scanning programs

A value is a number or a text. A text that has been read and looks like a number counts as one where two
values are compared.
-/

namespace PolicyGate

namespace Host.Scan

inductive Value where
  /-- What a variable is before it has been given a value: zero, and an empty text. -/
  | unset
  | number (x : Float)
  | text (r : Raw)
  /-- A text that has been read, which may look like a number. -/
  | field (r : Raw)
  deriving Repr

def isBlank (c : Char) : Bool := c == ' ' || ('\t' ≤ c && c ≤ '\r')

/-- The number at the front of a text, and what lies behind it. -/
def numberFront? (cs : List Char) : Option (Float × List Char) :=
  let signed := match cs with
    | '-' :: rest => rest
    | '+' :: rest => rest
    | rest => rest
  match signed with
  | c :: rest => if c.isDigit || (c == '.' && rest.head?.any Char.isDigit) then Double.readAny? cs else none
  | [] => none

/-- Whether a text looks like a number as a whole. -/
def asNumber? (r : Raw) : Option Float :=
  match numberFront? (r.toList.dropWhile isBlank) with
  | some (x, rest) => if rest.all isBlank then some x else none
  | none => none

/-- A number without a point, if it has none and is not too large. -/
def whole? (x : Float) : Option Int :=
  if x.isNaN || x.isInf || 18446744073709551616.0 ≤ x.abs then none
  else
    match Double.ofFloat x with
    | .finite negative b =>
      if b.value.num % b.value.den = 0 then
        let n : Nat := b.value.num / b.value.den
        some (if negative then -(n : Int) else n)
      else none
    | .zero _ => some 0
    | _ => none

namespace Value

def toFloat : Value → Float
  | .unset => 0
  | .number x => x
  | .text r | .field r =>
    match numberFront? (r.toList.dropWhile isBlank) with
    | some (x, _) => x
    | none => 0

def ofNat (n : Nat) : Value := .number (Float.ofNat n)

def ofInt (n : Int) : Value := .number (Float.ofInt n)

def ofBool (b : Bool) : Value := .number (if b then 1 else 0)

def isTrue : Value → Bool
  | .unset => false
  | .number x => x != 0
  | .text r => !r.isEmpty
  | .field r =>
    match asNumber? r with
    | some x => x != 0
    | none => !r.isEmpty

/-- The number of a value that counts as one in comparisons. -/
def plainNumber? : Value → Option Float
  | .unset => some 0
  | .number x => some x
  | .text _ => none
  | .field r => asNumber? r

/-- The part of a number in front of its point. -/
def truncated (x : Float) : Int :=
  if x.isNaN then -(Width.of63 : Int)
  else if x.isInf || 18446744073709551616.0 ≤ x.abs then
    if x < 0 then -(Width.of63 : Int) else Width.of64 - 1
  else
    match Double.ofFloat x with
    | .finite negative b =>
      let n : Nat := b.value.num / b.value.den
      if negative then -(n : Int) else n
    | _ => 0

def toInt (v : Value) : Int := truncated v.toFloat

end Value

/-! ## Formats -/

/-- A number as a directive asks for it. What has come out of no number has a sign. -/
def floatText (d : Directive) (letter : Char) (x : Float) : Raw :=
  if x.isNaN then pad d false "" (if letter.isUpper then "-NAN" else "-nan") else showFloat d letter x

/-- Writes a format with values, or tells that they are too few. -/
def formatted (textOf : Value → Raw) : Nat → List Char → List Value → Option (List Char)
  | 0, _, _ => some []
  | _ + 1, [], _ => some []
  | fuel + 1, '%' :: '%' :: cs, vs => (formatted textOf fuel cs vs).map ('%' :: ·)
  | fuel + 1, '%' :: cs, vs =>
    let flags := cs.takeWhile fun c => "-0+ #'".toList.contains c
    let size (cs : List Char) (vs : List Value) : Option Int × List Char × List Value :=
      match cs with
      | '*' :: rest => (some ((vs.head?.map Value.toInt).getD 0), rest, vs.tail)
      | _ =>
        let ds := cs.takeWhile Char.isDigit
        (if ds.isEmpty then none else some (numberOf ds : Int), cs.drop ds.length, vs)
    let (width, rest, vs) := size (cs.drop flags.length) vs
    let (precision, rest, vs) : Option Nat × List Char × List Value := match rest with
      | '.' :: more =>
        let (n, rest, vs) := size more vs
        (some (n.getD 0).toNat, rest, vs)
      | _ => (none, rest, vs)
    let rest := rest.dropWhile fun c => "hlqL".toList.contains c
    let w := width.getD 0
    let d : Directive :=
      { left := flags.contains '-' || w < 0, zeros := flags.contains '0', plus := flags.contains '+'
        blank := flags.contains ' ', alternative := flags.contains '#', width := w.natAbs, precision }
    match rest with
    | '%' :: after => (formatted textOf fuel after vs).map ('%' :: ·)
    | letter :: after =>
      if "csdiuoxXeEfFgG".toList.contains letter then
        match vs with
        | [] => none
        | v :: more =>
          let text : Raw :=
            if letter == 's' then
              let r := textOf v
              pad d false "" (match precision with
                | some n => String.ofList (r.toList.take n)
                | none => r)
            else if letter == 'c' then
              pad d false "" (match v with
                | .number x => (Char.ofNat ((Value.truncated x) % 256).toNat).toString
                | .field r =>
                  match asNumber? r with
                  | some x => (Char.ofNat ((Value.truncated x) % 256).toNat).toString
                  | none => String.ofList (r.toList.take 1)
                | v => (((textOf v).toList.head?).getD '\x00').toString)
            else if letter == 'd' || letter == 'i' then showNumber d 'd' v.toInt
            else if letter == 'u' then showNumber d 'u' v.toInt
            else if "oxX".toList.contains letter then showNumber d letter v.toInt
            else floatText d letter v.toFloat
          (formatted textOf fuel after more).map (text.toList ++ ·)
      else (formatted textOf fuel cs vs).map ('%' :: ·)
    | [] => some ('%' :: cs)
  | fuel + 1, c :: cs, vs => (formatted textOf fuel cs vs).map (c :: ·)

/-- The text of a number: its digits if it has no point, and else what a format makes of it. -/
def numberText (form : Raw) (x : Float) : Raw :=
  match whole? x with
  | some n => toString n
  | none =>
    if x.isInf then (if x < 0 then "-inf" else "inf")
    else
      match formatted (fun _ => "") (form.length + 1) form.toList [.number x] with
      | some cs => String.ofList cs
      | none => ""

def Value.toText (form : Raw) : Value → Raw
  | .unset => ""
  | .number x => numberText form x
  | .text r | .field r => r

end Host.Scan

end PolicyGate
