import PolicyGate.Decimal.Shortest

/-!
# A given number of digits

A binary fraction is written with some places behind the point, or with some digits in all. It is
rounded to the nearest such decimal, and of two that are equally near the one with an even last digit
is taken.
-/

namespace PolicyGate

namespace Binary

/-- The multiple of a grid that is nearest to `x`. -/
def rounded (x : Binary) (grid : Quotient) : Nat :=
  let below := x.value.floorDiv grid
  let middle := grid.scale (2 * below + 1)
  let double := x.value.scale 2
  if double.lt middle then below
  else if middle.lt double then below + 1
  else if below % 2 = 0 then below else below + 1

/-- The decimal with so many digits that is nearest to `x`. -/
def withDigits (x : Binary) (n : Nat) : Decimal :=
  let exponent := x.magnitude - (n : Int) + 1
  let k := x.rounded (.power 10 exponent)
  if k = Nat.pow 10 n then ⟨Nat.pow 10 (n - 1), exponent + 1⟩ else ⟨k, exponent⟩

end Binary

namespace Decimal

/-- Digits with a point in front of the last so many. -/
def pointed (places : Nat) (digits : Nat) : String :=
  let ds := Nat.toDigits 10 digits
  let ds := List.replicate (places + 1 - ds.length) '0' ++ ds
  let whole := ds.take (ds.length - places)
  String.ofList (if places = 0 then whole else whole ++ '.' :: ds.drop whole.length)

/-- An exponent with its sign and two digits at least. -/
def exponentText (e : Int) : String :=
  let ds := Nat.toDigits 10 e.natAbs
  String.ofList ((if e < 0 then '-' else '+') :: (List.replicate (2 - ds.length) '0' ++ ds))

/-- Drops zeros behind the point, and the point if nothing is left behind it. -/
def withoutZeros (s : String) : String :=
  if s.toList.contains '.' then
    let cs := s.toList.reverse.dropWhile (· == '0')
    String.ofList (if cs.head? == some '.' then cs.tail else cs).reverse
  else s

end Decimal

namespace Double

/-- How a number is written. -/
inductive Style where
  /-- With some places behind the point. -/
  | fixed
  /-- With one digit before the point and an exponent. -/
  | scientific
  /-- With some digits in all, in the shorter of the two ways. -/
  | general
  deriving DecidableEq, Repr

/-- The number without its sign. -/
def scientificText (b : Binary) (places : Nat) : String :=
  let d := b.withDigits (places + 1)
  Decimal.pointed places d.digits ++ "e" ++ Decimal.exponentText (d.exponent + places)

def generalText (b : Binary) (digits : Nat) (keeps : Bool) : String :=
  let p := max digits 1
  let d := b.withDigits p
  let e := d.exponent + (p : Int) - 1
  let trim (s : String) : String := if keeps then s else Decimal.withoutZeros s
  if -4 ≤ e && e < (p : Int) then
    let places := ((p : Int) - 1 - e).toNat
    trim (Decimal.pointed places (b.rounded (.power 10 (-(places : Int)))))
  else
    trim (Decimal.pointed (p - 1) d.digits) ++ "e" ++ Decimal.exponentText e

/-- The number without its sign, given how many digits are wanted, and whether zeros at the end are
kept. -/
def text (style : Style) (digits : Nat) (keeps : Bool) : Double → String
  | .nan => "nan"
  | .infinite _ => "inf"
  | .zero _ =>
    match style with
    | .fixed => Decimal.pointed digits 0
    | .scientific => Decimal.pointed digits 0 ++ "e+00"
    | .general => if keeps then Decimal.pointed (digits - 1) 0 else "0"
  | .finite _ b =>
    match style with
    | .fixed => Decimal.pointed digits (b.rounded (.power 10 (-(digits : Int))))
    | .scientific => scientificText b digits
    | .general => generalText b digits keeps

def isNegative : Double → Bool
  | .nan => false
  | .infinite n | .zero n | .finite n _ => n

/-- Reads a decimal number at the front of a text, and gives what stands behind it. -/
def read? (cs : List Char) : Option (Float × List Char) :=
  let (negative, rest) := match cs with
    | '-' :: rest => (true, rest)
    | '+' :: rest => (false, rest)
    | rest => (false, rest)
  let whole := rest.takeWhile Char.isDigit
  let rest := rest.drop whole.length
  let (fraction, rest) := match rest with
    | '.' :: more => (more.takeWhile Char.isDigit, more.dropWhile Char.isDigit)
    | _ => ([], rest)
  if whole.isEmpty && fraction.isEmpty then none
  else
    let number (ds : List Char) : Nat := ds.foldl (fun n c => n * 10 + (c.toNat - 48)) 0
    let (exponent, rest) : Int × List Char := match rest with
      | e :: more =>
        if e == 'e' || e == 'E' then
          let (minus, ds) := match more with
            | '-' :: ds => (true, ds)
            | '+' :: ds => (false, ds)
            | ds => (false, ds)
          let digits := ds.takeWhile Char.isDigit
          if digits.isEmpty then (0, rest)
          else
            let n : Int := number digits
            (if minus then -n else n, ds.drop digits.length)
        else (0, rest)
      | [] => (0, rest)
    let e := min 1000 (max (-2000) (exponent - (fraction.length : Int)))
    let m := number (whole ++ fraction)
    let x := if 0 ≤ e then Float.ofScientific m false e.toNat else Float.ofScientific m true e.natAbs
    some (if negative then -x else x, rest)

/-- The value of a hexadecimal digit. -/
def hexDigit? (c : Char) : Option Nat :=
  if c.isDigit then some (c.toNat - 48)
  else if 'a' ≤ c && c ≤ 'f' then some (c.toNat - 87)
  else if 'A' ≤ c && c ≤ 'F' then some (c.toNat - 55)
  else none

/-- Reads a hexadecimal number behind its `0x`, which may have a point and a power of two. -/
def readHex? (cs : List Char) : Option (Float × List Char) :=
  let isHex (c : Char) : Bool := (hexDigit? c).isSome
  let whole := cs.takeWhile isHex
  let (fraction, rest) := match cs.drop whole.length with
    | '.' :: more => (more.takeWhile isHex, more.dropWhile isHex)
    | rest => ([], rest)
  if whole.isEmpty && fraction.isEmpty then none
  else
    let m := (whole ++ fraction).foldl (fun n c => n * 16 + (hexDigit? c).getD 0) 0
    let (power, rest) : Int × List Char := match rest with
      | p :: more =>
        if p == 'p' || p == 'P' then
          let (minus, ds) := match more with
            | '-' :: ds => (true, ds)
            | '+' :: ds => (false, ds)
            | ds => (false, ds)
          let digits := ds.takeWhile Char.isDigit
          if digits.isEmpty then (0, rest)
          else
            let n : Nat := digits.foldl (fun n c => n * 10 + (c.toNat - 48)) 0
            (if minus then -(n : Int) else n, ds.drop digits.length)
        else (0, rest)
      | [] => (0, rest)
    some ((Float.ofNat m).scaleB (power - 4 * (fraction.length : Int)), rest)

/-- Reads a number in any form: decimal, hexadecimal, infinite, or none at all. -/
def readAny? (cs : List Char) : Option (Float × List Char) :=
  let (negative, body) := match cs with
    | '-' :: rest => (true, rest)
    | '+' :: rest => (false, rest)
    | rest => (false, rest)
  let sign (x : Float) : Float := if negative then -x else x
  let lower := (body.take 8).map Char.toLower
  if ['i', 'n', 'f', 'i', 'n', 'i', 't', 'y'].isPrefixOf lower then some (sign (1.0 / 0.0), body.drop 8)
  else if ['i', 'n', 'f'].isPrefixOf lower then some (sign (1.0 / 0.0), body.drop 3)
  else if ['n', 'a', 'n'].isPrefixOf lower then some (sign (0.0 / 0.0), body.drop 3)
  else
    match body with
    | '0' :: x :: rest =>
      match (if x == 'x' || x == 'X' then readHex? rest else none) with
      | some (v, rest) => some (sign v, rest)
      | none => read? cs
    | _ => read? cs

end Double

end PolicyGate
