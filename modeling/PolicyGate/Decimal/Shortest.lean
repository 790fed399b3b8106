import PolicyGate.Width

/-!
# The fewest digits that read back

A binary fraction `m · 2^q` stands for all reals that round to it. Among the decimals in that
interval, `shortest` takes one with the fewest digits, and of two with equally many the nearer.

* `Binary` — a positive binary fraction with 53 significant bits at most.
* `Decimal` — digits and a power of ten.
* `Tie` — which of two equally near decimals is taken.
-/

namespace PolicyGate

/-- The number `digits · 10^exponent`. -/
structure Decimal where
  digits : Nat
  exponent : Int
  deriving DecidableEq, Repr

/-- The number `mantissa · 2^exponent`. The gap to the number below is half the gap above at a
power of two, unless there is no smaller exponent. -/
structure Binary where
  mantissa : Nat
  exponent : Int
  narrowBelow : Bool
  deriving DecidableEq, Repr

namespace Binary

/-- Which of two decimals at the same distance is taken. -/
inductive Tie where
  | up
  | toEven
  deriving DecidableEq, Repr

/-- A quotient of two naturals, the denominator positive. -/
structure Quotient where
  num : Nat
  den : Nat

namespace Quotient

/-- A power of a positive base. -/
def power (base : Nat) (exponent : Int) : Quotient :=
  if 0 ≤ exponent then ⟨Nat.pow base exponent.toNat, 1⟩ else ⟨1, Nat.pow base (-exponent).toNat⟩

def scale (k : Nat) (r : Quotient) : Quotient := ⟨k * r.num, r.den⟩

def le (r s : Quotient) : Bool := r.num * s.den ≤ s.num * r.den

def lt (r s : Quotient) : Bool := r.num * s.den < s.num * r.den

/-- The largest natural `k` with `k · s ≤ r`. -/
def floorDiv (r s : Quotient) : Nat := (r.num * s.den) / (r.den * s.num)

end Quotient

/-- A quarter of the gap above, the unit in which the interval is measured. -/
def quarter (x : Binary) : Quotient := .power 2 (x.exponent - 2)

def value (x : Binary) : Quotient := x.quarter.scale (4 * x.mantissa)

/-- Whether a multiple of a grid rounds to `x`: the ends of the interval count if the mantissa is
even. -/
def contains (x : Binary) (grid : Quotient) (k : Nat) : Bool :=
  let low := x.quarter.scale (4 * x.mantissa - if x.narrowBelow then 1 else 2)
  let high := x.quarter.scale (4 * x.mantissa + 2)
  let p := grid.scale k
  if x.mantissa % 2 = 0 then low.le p && p.le high else low.lt p && p.lt high

/-- The exponent `e` with `10^e ≤ x < 10^(e + 1)`, searched downwards. -/
def magnitude (x : Binary) : Int :=
  match (List.range 640).find? fun (i : Nat) => (Quotient.power 10 (309 - (i : Int))).le x.value with
  | some i => 309 - (i : Int)
  | none => -331

/-- The nearer of the two multiples of a grid around `x`, of those that round to `x`. -/
def onGrid? (tie : Tie) (x : Binary) (grid : Quotient) : Option Nat :=
  let below := x.value.floorDiv grid
  match x.contains grid below, x.contains grid (below + 1) with
  | false, false => none
  | true, false => some below
  | false, true => some (below + 1)
  | true, true =>
    let middle := grid.scale (2 * below + 1)
    let double := x.value.scale 2
    if double.lt middle then some below
    else if middle.lt double then some (below + 1)
    else
      match tie with
      | .up => some (below + 1)
      | .toEven => some (if below % 2 = 0 then below else below + 1)

/-- Moves factors of ten from the digits to the exponent. -/
def strip : Nat → Decimal → Decimal
  | 0, d => d
  | fuel + 1, d =>
    if d.digits ≠ 0 ∧ d.digits % 10 = 0 then strip fuel ⟨d.digits / 10, d.exponent + 1⟩ else d

/-- The decimal with the fewest digits that rounds to `x`. Seventeen digits always suffice. -/
def shortest (tie : Tie) (x : Binary) : Decimal :=
  let top := x.magnitude
  let found := (List.range 17).findSome? fun (n : Nat) =>
    let exponent := top - (n : Int)
    (x.onGrid? tie (.power 10 exponent)).map fun k => strip 20 ⟨k, exponent⟩
  found.getD ⟨x.value.floorDiv (.power 10 (top - 16)), top - 16⟩

end Binary

/-! ## Double precision -/

/-- What a double is. -/
inductive Double where
  | nan
  | infinite (negative : Bool)
  | zero (negative : Bool)
  | finite (negative : Bool) (magnitude : Binary)
  deriving DecidableEq, Repr

/-- Takes a double apart. -/
def Double.ofFloat (x : Float) : Double :=
  let bits := x.toBits.toNat
  let negative := bits / Width.of63 = 1
  let biased : Nat := bits / Width.of52 % 2048
  let fraction : Nat := bits % Width.of52
  if biased = 2047 then
    if fraction = 0 then .infinite negative else .nan
  else if biased = 0 then
    if fraction = 0 then .zero negative else .finite negative ⟨fraction, -1074, false⟩
  else .finite negative ⟨Width.of52 + fraction, (biased : Int) - 1075, fraction = 0 && biased > 1⟩

namespace Decimal

/-- Decimal digits of a natural number. -/
def digitText (n : Nat) : String := String.ofList (Nat.toDigits 10 n)

/-- The number without an exponent: zeros fill up to the point, and a whole number has none. -/
def positional (d : Decimal) : String :=
  let digits := Nat.toDigits 10 d.digits
  if 0 ≤ d.exponent then String.ofList (digits ++ List.replicate d.exponent.toNat '0')
  else
    let places := (-d.exponent).toNat
    if places < digits.length then
      String.ofList (digits.take (digits.length - places) ++
        '.' :: digits.drop (digits.length - places))
    else String.ofList ('0' :: '.' :: (List.replicate (places - digits.length) '0' ++ digits))

/-- Whether the number is an integer. -/
def isWhole (d : Decimal) : Bool := 0 ≤ d.exponent

/-- The exponent of the leading digit. -/
def leading (d : Decimal) : Int := d.exponent + (Nat.toDigits 10 d.digits).length - 1

/-- The number with one digit before the point and a signed exponent. -/
def scientific (d : Decimal) : String :=
  let e := d.leading
  let sign := if e < 0 then "-" else "+"
  let mantissa :=
    match Nat.toDigits 10 d.digits with
    | [] => "0"
    | [c] => String.ofList [c]
    | c :: cs => String.ofList (c :: '.' :: cs)
  mantissa ++ "e" ++ sign ++ digitText e.natAbs

end Decimal

/-- A double written without exponent, and without a point if it is whole. -/
def plainText (x : Float) : String :=
  match Double.ofFloat x with
  | .nan => "NaN"
  | .infinite negative => if negative then "-inf" else "inf"
  | .zero negative => if negative then "-0" else "0"
  | .finite negative b => (if negative then "-" else "") ++ (b.shortest .up).positional

end PolicyGate
