import PolicyGate.Decimal.Shortest
import PolicyGate.Json.Fault
import PolicyGate.Width

/-!
# Numbers of JSON

A number is *kept* or *skipped*. A skipped number only has to have the right shape. A kept one must
also not be too large for a double: its digits go into a 64-bit significand as long as they fit,
and the significand is then scaled by a power of ten in double arithmetic.
-/

namespace PolicyGate.Json

open PolicyGate

/-- A number that was kept. -/
inductive Number where
  | unsigned (value : Nat)
  /-- A negative integer that fits into 64 bits. -/
  | negative (value : Int)
  | float (value : Float)

namespace Number

def isDigit (b : UInt8) : Bool := 0x30 ≤ b && b ≤ 0x39

def digitValue (b : UInt8) : Nat := b.toNat - 0x30

/-- The digits at the front, and the rest. -/
def spanDigits (s : List UInt8) : List UInt8 × List UInt8 :=
  (s.takeWhile isDigit, s.dropWhile isDigit)

/-- Appends digits to a significand as long as it fits into 64 bits, and counts them. -/
def absorb (significand : Nat) (count : Nat) : List UInt8 → Nat × Nat
  | [] => (significand, count)
  | d :: ds =>
    let next := significand * 10 + digitValue d
    if next < Width.of64 then absorb next (count + 1) ds else (significand, count)

/-- A power of ten as a double. -/
def tenTo (n : Nat) : Float := Float.ofScientific 1 false n

/-- Scales a double by a power of ten, in steps if the power is no double. Nothing is too large. -/
def scale : Nat → Float → Int → Option Float
  | 0, f, _ => some f
  | fuel + 1, f, exponent =>
    if exponent.natAbs ≤ 308 then
      if 0 ≤ exponent then
        let g := f * tenTo exponent.toNat
        if g.isInf then none else some g
      else some (f / tenTo exponent.natAbs)
    else if f == 0 then some f
    else if 0 ≤ exponent then none
    else scale fuel (f / tenTo 308) (exponent + 308)

/-- A double from its sign, significand and power of ten. Three steps bring any significand to
zero. -/
def assemble (negative : Bool) (significand : Nat) (exponent : Int) (rest : List UInt8) :
    Reading Number :=
  match scale 4 significand.toUInt64.toFloat exponent with
  | none => .error (.before .numberOutOfRange rest)
  | some f => .ok (.float (if negative then -f else f), rest)

/-- The largest exponent that is still counted. -/
def largestExponent : Nat := 2147483647

/-- Adds digits to an exponent. An exponent too large is reported as the digits left over. -/
def addDigits (exponent : Nat) : List UInt8 → Except (List UInt8) Nat
  | [] => .ok exponent
  | d :: ds =>
    let next := exponent * 10 + digitValue d
    if largestExponent < next then .error ds else addDigits next ds

/-- Takes the sign of an exponent, and tells whether it is a minus. -/
def exponentSign : List UInt8 → Bool × List UInt8
  | 0x2B :: rest => (false, rest)
  | 0x2D :: rest => (true, rest)
  | s => (false, s)

/-- Reads an exponent after its letter. -/
def exponentPart (negative : Bool) (significand : Nat) (start : Int) (s : List UInt8) :
    Reading Number :=
  match exponentSign s with
  | (_, []) => .error (.before .eofValue [])
  | (down, d :: rest) =>
    if isDigit d then
      let (digits, after) := spanDigits rest
      match addDigits (digitValue d) digits with
      | .ok e => assemble negative significand (if down then start - e else start + e) after
      | .error left =>
        if significand ≠ 0 ∧ !down then .error (.before .numberOutOfRange (left ++ after))
        else .ok (.float (if negative then -0.0 else 0.0), after)
    else .error (.before .invalidNumber rest)

/-- Reads what may follow the digits of a number with a fraction or too many digits. -/
def exponentOrEnd (negative : Bool) (significand : Nat) (start : Int) (s : List UInt8) :
    Reading Number :=
  match s with
  | 0x65 :: rest => exponentPart negative significand start rest
  | 0x45 :: rest => exponentPart negative significand start rest
  | _ => assemble negative significand start s

/-- Reads a fraction after its point. -/
def fractionPart (negative : Bool) (significand : Nat) (start : Int) (s : List UInt8) :
    Reading Number :=
  match spanDigits s with
  | ([], []) => .error (.on .eofValue [])
  | ([], b :: rest) => .error (.on .invalidNumber (b :: rest))
  | (digits, after) =>
    let (significand, count) := absorb significand 0 digits
    exponentOrEnd negative significand (start - count) after

/-- Reads what follows the integer part of a number, of which `dropped` digits did not fit. -/
def afterInteger (negative : Bool) (significand dropped : Nat) (s : List UInt8) :
    Reading Number :=
  match s with
  | 0x2E :: rest => fractionPart negative significand dropped rest
  | 0x65 :: rest => exponentPart negative significand dropped rest
  | 0x45 :: rest => exponentPart negative significand dropped rest
  | _ =>
    if dropped ≠ 0 then assemble negative significand dropped s
    else if !negative then .ok (.unsigned significand, s)
    else if significand = 0 ∨ Width.of63 < significand then
      .ok (.float (-significand.toUInt64.toFloat), s)
    else .ok (.negative (-significand), s)

/-- Reads a kept number after its sign. -/
def keep (negative : Bool) : List UInt8 → Reading Number
  | [] => .error (.before .eofValue [])
  | c :: rest =>
    if c = 0x30 then
      match rest with
      | d :: more =>
        if isDigit d then .error (.on .invalidNumber (d :: more)) else afterInteger negative 0 0 rest
      | [] => afterInteger negative 0 0 []
    else if isDigit c then
      let (digits, after) := spanDigits rest
      let (significand, count) := absorb (digitValue c) 0 digits
      afterInteger negative significand (digits.length - count) after
    else .error (.before .invalidNumber rest)

/-- Passes over an exponent after its letter. -/
def skipExponent (s : List UInt8) : Except Stop (List UInt8) :=
  match (exponentSign s).2 with
  | [] => .error (.before .invalidNumber [])
  | d :: rest =>
    if isDigit d then .ok (spanDigits rest).2 else .error (.before .invalidNumber rest)

/-- Passes over a fraction and an exponent, if there are any. -/
def skipTail (s : List UInt8) : Except Stop (List UInt8) :=
  match s with
  | 0x2E :: rest =>
    match spanDigits rest with
    | ([], after) => .error (.on .invalidNumber after)
    | (_, 0x65 :: after) => skipExponent after
    | (_, 0x45 :: after) => skipExponent after
    | (_, after) => .ok after
  | 0x65 :: rest => skipExponent rest
  | 0x45 :: rest => skipExponent rest
  | _ => .ok s

/-- Passes over a number after its sign. -/
def skip : List UInt8 → Except Stop (List UInt8)
  | [] => .error (.before .invalidNumber [])
  | c :: rest =>
    if c = 0x30 then
      match rest with
      | d :: more => if isDigit d then .error (.on .invalidNumber (d :: more)) else skipTail rest
      | [] => .ok []
    else if isDigit c then skipTail (spanDigits rest).2
    else .error (.before .invalidNumber rest)

/-- What a number is called where something else was expected. A double is written with the fewest
digits, positionally from `10^-5` up to `10^16`. -/
def found : Number → Found
  | .unsigned n => .integer n
  | .negative n => .integer n
  | .float f =>
    .float <|
      match Double.ofFloat f with
      | .nan => "NaN"
      | .infinite minus => if minus then "-inf" else "inf"
      | .zero minus => if minus then "-0.0" else "0.0"
      | .finite minus b =>
        let d := b.shortest .toEven
        let whole := if 0 ≤ d.exponent then ".0" else ""
        (if minus then "-" else "") ++
          (if -5 ≤ d.leading ∧ d.leading < 16 then d.positional ++ whole else d.scientific)

/-! ## A number takes nothing it does not read -/

theorem length_span (s : List UInt8) : (spanDigits s).2.length ≤ s.length :=
  (List.dropWhile_suffix _).length_le

theorem length_assemble {n : Bool} {sig : Nat} {e : Int} {s rest : List UInt8} {x : Number}
    (h : assemble n sig e s = .ok (x, rest)) : rest.length ≤ s.length := by
  unfold assemble at h
  split at h <;> simp_all

theorem length_exponentSign (s : List UInt8) : (exponentSign s).2.length ≤ s.length := by
  unfold exponentSign
  split <;> simp

theorem length_exponentPart {n : Bool} {sig : Nat} {e : Int} {s rest : List UInt8} {x : Number}
    (h : exponentPart n sig e s = .ok (x, rest)) : rest.length ≤ s.length := by
  have hs := length_exponentSign s
  unfold exponentPart at h
  split at h
  · cases h
  · next d r hd =>
    have hr := length_span r
    rw [hd, List.length_cons] at hs
    refine Nat.le_trans ?_ (Nat.le_of_succ_le hs)
    split at h
    · split at h
      next digits after hd =>
      rw [hd] at hr
      split at h
      · exact Nat.le_trans (length_assemble h) hr
      · split at h
        · cases h
        · obtain ⟨-, rfl⟩ := Prod.mk.inj (Except.ok.inj h)
          exact hr
    · cases h

theorem length_exponentOrEnd {n : Bool} {sig : Nat} {e : Int} {s rest : List UInt8} {x : Number}
    (h : exponentOrEnd n sig e s = .ok (x, rest)) : rest.length ≤ s.length := by
  unfold exponentOrEnd at h
  split at h
  · exact Nat.le_succ_of_le (length_exponentPart h)
  · exact Nat.le_succ_of_le (length_exponentPart h)
  · exact length_assemble h

theorem length_fractionPart {n : Bool} {sig : Nat} {e : Int} {s rest : List UInt8} {x : Number}
    (h : fractionPart n sig e s = .ok (x, rest)) : rest.length ≤ s.length := by
  have hs := length_span s
  unfold fractionPart at h
  split at h
  · cases h
  · cases h
  · next digits after _ _ hd =>
    rw [hd] at hs
    split at h
    exact Nat.le_trans (length_exponentOrEnd h) hs

theorem length_afterInteger {n : Bool} {sig k : Nat} {s rest : List UInt8} {x : Number}
    (h : afterInteger n sig k s = .ok (x, rest)) : rest.length ≤ s.length := by
  unfold afterInteger at h
  split at h
  · exact Nat.le_succ_of_le (length_fractionPart h)
  · exact Nat.le_succ_of_le (length_exponentPart h)
  · exact Nat.le_succ_of_le (length_exponentPart h)
  · split at h
    · exact length_assemble h
    · split at h
      · simp_all
      · split at h <;> simp_all

theorem length_keep {n : Bool} {c : UInt8} {s rest : List UInt8} {x : Number}
    (h : keep n (c :: s) = .ok (x, rest)) : rest.length ≤ s.length := by
  simp only [keep] at h
  split at h
  · split at h
    · split at h
      · cases h
      · exact length_afterInteger h
    · exact length_afterInteger h
  · split at h
    · exact Nat.le_trans (length_afterInteger h) (length_span s)
    · cases h

theorem length_skipExponent {s rest : List UInt8} (h : skipExponent s = .ok rest) :
    rest.length ≤ s.length := by
  have hs := length_exponentSign s
  unfold skipExponent at h
  split at h
  · cases h
  · next d r hd =>
    rw [hd, List.length_cons] at hs
    split at h
    · obtain rfl := Except.ok.inj h
      exact Nat.le_trans (length_span r) (Nat.le_of_succ_le hs)
    · cases h

theorem length_skipTail {s rest : List UInt8} (h : skipTail s = .ok rest) :
    rest.length ≤ s.length := by
  unfold skipTail at h
  split at h
  · next r =>
    have hr := length_span r
    split at h
    · cases h
    all_goals
      next hd =>
      rw [hd] at hr
      first
        | exact Nat.le_succ_of_le
            (Nat.le_trans (length_skipExponent h) (Nat.le_of_succ_le hr))
        | (obtain rfl := Except.ok.inj h; exact Nat.le_succ_of_le hr)
  · exact Nat.le_succ_of_le (length_skipExponent h)
  · exact Nat.le_succ_of_le (length_skipExponent h)
  · obtain rfl := Except.ok.inj h
    exact Nat.le_refl _

theorem length_skip {c : UInt8} {s rest : List UInt8} (h : skip (c :: s) = .ok rest) :
    rest.length ≤ s.length := by
  simp only [skip] at h
  split at h
  · split at h
    · split at h
      · cases h
      · exact length_skipTail h
    · obtain rfl := Except.ok.inj h
      exact Nat.zero_le _
  · split at h
    · exact Nat.le_trans (length_skipTail h) (length_span s)
    · cases h

end Number

end PolicyGate.Json
