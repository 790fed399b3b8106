import PolicyGate.Json.Fault
import PolicyGate.Text.Utf8

/-!
# Blanks, literals and strings of JSON

A string is read in one of two ways. *Kept*, its escapes are decoded and its bytes have to be UTF-8;
*skipped*, only the shape of its escapes matters. Both leave a shorter rest.
-/

namespace PolicyGate.Json

/-- The four blanks between tokens. -/
def isBlank (b : UInt8) : Bool := b = 0x20 || b = 0x0A || b = 0x09 || b = 0x0D

def skipBlanks (s : List UInt8) : List UInt8 := s.dropWhile isBlank

theorem length_skipBlanks (s : List UInt8) : (skipBlanks s).length ≤ s.length :=
  (List.dropWhile_suffix _).length_le

/-- Reads the given bytes, the rest of a literal. -/
def literal : List UInt8 → List UInt8 → Except Stop (List UInt8)
  | [], s => .ok s
  | _ :: _, [] => .error (.before .eofValue [])
  | w :: word, c :: s => if c = w then literal word s else .error (.before .expectedLiteral s)

/-- What follows the first letter of a literal. -/
def literalTail : UInt8 → Option (List UInt8)
  | 0x6E => some [0x75, 0x6C, 0x6C]
  | 0x74 => some [0x72, 0x75, 0x65]
  | 0x66 => some [0x61, 0x6C, 0x73, 0x65]
  | _ => none

theorem length_literal {word s rest : List UInt8} (h : literal word s = .ok rest) :
    rest.length ≤ s.length := by
  fun_induction literal word s with
  | case1 => exact Nat.le_of_eq (congrArg _ (Except.ok.inj h).symm)
  | case2 => cases h
  | case3 _ _ _ ih => exact Nat.le_succ_of_le (ih h)
  | case4 => cases h

/-! ## Escapes -/

def hexDigit? (b : UInt8) : Option Nat :=
  if 0x30 ≤ b ∧ b ≤ 0x39 then some (b.toNat - 0x30)
  else if 0x41 ≤ b ∧ b ≤ 0x46 then some (b.toNat - 0x37)
  else if 0x61 ≤ b ∧ b ≤ 0x66 then some (b.toNat - 0x57)
  else none

/-- Reads four hexadecimal digits. -/
def hex4 : List UInt8 → Reading Nat
  | a :: b :: c :: d :: rest =>
    match hexDigit? a, hexDigit? b, hexDigit? c, hexDigit? d with
    | some a, some b, some c, some d => .ok (((a * 16 + b) * 16 + c) * 16 + d, rest)
    | _, _, _, _ => .error (.before .invalidEscape rest)
  | _ => .error (.before .eofString [])

theorem length_hex4 {s rest : List UInt8} {n : Nat} (h : hex4 s = .ok (n, rest)) :
    rest.length ≤ s.length := by
  unfold hex4 at h
  split at h
  · split at h
    · obtain ⟨-, rfl⟩ := Prod.mk.inj (Except.ok.inj h)
      simp only [List.length_cons]
      omega
    · cases h
  · cases h

/-- The character that a one-letter escape stands for. -/
def shortEscape? : UInt8 → Option Char
  | 0x22 => some '"'
  | 0x5C => some '\\'
  | 0x2F => some '/'
  | 0x62 => some '\x08'
  | 0x66 => some '\x0c'
  | 0x6E => some '\n'
  | 0x72 => some '\r'
  | 0x74 => some '\t'
  | _ => none

/-- Reads the second half of a surrogate pair, its escape included. -/
def trailingHalf : List UInt8 → Reading Nat
  | [] => .error (.before .eofString [])
  | 0x5C :: [] => .error (.before .eofString [])
  | 0x5C :: 0x75 :: rest =>
    match hex4 rest with
    | .error e => .error e
    | .ok (n, rest) =>
      if 0xDC00 ≤ n ∧ n ≤ 0xDFFF then .ok (n, rest) else .error (.before .loneSurrogate rest)
  | 0x5C :: _ :: rest => .error (.before .endOfHexEscape rest)
  | _ :: rest => .error (.before .endOfHexEscape rest)

theorem length_trailingHalf {s rest : List UInt8} {n : Nat}
    (h : trailingHalf s = .ok (n, rest)) : rest.length ≤ s.length := by
  unfold trailingHalf at h
  split at h
  · cases h
  · cases h
  · split at h
    · cases h
    · next hx =>
      split at h
      · obtain ⟨-, rfl⟩ := Prod.mk.inj (Except.ok.inj h)
        have := length_hex4 hx
        simp only [List.length_cons]
        omega
      · cases h
  · cases h
  · cases h

/-- Reads the four digits of a numeric escape, and a second such escape if the first is the leading
half of a surrogate pair. -/
def numericEscape (s : List UInt8) : Reading Char :=
  match hex4 s with
  | .error e => .error e
  | .ok (n, rest) =>
    if 0xDC00 ≤ n ∧ n ≤ 0xDFFF then .error (.before .loneSurrogate rest)
    else if 0xD800 ≤ n ∧ n ≤ 0xDBFF then
      match trailingHalf rest with
      | .error e => .error e
      | .ok (m, rest) => .ok (Char.ofNat (0x10000 + (n - 0xD800) * 0x400 + (m - 0xDC00)), rest)
    else .ok (Char.ofNat n, rest)

/-- Reads an escape after its backslash. -/
def escape : List UInt8 → Reading Char
  | [] => .error (.before .eofString [])
  | 0x75 :: rest => numericEscape rest
  | c :: rest =>
    match shortEscape? c with
    | some ch => .ok (ch, rest)
    | none => .error (.before .invalidEscape rest)

theorem length_numericEscape {s rest : List UInt8} {c : Char}
    (h : numericEscape s = .ok (c, rest)) : rest.length ≤ s.length := by
  unfold numericEscape at h
  split at h
  · cases h
  · next hx =>
    have := length_hex4 hx
    split at h
    · cases h
    · split at h
      · split at h
        · cases h
        · next ht =>
          obtain ⟨-, rfl⟩ := Prod.mk.inj (Except.ok.inj h)
          exact Nat.le_trans (length_trailingHalf ht) this
      · obtain ⟨-, rfl⟩ := Prod.mk.inj (Except.ok.inj h)
        exact this

theorem length_escape {s rest : List UInt8} {c : Char} (h : escape s = .ok (c, rest)) :
    rest.length ≤ s.length := by
  unfold escape at h
  split at h
  · cases h
  · exact Nat.le_succ_of_le (length_numericEscape h)
  · split at h
    · obtain ⟨-, rfl⟩ := Prod.mk.inj (Except.ok.inj h)
      exact Nat.le_succ _
    · cases h

/-- Passes over an escape after its backslash: any four hexadecimal digits will do. -/
def skipEscape : List UInt8 → Except Stop (List UInt8)
  | [] => .error (.before .eofString [])
  | 0x75 :: rest => (hex4 rest).map (·.2)
  | c :: rest =>
    match shortEscape? c with
    | some _ => .ok rest
    | none => .error (.before .invalidEscape rest)

theorem length_skipEscape {s rest : List UInt8} (h : skipEscape s = .ok rest) :
    rest.length ≤ s.length := by
  unfold skipEscape at h
  split at h
  · cases h
  · next s' =>
    cases hx : hex4 s' with
    | error e => rw [hx] at h; cases h
    | ok p =>
      rw [hx] at h
      obtain rfl := Except.ok.inj h
      exact Nat.le_succ_of_le (length_hex4 hx)
  · split at h
    · obtain rfl := Except.ok.inj h
      exact Nat.le_succ _
    · cases h

/-! ## Strings -/

/-- Reads a string after its opening quote. `done` holds the characters so far in reverse. That a byte
is not UTF-8 shows at the closing quote; the place reported lies as far in front of what follows
the quote as the decoded text goes on from the first such byte, which `broken` counts. -/
def keepString (done : List Char) (broken : Option Nat) : List UInt8 → Reading (List Char)
  | [] => .error (.before .eofString [])
  | c :: rest =>
    if c = 0x22 then
      match broken with
      | none => .ok (done.reverse, rest)
      | some n => .error ⟨.invalidScalar, rest.length + n⟩
    else if c = 0x5C then
      match _h : escape rest with
      | .error e => .error e
      | .ok (ch, rest') => keepString (ch :: done) (broken.map (· + ch.utf8Size)) rest'
    else if c < 0x20 then .error (.before .controlCharacter rest)
    else
      match _h : Utf8.step c rest with
      | (some ch, rest') => keepString (ch :: done) (broken.map (· + ch.utf8Size)) rest'
      | (none, rest') =>
        keepString done (some (broken.getD 0 + ((c :: rest).length - rest'.length))) rest'
termination_by s => s.length
decreasing_by
  · exact Nat.lt_succ_of_le (length_escape ‹_›)
  · exact Nat.lt_succ_of_le (by simpa [*] using Utf8.length_step c rest)
  · exact Nat.lt_succ_of_le (by simpa [*] using Utf8.length_step c rest)

/-- Passes over a string after its opening quote. -/
def skipString : List UInt8 → Except Stop (List UInt8)
  | [] => .error (.before .eofString [])
  | c :: rest =>
    if c = 0x22 then .ok rest
    else if c = 0x5C then
      match _h : skipEscape rest with
      | .error e => .error e
      | .ok rest' => skipString rest'
    else if c < 0x20 then .error (.before .controlCharacter (c :: rest))
    else skipString rest
termination_by s => s.length
decreasing_by
  · exact Nat.lt_succ_of_le (length_skipEscape ‹_›)
  · exact Nat.lt_succ_self _

theorem length_keepString {done : List Char} {broken : Option Nat} {s rest : List UInt8}
    {cs : List Char} (h : keepString done broken s = .ok (cs, rest)) :
    rest.length ≤ s.length := by
  fun_induction keepString done broken s with
  | case1 => cases h
  | case2 =>
    obtain ⟨-, rfl⟩ := Prod.mk.inj (Except.ok.inj h)
    exact Nat.le_succ _
  | case3 => cases h
  | case4 => cases h
  | case5 _ _ _ _ _ _ _ ih =>
    exact Nat.le_succ_of_le (Nat.le_trans (ih h) (length_escape (by assumption)))
  | case6 => cases h
  | case7 _ _ c rest _ _ _ _ _ hs ih =>
    exact Nat.le_succ_of_le (Nat.le_trans (ih h) (by simpa [hs] using Utf8.length_step c rest))
  | case8 _ _ c rest _ _ _ _ hs ih =>
    exact Nat.le_succ_of_le (Nat.le_trans (ih h) (by simpa [hs] using Utf8.length_step c rest))

theorem length_skipString {s rest : List UInt8} (h : skipString s = .ok rest) :
    rest.length ≤ s.length := by
  fun_induction skipString s with
  | case1 => cases h
  | case2 =>
    obtain rfl := Except.ok.inj h
    exact Nat.le_succ _
  | case3 => cases h
  | case4 _ _ _ _ ih =>
    exact Nat.le_succ_of_le (Nat.le_trans (ih h) (length_skipEscape (by assumption)))
  | case5 => cases h
  | case6 _ _ _ _ _ ih => exact Nat.le_succ_of_le (ih h)

end PolicyGate.Json
