import PolicyGate.Json.Scalar
import PolicyGate.Json.Number

/-!
# The grammar of JSON

The grammar is said of bytes: a phrase stands *between* a text and what follows it. Written after
the standard, but for one thing: the bytes of a string do not have to be UTF-8. All other bytes of
a phrase are ASCII, so a phrase that is UTF-8 as a whole is one of the standard.

* `Many` — any number of bytes of a kind, such as blanks or digits.
* `Mark` — a sign of punctuation between blanks.
* `Chars` — the inside of a string, up to and with its closing quote.
* `Unsigned` — a number without its sign.
* `Derives` — the phrases that refer to each other, by their kind.
* `Whole` — a text is a phrase between blanks.
-/

namespace PolicyGate.Json

/-! ## Runs of bytes -/

/-- Any number of bytes of a kind. -/
inductive Many (p : UInt8 → Bool) : List UInt8 → List UInt8 → Prop
  | none {r} : Many p r r
  | more {b s r} (hb : p b = true) (h : Many p s r) : Many p (b :: s) r

abbrev Blanks : List UInt8 → List UInt8 → Prop := Many isBlank

/-- A sign of punctuation between blanks. -/
def Mark (c : UInt8) (s r : List UInt8) : Prop := ∃ t, Blanks s (c :: t) ∧ Blanks t r

/-! ## Strings -/

/-- The letters that may follow a backslash by themselves. -/
def shortEscapes : List UInt8 := [0x22, 0x5C, 0x2F, 0x62, 0x66, 0x6E, 0x72, 0x74]

/-- A hexadecimal digit. -/
def IsHex (b : UInt8) : Prop :=
  0x30 ≤ b ∧ b ≤ 0x39 ∨ 0x41 ≤ b ∧ b ≤ 0x46 ∨ 0x61 ≤ b ∧ b ≤ 0x66

/-- Four hexadecimal digits. -/
inductive Hex4 : List UInt8 → List UInt8 → Prop
  | digits {b₁ b₂ b₃ b₄ r} (h₁ : IsHex b₁) (h₂ : IsHex b₂) (h₃ : IsHex b₃)
    (h₄ : IsHex b₄) : Hex4 (b₁ :: b₂ :: b₃ :: b₄ :: r) r

/-- The inside of a string, up to and with its closing quote. -/
inductive Chars : List UInt8 → List UInt8 → Prop
  | close {r} : Chars (0x22 :: r) r
  | plain {c s r} (hcontrol : 0x20 ≤ c) (hquote : c ≠ 0x22) (hescape : c ≠ 0x5C)
    (h : Chars s r) : Chars (c :: s) r
  | short {c s r} (hc : c ∈ shortEscapes) (h : Chars s r) : Chars (0x5C :: c :: s) r
  | numeric {s t r} (hx : Hex4 s t) (h : Chars t r) : Chars (0x5C :: 0x75 :: s) r

/-! ## Numbers -/

/-- Zero, or digits that begin with another. -/
inductive Natural : List UInt8 → List UInt8 → Prop
  | zero {r} : Natural (0x30 :: r) r
  | digits {c s r} (hc : Number.isDigit c = true) (hzero : c ≠ 0x30)
    (h : Many Number.isDigit s r) : Natural (c :: s) r

/-- One digit at least. -/
inductive Digits : List UInt8 → List UInt8 → Prop
  | digits {c s r} (hc : Number.isDigit c = true) (h : Many Number.isDigit s r) :
    Digits (c :: s) r

/-- A fraction, if there is one. -/
inductive Fraction : List UInt8 → List UInt8 → Prop
  | absent {r} : Fraction r r
  | present {s r} (h : Digits s r) : Fraction (0x2E :: s) r

/-- The sign of an exponent, if there is one. -/
inductive Sign : List UInt8 → List UInt8 → Prop
  | absent {r} : Sign r r
  | plus {r} : Sign (0x2B :: r) r
  | minus {r} : Sign (0x2D :: r) r

/-- An exponent, if there is one. -/
inductive Exponent : List UInt8 → List UInt8 → Prop
  | absent {r} : Exponent r r
  | present {c s t r} (hc : c = 0x65 ∨ c = 0x45) (hs : Sign s t) (h : Digits t r) :
    Exponent (c :: s) r

/-- A number without its sign. -/
def Unsigned (s r : List UInt8) : Prop := ∃ t u, Natural s t ∧ Fraction t u ∧ Exponent u r

/-! ## Values -/

/-- The phrases that refer to each other. Elements and members are one at least. -/
inductive Phrase where
  | value
  | array
  | elements
  | object
  | members
  | member
  deriving DecidableEq, Repr

def null : List UInt8 := [0x6E, 0x75, 0x6C, 0x6C]

/-- A phrase of a kind stands between a text and what follows it. -/
inductive Derives : Phrase → List UInt8 → List UInt8 → Prop
  | null {r} : Derives .value (null ++ r) r
  | true {r} : Derives .value (0x74 :: 0x72 :: 0x75 :: 0x65 :: r) r
  | false {r} : Derives .value (0x66 :: 0x61 :: 0x6C :: 0x73 :: 0x65 :: r) r
  | string {s r} (h : Chars s r) : Derives .value (0x22 :: s) r
  | number {s r} (h : Unsigned s r) : Derives .value s r
  | negative {s r} (h : Unsigned s r) : Derives .value (0x2D :: s) r
  | ofArray {s r} (h : Derives .array s r) : Derives .value s r
  | ofObject {s r} (h : Derives .object s r) : Derives .value s r
  | emptyArray {s r} (h : Blanks s (0x5D :: r)) : Derives .array (0x5B :: s) r
  | array {s t u r} (hb : Blanks s t) (h : Derives .elements t u) (he : Blanks u (0x5D :: r)) :
    Derives .array (0x5B :: s) r
  | element {s r} (h : Derives .value s r) : Derives .elements s r
  | elements {s t u r} (h : Derives .value s t) (hc : Mark 0x2C t u) (hs : Derives .elements u r) :
    Derives .elements s r
  | emptyObject {s r} (h : Blanks s (0x7D :: r)) : Derives .object (0x7B :: s) r
  | object {s t u r} (hb : Blanks s t) (h : Derives .members t u) (he : Blanks u (0x7D :: r)) :
    Derives .object (0x7B :: s) r
  | ofMember {s r} (h : Derives .member s r) : Derives .members s r
  | members {s t u r} (h : Derives .member s t) (hc : Mark 0x2C t u) (hs : Derives .members u r) :
    Derives .members s r
  | member {s t u r} (hk : Chars s t) (hc : Mark 0x3A t u) (hv : Derives .value u r) :
    Derives .member (0x22 :: s) r

/-- A text is a phrase between blanks. -/
def Whole (phrase : List UInt8 → List UInt8 → Prop) (text : List UInt8) : Prop :=
  ∃ s r, Blanks text s ∧ phrase s r ∧ Blanks r []

/-! ## Where runs end -/

variable {s t r : List UInt8} {b c : UInt8} {p : UInt8 → Bool}

theorem many_dropWhile (p : UInt8 → Bool) (s : List UInt8) : Many p s (s.dropWhile p) := by
  induction s with
  | nil => exact .none
  | cons b s ih =>
    by_cases hb : p b = true
    · rw [List.dropWhile_cons_of_pos hb]
      exact .more hb ih
    · rw [List.dropWhile_cons_of_neg hb]
      exact .none

theorem blanks_skipBlanks (s : List UInt8) : Blanks s (skipBlanks s) := many_dropWhile isBlank s

theorem blanks_of_skipBlanks (h : skipBlanks s = t) : Blanks s t := h ▸ blanks_skipBlanks s

theorem Many.trans (h : Many p s t) (h' : Many p t r) : Many p s r := by
  induction h with
  | none => exact h'
  | more hb h ih => exact .more hb (ih h')

theorem Mark.trans (h : Mark c s t) (h' : Blanks t r) : Mark c s r := by
  obtain ⟨u, hc, hb⟩ := h
  exact ⟨u, hc, hb.trans h'⟩

/-- A run that could not have begun is empty. -/
theorem Many.eq_of_head (h : Many p (b :: s) r) (hb : p b = false) : r = b :: s := by
  cases h with
  | none => rfl
  | more hb' h =>
    rw [hb] at hb'
    cases hb'

/-- No byte of a kind stands in front. -/
def Stops (p : UInt8 → Bool) (s : List UInt8) : Prop := ∀ b, s.head? = some b → p b = false

theorem stops_nil : Stops p [] := by
  rintro b ⟨⟩

theorem stops_cons : Stops p (b :: s) ↔ p b = false :=
  ⟨fun h => h b rfl, fun h _ hc => Option.some.inj hc ▸ h⟩

/-- A run that cannot go on is all there is in front. -/
theorem dropWhile_of_many (h : Many p s r) (hr : Stops p r) : s.dropWhile p = r := by
  induction h with
  | @none r =>
    cases r with
    | nil => rfl
    | cons b r => exact List.dropWhile_cons_of_neg (by simp [stops_cons.mp hr])
  | more hb h ih => rw [List.dropWhile_cons_of_pos hb, ih hr]

/-- Behind all blanks stands what no blank is. -/
theorem skipBlanks_of_blanks (h : Blanks s (c :: t)) (hc : isBlank c = false) :
    skipBlanks s = c :: t :=
  dropWhile_of_many h (stops_cons.mpr hc)

end PolicyGate.Json
