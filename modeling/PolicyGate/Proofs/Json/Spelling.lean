import PolicyGate.Proofs.Json.Scalar

/-!
# Texts and how they may be written

* `SpellsUnit` — a number below `2^16` is written with four hexadecimal digits, of either case.
* `Spells` — a text is written as a string, each character by itself or as an escape.

**Theorem (`keepString_of_spells`).** Whichever way a text is written, it is the text that is read.

A character outside the basic plane has two escapes to it, for its halves in UTF-16. A half is no
character, so a reader cannot take the one for an escape of its own.
-/

namespace PolicyGate.Json

/-! ## How a text is written -/

/-- What may follow a backslash by itself, with the character it stands for. -/
def shortForms : List (UInt8 × Char) :=
  [(0x22, '"'), (0x5C, '\\'), (0x2F, '/'), (0x62, '\x08'), (0x66, '\x0c'), (0x6E, '\n'),
    (0x72, '\r'), (0x74, '\t')]

/-- A hexadecimal digit, of either case. -/
def SpellsDigit (d : Nat) (b : UInt8) : Prop :=
  d < 10 ∧ b.toNat = 0x30 + d ∨
    10 ≤ d ∧ d < 16 ∧ (b.toNat = 0x41 + (d - 10) ∨ b.toNat = 0x61 + (d - 10))

/-- Four hexadecimal digits. -/
inductive SpellsUnit : Nat → List UInt8 → List UInt8 → Prop
  | digits {d₁ d₂ d₃ d₄ b₁ b₂ b₃ b₄ r} (h₁ : SpellsDigit d₁ b₁) (h₂ : SpellsDigit d₂ b₂)
    (h₃ : SpellsDigit d₃ b₃) (h₄ : SpellsDigit d₄ b₄) :
    SpellsUnit (d₁ * 0x1000 + d₂ * 0x100 + d₃ * 0x10 + d₄) (b₁ :: b₂ :: b₃ :: b₄ :: r) r

/-- The halves in UTF-16 of a character outside the basic plane. -/
def leadingHalfOf (c : Char) : Nat := 0xD800 + (c.toNat - 0x10000) / 0x400

def trailingHalfOf (c : Char) : Nat := 0xDC00 + (c.toNat - 0x10000) % 0x400

/-- A text is written as the inside of a string, up to and with its closing quote. -/
inductive Spells : List Char → List UInt8 → List UInt8 → Prop
  | close {r} : Spells [] (0x22 :: r) r
  | plain {c cs s r} (hcontrol : 0x20 ≤ c.toNat) (hquote : c ≠ '"') (hescape : c ≠ '\\')
    (h : Spells cs s r) : Spells (c :: cs) (String.utf8EncodeChar c ++ s) r
  | short {b c cs s r} (hc : (b, c) ∈ shortForms) (h : Spells cs s r) :
    Spells (c :: cs) (0x5C :: b :: s) r
  | numeric {c cs s t r} (hx : SpellsUnit c.toNat s t) (h : Spells cs t r) :
    Spells (c :: cs) (0x5C :: 0x75 :: s) r
  | pair {c cs s t u r} (hc : 0x10000 ≤ c.toNat)
    (hlead : SpellsUnit (leadingHalfOf c) s (0x5C :: 0x75 :: t))
    (htrail : SpellsUnit (trailingHalfOf c) t u) (h : Spells cs u r) :
    Spells (c :: cs) (0x5C :: 0x75 :: s) r

variable {s t u r : List UInt8} {b : UInt8} {c : Char} {cs done : List Char}

/-! ## Escapes -/

theorem hexDigit?_of_spellsDigit {d : Nat} (h : SpellsDigit d b) : hexDigit? b = some d := by
  simp only [hexDigit?, UInt8.le_iff_toNat_le]
  unfold SpellsDigit at h
  change (if 0x30 ≤ b.toNat ∧ b.toNat ≤ 0x39 then _ else if 0x41 ≤ b.toNat ∧ b.toNat ≤ 0x46 then _
    else if 0x61 ≤ b.toNat ∧ b.toNat ≤ 0x66 then _ else _) = _
  split
  · congr 1
    omega
  · split
    · congr 1
      omega
    · split
      · congr 1
        omega
      · omega

theorem hex4_of_spellsUnit {n : Nat} (h : SpellsUnit n s r) : hex4 s = .ok (n, r) := by
  obtain ⟨h₁, h₂, h₃, h₄⟩ := h
  simp only [hex4, hexDigit?_of_spellsDigit h₁, hexDigit?_of_spellsDigit h₂,
    hexDigit?_of_spellsDigit h₃, hexDigit?_of_spellsDigit h₄]
  congr 2
  omega

theorem escape_of_shortForms (h : (b, c) ∈ shortForms) : escape (b :: s) = .ok (c, s) := by
  simp only [shortForms, List.mem_cons, Prod.mk.injEq, List.not_mem_nil, or_false] at h
  obtain ⟨rfl, rfl⟩ | ⟨rfl, rfl⟩ | ⟨rfl, rfl⟩ | ⟨rfl, rfl⟩ | ⟨rfl, rfl⟩ | ⟨rfl, rfl⟩ | ⟨rfl, rfl⟩ |
    ⟨rfl, rfl⟩ := h <;> rfl

/-- No character is a half. -/
theorem escape_of_spellsUnit (h : SpellsUnit c.toNat s r) :
    escape (0x75 :: s) = .ok (c, r) := by
  have hvalid : c.toNat < 0xD800 ∨ 0xDFFF < c.toNat ∧ c.toNat < 0x110000 := c.valid
  rw [escape, numericEscape, hex4_of_spellsUnit h]
  simp only
  rw [if_neg (by omega), if_neg (by omega), Char.ofNat_toNat]

theorem escape_of_halves (hc : 0x10000 ≤ c.toNat)
    (hlead : SpellsUnit (leadingHalfOf c) s (0x5C :: 0x75 :: t))
    (htrail : SpellsUnit (trailingHalfOf c) t r) : escape (0x75 :: s) = .ok (c, r) := by
  have hvalid : c.toNat < 0xD800 ∨ 0xDFFF < c.toNat ∧ c.toNat < 0x110000 := c.valid
  have hsecond : trailingHalf (0x5C :: 0x75 :: t) = .ok (trailingHalfOf c, r) := by
    rw [trailingHalf, hex4_of_spellsUnit htrail]
    simp only
    rw [if_pos (by unfold trailingHalfOf; omega)]
  rw [escape, numericEscape, hex4_of_spellsUnit hlead]
  simp only
  rw [if_neg (by unfold leadingHalfOf; omega), if_pos (by unfold leadingHalfOf; omega), hsecond]
  simp only
  have hwhole : 0x10000 + (leadingHalfOf c - 0xD800) * 0x400 + (trailingHalfOf c - 0xDC00) =
      c.toNat := by
    unfold leadingHalfOf trailingHalfOf
    omega
  rw [hwhole, Char.ofNat_toNat]

/-! ## Strings -/

theorem keepString_escape (h : escape s = .ok (c, t)) :
    keepString done none (0x5C :: s) = keepString (c :: done) none t := by
  rw [keepString, if_neg (by decide), if_pos rfl]
  split
  · next he =>
    rw [h] at he
    cases he
  · next he =>
    rw [h] at he
    obtain ⟨rfl, rfl⟩ := Prod.mk.inj (Except.ok.inj he)
    rfl

theorem keepString_plain (hcontrol : 0x20 ≤ c.toNat) (hquote : c ≠ '"') (hescape : c ≠ '\\') :
    keepString done none (String.utf8EncodeChar c ++ s) = keepString (c :: done) none s := by
  obtain ⟨b, bs, hbs, hb, hstep⟩ := Utf8.step_encodeChar c s
  rw [UInt8.le_iff_toNat_le] at hb
  have hb : 0x80 ≤ b.toNat ∨ b.toNat = c.toNat := hb
  have hne {d : Char} (hd : c ≠ d) (hlow : d.toNat < 0x80) : b.toNat ≠ d.toNat := by
    intro he
    refine hd (Char.toNat_inj.mp ?_)
    omega
  rw [hbs, List.cons_append, keepString, if_neg, if_neg, if_neg]
  · split
    · next he =>
      rw [hstep] at he
      obtain ⟨hsome, rfl⟩ := Prod.mk.inj he
      obtain rfl := Option.some.inj hsome
      rfl
    · next he =>
      rw [hstep] at he
      cases he
  · rw [UInt8.lt_iff_toNat_lt]
    change ¬ b.toNat < 0x20
    omega
  · rintro rfl
    exact hne hescape (by decide) rfl
  · rintro rfl
    exact hne hquote (by decide) rfl

/-- **A text is read however it is written.** -/
theorem keepString_of_spells (h : Spells cs s r) :
    keepString done none s = .ok (done.reverse ++ cs, r) := by
  induction h generalizing done with
  | close => rw [keepString, if_pos rfl, List.append_nil]
  | plain hcontrol hquote hescape h ih =>
    rw [keepString_plain hcontrol hquote hescape, ih, List.reverse_cons, List.append_assoc]
    rfl
  | short hc h ih =>
    rw [keepString_escape (escape_of_shortForms hc), ih, List.reverse_cons, List.append_assoc]
    rfl
  | numeric hx h ih =>
    rw [keepString_escape (escape_of_spellsUnit hx), ih, List.reverse_cons, List.append_assoc]
    rfl
  | pair hc hlead htrail h ih =>
    rw [keepString_escape (escape_of_halves hc hlead htrail), ih, List.reverse_cons,
      List.append_assoc]
    rfl

/-- A written text is a string of the grammar. -/
theorem Spells.chars (h : Spells cs s r) : Chars s r := by
  have hk : keepString [] none s = .ok (cs, r) := keepString_of_spells h
  exact chars_of_keepString hk

/-! ## Every text can be written -/

theorem exists_spellsDigit {d : Nat} (h : d < 16) : ∃ b, SpellsDigit d b := by
  by_cases hd : d < 10
  · refine ⟨UInt8.ofNat (0x30 + d), .inl ⟨hd, ?_⟩⟩
    rw [UInt8.toNat_ofNat']
    omega
  · refine ⟨UInt8.ofNat (0x41 + (d - 10)), .inr ⟨Nat.le_of_not_lt hd, h, .inl ?_⟩⟩
    rw [UInt8.toNat_ofNat']
    omega

theorem exists_spellsUnit {n : Nat} (h : n < 0x10000) (r : List UInt8) : ∃ s, SpellsUnit n s r := by
  obtain ⟨b₁, h₁⟩ := exists_spellsDigit (d := n / 0x1000) (by omega)
  obtain ⟨b₂, h₂⟩ := exists_spellsDigit (d := n / 0x100 % 0x10) (by omega)
  obtain ⟨b₃, h₃⟩ := exists_spellsDigit (d := n / 0x10 % 0x10) (by omega)
  obtain ⟨b₄, h₄⟩ := exists_spellsDigit (d := n % 0x10) (by omega)
  have hs := SpellsUnit.digits (r := r) h₁ h₂ h₃ h₄
  have hn : n / 0x1000 * 0x1000 + n / 0x100 % 0x10 * 0x100 + n / 0x10 % 0x10 * 0x10 + n % 0x10 = n := by
    omega
  rw [hn] at hs
  exact ⟨_, hs⟩

/-- A character of the basic plane has a numeric escape, and any other may stand by itself. -/
theorem exists_spells (cs : List Char) (r : List UInt8) : ∃ s, Spells cs s r := by
  induction cs with
  | nil => exact ⟨_, .close⟩
  | cons c cs ih =>
    obtain ⟨s, hs⟩ := ih
    by_cases hc : c.toNat < 0x10000
    · obtain ⟨t, ht⟩ := exists_spellsUnit hc s
      exact ⟨_, .numeric ht hs⟩
    · refine ⟨_, .plain (by omega) ?_ ?_ hs⟩
      · rintro rfl
        exact hc (by decide)
      · rintro rfl
        exact hc (by decide)

end PolicyGate.Json
