import PolicyGate.Json.Value
import PolicyGate.Proofs.Json.Grammar

/-!
# What is read of a scalar is JSON

Readers of strings and numbers take what the grammar says, and no more. A reader follows its rule of
the grammar, so each is proved by its own recursion.

**Theorem (`chars_of_skipString`, `chars_of_keepString`).** A string that is passed over, or kept,
is one of the grammar.

**Theorem (`unsigned_of_skip`).** So is a number that is passed over.

A kept string is decoded as it is read. That a character, or a broken piece, has no quote in it is
`chars_of_follow`: behind a leading byte there are no bytes of ASCII.
-/

namespace PolicyGate.Json

variable {s t r : List UInt8} {b c : UInt8}

/-! ## Scalars -/

theorem eq_append_of_literal {word s r : List UInt8} (h : literal word s = .ok r) :
    s = word ++ r := by
  fun_induction literal word s with
  | case1 s =>
    obtain rfl := Except.ok.inj h
    rfl
  | case2 => cases h
  | case3 word c s ih => rw [ih h, List.cons_append]
  | case4 => cases h

theorem isHex_of_hexDigit? {n : Nat} (h : hexDigit? b = some n) : IsHex b := by
  unfold hexDigit? at h
  split at h
  · next hb => exact .inl hb
  · split at h
    · next hb => exact .inr (.inl hb)
    · split at h
      · next hb => exact .inr (.inr hb)
      · cases h

theorem hex4_of_hex4 {n : Nat} (h : hex4 s = .ok (n, r)) : Hex4 s r := by
  unfold hex4 at h
  split at h
  · split at h
    · next h₁ h₂ h₃ h₄ =>
      obtain ⟨-, rfl⟩ := Prod.mk.inj (Except.ok.inj h)
      exact .digits (isHex_of_hexDigit? h₁) (isHex_of_hexDigit? h₂) (isHex_of_hexDigit? h₃)
        (isHex_of_hexDigit? h₄)
    · cases h
  · cases h

theorem mem_shortEscapes {ch : Char} (h : shortEscape? c = some ch) : c ∈ shortEscapes := by
  unfold shortEscape? at h
  split at h <;> first | decide | cases h

/-- An escape that is passed over may stand in a string. -/
theorem chars_of_skipEscape (h : skipEscape s = .ok t) (hr : Chars t r) :
    Chars (0x5C :: s) r := by
  unfold skipEscape at h
  split at h
  · cases h
  · next s =>
    obtain ⟨⟨n, t'⟩, hx, rfl⟩ := Walk.eq_of_map h
    exact .numeric (hex4_of_hex4 hx) hr
  · split at h
    · next hc =>
      obtain rfl := Except.ok.inj h
      exact .short (mem_shortEscapes hc) hr
    · cases h

theorem chars_of_skipString (h : skipString s = .ok r) : Chars s r := by
  fun_induction skipString s with
  | case1 => cases h
  | case2 s =>
    obtain rfl := Except.ok.inj h
    exact .close
  | case3 => cases h
  | case4 s t he _ ih => exact chars_of_skipEscape he (ih h)
  | case5 => cases h
  | case6 c s hquote hescape hcontrol ih =>
    exact .plain (UInt8.not_lt.mp hcontrol) hquote hescape (ih h)

/-- The second half of a pair of escapes may stand in a string by itself. -/
theorem chars_of_trailingHalf {n : Nat} (h : trailingHalf s = .ok (n, t)) (hr : Chars t r) :
    Chars s r := by
  unfold trailingHalf at h
  split at h
  · cases h
  · cases h
  · split at h
    · cases h
    · next hx =>
      split at h
      · obtain ⟨-, rfl⟩ := Prod.mk.inj (Except.ok.inj h)
        exact .numeric (hex4_of_hex4 hx) hr
      · cases h
  · cases h
  · cases h

/-- An escape that is kept may stand in a string. -/
theorem chars_of_escape {ch : Char} (h : escape s = .ok (ch, t)) (hr : Chars t r) :
    Chars (0x5C :: s) r := by
  unfold escape at h
  split at h
  · cases h
  · unfold numericEscape at h
    split at h
    · cases h
    · next hx =>
      refine .numeric (hex4_of_hex4 hx) ?_
      split at h
      · cases h
      · split at h
        · split at h
          · cases h
          · next ht =>
            obtain ⟨-, rfl⟩ := Prod.mk.inj (Except.ok.inj h)
            exact chars_of_trailingHalf ht hr
        · obtain ⟨-, rfl⟩ := Prod.mk.inj (Except.ok.inj h)
          exact hr
  · split at h
    · next hc =>
      obtain ⟨-, rfl⟩ := Prod.mk.inj (Except.ok.inj h)
      exact .short (mem_shortEscapes hc) hr
    · cases h

/-- The bytes of a character, or of a broken piece, are none of those that end a string. -/
theorem chars_of_follow {value n : Nat} {low high : UInt8} (hlow : 0x80 ≤ low)
    (hr : Chars (Utf8.follow value low high n s).2 r) : Chars s r := by
  fun_induction Utf8.follow value low high n s with
  | case1 => exact hr
  | case2 => exact hr
  | case3 value low high n b s hb ih =>
    have hge : 0x80 ≤ b := UInt8.le_trans hlow hb.1
    refine .plain (UInt8.le_trans (by decide) hge) ?_ ?_ (ih (by decide) hr)
    · rintro rfl
      exact absurd hge (by decide)
    · rintro rfl
      exact absurd hge (by decide)
  | case4 => exact hr

theorem chars_of_step (hcontrol : 0x20 ≤ c) (hquote : c ≠ 0x22) (hescape : c ≠ 0x5C)
    (hr : Chars (Utf8.step c s).2 r) : Chars (c :: s) r := by
  refine .plain hcontrol hquote hescape ?_
  unfold Utf8.step at hr
  split at hr
  · exact hr
  · split at hr
    · exact hr
    · next hlead =>
      refine chars_of_follow ?_ hr
      unfold Utf8.lead? at hlead
      grind

theorem chars_of_keepString {done cs : List Char} {broken : Option Nat}
    (h : keepString done broken s = .ok (cs, r)) : Chars s r := by
  fun_induction keepString done broken s with
  | case1 => cases h
  | case2 =>
    obtain ⟨-, rfl⟩ := Prod.mk.inj (Except.ok.inj h)
    exact .close
  | case3 => cases h
  | case4 => cases h
  | case5 done broken s ch t he _ ih => exact chars_of_escape he (ih h)
  | case6 => cases h
  | case7 done broken c s hquote hescape hcontrol ch t hs ih =>
    refine chars_of_step (UInt8.not_lt.mp hcontrol) hquote hescape ?_
    rw [hs]
    exact ih h
  | case8 done broken c s hquote hescape hcontrol t hs ih =>
    refine chars_of_step (UInt8.not_lt.mp hcontrol) hquote hescape ?_
    rw [hs]
    exact ih h

/-! ## Numbers -/

theorem many_spanDigits (s : List UInt8) : Many Number.isDigit s (Number.spanDigits s).2 :=
  many_dropWhile Number.isDigit s

/-- Digits that were found in front are one at least. -/
theorem digits_of_spanDigits {ds : List UInt8} (hne : ds = [] → False)
    (h : Number.spanDigits s = (ds, r)) : Digits s r := by
  obtain ⟨rfl, rfl⟩ := Prod.mk.inj h
  cases s with
  | nil => exact absurd rfl hne
  | cons b s =>
    by_cases hb : Number.isDigit b = true
    · rw [List.dropWhile_cons_of_pos hb]
      exact .digits hb (many_dropWhile _ s)
    · rw [List.takeWhile_cons_of_neg hb] at hne
      exact absurd rfl hne

theorem sign_exponentSign (s : List UInt8) : Sign s (Number.exponentSign s).2 := by
  unfold Number.exponentSign
  split
  · exact .plus
  · exact .minus
  · exact .absent

theorem exponent_of_skipExponent {e : UInt8} (he : e = 0x65 ∨ e = 0x45)
    (h : Number.skipExponent s = .ok r) : Exponent (e :: s) r := by
  have hsign := sign_exponentSign s
  unfold Number.skipExponent at h
  split at h
  · cases h
  · next d t hd =>
    rw [hd] at hsign
    split at h
    · next hdigit =>
      obtain rfl := Except.ok.inj h
      exact .present he hsign (.digits hdigit (many_spanDigits t))
    · cases h

theorem tail_of_skipTail (h : Number.skipTail s = .ok r) :
    ∃ t, Fraction s t ∧ Exponent t r := by
  unfold Number.skipTail at h
  split at h
  · next s =>
    split at h
    · cases h
    · next digits after hne hd =>
      exact ⟨_, .present (digits_of_spanDigits hne hd), exponent_of_skipExponent (.inl rfl) h⟩
    · next digits after hne hd =>
      exact ⟨_, .present (digits_of_spanDigits hne hd), exponent_of_skipExponent (.inr rfl) h⟩
    · next digits after hne _ _ hd =>
      obtain rfl := Except.ok.inj h
      exact ⟨_, .present (digits_of_spanDigits hne hd), .absent⟩
  · exact ⟨_, .absent, exponent_of_skipExponent (.inl rfl) h⟩
  · exact ⟨_, .absent, exponent_of_skipExponent (.inr rfl) h⟩
  · obtain rfl := Except.ok.inj h
    exact ⟨_, .absent, .absent⟩

/-- A number that is passed over is one of the grammar. -/
theorem unsigned_of_skip (h : Number.skip s = .ok r) : Unsigned s r := by
  unfold Number.skip at h
  split at h
  · cases h
  · next c s =>
    split at h
    · next hzero =>
      subst hzero
      split at h
      · split at h
        · cases h
        · obtain ⟨t, hf, he⟩ := tail_of_skipTail h
          exact ⟨_, t, .zero, hf, he⟩
      · obtain rfl := Except.ok.inj h
        exact ⟨_, _, .zero, .absent, .absent⟩
    · next hzero =>
      split at h
      · next hdigit =>
        obtain ⟨t, hf, he⟩ := tail_of_skipTail h
        exact ⟨_, t, .digits hdigit hzero (many_spanDigits s), hf, he⟩
      · cases h

end PolicyGate.Json
