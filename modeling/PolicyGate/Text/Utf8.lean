/-!
# Reading UTF-8

A byte sequence is cut, from the front, into well-formed characters and *broken* pieces. A broken
piece is as long as a character could still have followed, and one byte at least. A lenient reading
shows each broken piece as one replacement character; a strict one ends at the first. Main
statements: **a character is read from its bytes** (`step_encodeChar`), and **a text is read from
what was written of it** (`lossy_encode`).
-/

namespace PolicyGate.Utf8

/-- The bytes of a text. -/
def encode (s : String) : List UInt8 := s.toList.flatMap String.utf8EncodeChar

/-- What a leading byte says: the bits it gives, the range of the next byte, and how many bytes
follow. -/
def lead? (b : UInt8) : Option (Nat × UInt8 × UInt8 × Nat) :=
  if 0xC2 ≤ b ∧ b ≤ 0xDF then some (b.toNat % 32, 0x80, 0xBF, 1)
  else if b = 0xE0 then some (0, 0xA0, 0xBF, 2)
  else if b = 0xED then some (13, 0x80, 0x9F, 2)
  else if 0xE1 ≤ b ∧ b ≤ 0xEF then some (b.toNat % 16, 0x80, 0xBF, 2)
  else if b = 0xF0 then some (0, 0x90, 0xBF, 3)
  else if 0xF1 ≤ b ∧ b ≤ 0xF3 then some (b.toNat % 8, 0x80, 0xBF, 3)
  else if b = 0xF4 then some (4, 0x80, 0x8F, 3)
  else none

/-- Reads the bytes that follow a leading byte. The first has to lie in the given range. -/
def follow (value : Nat) (low high : UInt8) : Nat → List UInt8 → Option Char × List UInt8
  | 0, rest => (some (Char.ofNat value), rest)
  | _ + 1, [] => (none, [])
  | n + 1, b :: rest =>
    if low ≤ b ∧ b ≤ high then follow (value * 64 + b.toNat % 64) 0x80 0xBF n rest
    else (none, b :: rest)

/-- The first character, or nothing for a broken piece, and what comes after it. -/
def step (b : UInt8) (rest : List UInt8) : Option Char × List UInt8 :=
  if b < 0x80 then (some (Char.ofNat b.toNat), rest)
  else
    match lead? b with
    | none => (none, rest)
    | some (value, low, high, n) => follow value low high n rest

theorem length_follow (value : Nat) (low high : UInt8) (n : Nat) (rest : List UInt8) :
    (follow value low high n rest).2.length ≤ rest.length := by
  fun_induction follow value low high n rest with
  | case1 => exact Nat.le_refl _
  | case2 => exact Nat.le_refl _
  | case3 _ _ _ _ _ _ _ ih => exact Nat.le_succ_of_le ih
  | case4 => exact Nat.le_refl _

theorem length_step (b : UInt8) (rest : List UInt8) :
    (step b rest).2.length ≤ rest.length := by
  rw [step]
  split
  · exact Nat.le_refl _
  · split
    · exact Nat.le_refl _
    · exact length_follow ..

/-- Adds the characters and broken pieces of a sequence to those before it. -/
def cut (done : Array (Option Char)) : List UInt8 → Array (Option Char)
  | [] => done
  | b :: rest => cut (done.push (step b rest).1) (step b rest).2
termination_by bytes => bytes.length
decreasing_by exact Nat.lt_succ_of_le (length_step b rest)

/-- The characters of a sequence and nothing for each broken piece. -/
def scalars (bytes : List UInt8) : List (Option Char) := (cut #[] bytes).toList

/-- The lenient reading. -/
def lossy (bytes : List UInt8) : List Char := (scalars bytes).map (·.getD '\uFFFD')

/-- The strict reading: nothing if any piece is broken. -/
def strict? (bytes : List UInt8) : Option (List Char) := (scalars bytes).mapM id

/-! ## Reading what was written -/

theorem lead?_two {k : Nat} (hlow : 2 ≤ k) (h : k < 32) :
    lead? (UInt8.ofNat (k + 192)) = some (k, 0x80, 0xBF, 1) := by
  have all : ∀ k : Fin 32, 2 ≤ k.val →
      lead? (UInt8.ofNat (k.val + 192)) = some (k.val, 0x80, 0xBF, 1) := by decide
  exact all ⟨k, h⟩ hlow

/-- Of three bytes, the second is large enough behind the least lead, for the character not to fit
into two, and small enough behind another, for it to be no surrogate. -/
theorem lead?_three {k : Nat} (h : k < 16) :
    lead? (UInt8.ofNat (k + 224)) =
      some (k, if k = 0 then 0xA0 else 0x80, if k = 13 then 0x9F else 0xBF, 2) := by
  have all : ∀ k : Fin 16, lead? (UInt8.ofNat (k.val + 224)) =
      some (k.val, if k.val = 0 then 0xA0 else 0x80, if k.val = 13 then 0x9F else 0xBF, 2) := by
    decide
  exact all ⟨k, h⟩

theorem lead?_four {k : Nat} (h : k < 5) :
    lead? (UInt8.ofNat (k + 240)) =
      some (k, if k = 0 then 0x90 else 0x80, if k = 4 then 0x8F else 0xBF, 3) := by
  have all : ∀ k : Fin 5, lead? (UInt8.ofNat (k.val + 240)) =
      some (k.val, if k.val = 0 then 0x90 else 0x80, if k.val = 4 then 0x8F else 0xBF, 3) := by
    decide
  exact all ⟨k, h⟩

theorem le_of_lead? {b : UInt8} {x : Nat × UInt8 × UInt8 × Nat} (h : lead? b = some x) :
    0x80 ≤ b := by
  unfold lead? at h
  grind

theorem step_of_lead? {b low high : UInt8} {value n : Nat} (rest : List UInt8)
    (h : lead? b = some (value, low, high, n)) : step b rest = follow value low high n rest := by
  rw [step, if_neg (UInt8.not_lt.mpr (le_of_lead? h)), h]

/-- A byte behind the first gives its six bits. -/
theorem follow_tail {low high : UInt8} {value v : Nat} (n : Nat) (rest : List UInt8)
    (hlow : low.toNat ≤ v % 64 + 128) (hhigh : v % 64 + 128 ≤ high.toNat) :
    follow value low high (n + 1) (UInt8.ofNat (v % 64 + 128) :: rest) =
      follow (value * 64 + v % 64) 0x80 0xBF n rest := by
  have hv : (UInt8.ofNat (v % 64 + 128)).toNat = v % 64 + 128 := by
    rw [UInt8.toNat_ofNat']
    omega
  rw [follow, if_pos, hv]
  · congr 2
    omega
  · rw [UInt8.le_iff_toNat_le, UInt8.le_iff_toNat_le, hv]
    exact ⟨hlow, hhigh⟩

theorem follow_inner (value v n : Nat) (rest : List UInt8) :
    follow value 0x80 0xBF (n + 1) (UInt8.ofNat (v % 64 + 128) :: rest) =
      follow (value * 64 + v % 64) 0x80 0xBF n rest := by
  refine follow_tail n rest (Nat.le_add_left ..) ?_
  change _ ≤ 191
  omega

/-- **A character is read from its bytes.** A byte below `0x80` is the character itself. -/
theorem step_encodeChar (c : Char) (rest : List UInt8) :
    ∃ b bs, String.utf8EncodeChar c = b :: bs ∧ (0x80 ≤ b ∨ b.toNat = c.toNat) ∧
      step b (bs ++ rest) = (some c, rest) := by
  have hvalid : c.toNat < 0xD800 ∨ 0xDFFF < c.toNat ∧ c.toNat < 0x110000 := c.valid
  obtain ⟨v, hv⟩ : ∃ v, v = c.toNat := ⟨_, rfl⟩
  have hval : c.val.toNat = v := hv.symm
  have read {n : Nat} (h : n = v) : Char.ofNat n = c := by rw [h, hv, Char.ofNat_toNat]
  rw [← hv] at hvalid ⊢
  simp only [String.utf8EncodeChar, hval]
  split
  · have hb : (UInt8.ofNat v).toNat = v := by
      rw [UInt8.toNat_ofNat']
      omega
    refine ⟨_, _, rfl, .inr hb, ?_⟩
    rw [step, if_pos, read hb]
    · rfl
    · rw [UInt8.lt_iff_toNat_lt, hb]
      exact Nat.lt_succ_of_le ‹_›
  · split
    · have hlead := lead?_two (k := v / 64 % 32) (by omega) (by omega)
      refine ⟨_, _, rfl, .inl (le_of_lead? hlead), ?_⟩
      rw [step_of_lead? _ hlead, List.cons_append, follow_inner, follow, read (by omega)]
      rfl
    · split
      · have hlead := lead?_three (k := v / 4096 % 16) (by omega)
        refine ⟨_, _, rfl, .inl (le_of_lead? hlead), ?_⟩
        rw [step_of_lead? _ hlead, List.cons_append, follow_tail, List.cons_append, follow_inner,
          follow, read (by omega)]
        · rfl
        · split
          · change 160 ≤ _
            omega
          · exact Nat.le_add_left ..
        · split
          · change _ ≤ 159
            omega
          · change _ ≤ 191
            omega
      · have hlead := lead?_four (k := v / 262144 % 8) (by omega)
        refine ⟨_, _, rfl, .inl (le_of_lead? hlead), ?_⟩
        rw [step_of_lead? _ hlead, List.cons_append, follow_tail, List.cons_append, follow_inner,
          List.cons_append, follow_inner, follow, read (by omega)]
        · rfl
        · split
          · change 144 ≤ _
            omega
          · exact Nat.le_add_left ..
        · split
          · change _ ≤ 143
            omega
          · change _ ≤ 191
            omega

theorem cut_encode (done : Array (Option Char)) (cs : List Char) :
    cut done (cs.flatMap String.utf8EncodeChar) = done ++ cs.map some := by
  induction cs generalizing done with
  | nil => simp [cut]
  | cons c cs ih =>
    obtain ⟨b, bs, hb, -, hstep⟩ := step_encodeChar c (cs.flatMap String.utf8EncodeChar)
    rw [List.flatMap_cons, hb, List.cons_append, cut, hstep, ih]
    simp

/-- **What was written is read, leniently too.** -/
theorem lossy_encode (s : String) : lossy (encode s) = s.toList := by
  rw [lossy, scalars, encode, cut_encode]
  simp [Function.comp_def]

end PolicyGate.Utf8
