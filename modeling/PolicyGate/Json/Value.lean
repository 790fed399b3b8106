import PolicyGate.Json.Number
import PolicyGate.Json.Scalar

/-!
# Walking over a JSON value

The walk goes from token to token and keeps the open arrays and objects on a stack. In the mode
`keep` scalars are read as values and nesting is limited; in the mode `skip` only their shape
matters. Main statement: **a walk that succeeds leaves a rest that is no longer than its text**
(`length_walk`).
-/

namespace PolicyGate.Json

/-- How closely a value is looked at. -/
inductive Mode where
  | keep
  | skip
  deriving DecidableEq, Repr

/-- An open array or object. -/
inductive Frame where
  | array
  | object
  deriving DecidableEq, Repr

/-- What has to come next. -/
inductive Await where
  /-- A value, after the start of the text or a colon. -/
  | value
  /-- The first item of an array, or its end. -/
  | firstItem
  /-- An item, after a comma. -/
  | item
  /-- The first key of an object, or its end. -/
  | firstKey
  /-- A key, after a comma. -/
  | key
  /-- A comma, or the end of what is open. -/
  | comma
  deriving DecidableEq, Repr

namespace Walk

/-- Keeps only the rest of a reading. -/
def dropValue {α : Type} (r : Reading α) : Except Stop (List UInt8) := r.map Prod.snd

/-- The nesting that a kept value must not reach. -/
def depthLimit : Nat := 128

/-- Reads a string after its opening quote. -/
def string (mode : Mode) (s : List UInt8) : Except Stop (List UInt8) :=
  match mode with
  | .keep => dropValue (keepString [] none s)
  | .skip => skipString s

/-- Reads a number after its sign. -/
def number (mode : Mode) (negative : Bool) (s : List UInt8) : Except Stop (List UInt8) :=
  match mode with
  | .keep => dropValue (Number.keep negative s)
  | .skip => Number.skip s

/-- Reads a scalar that starts with the given byte. -/
def scalar (mode : Mode) (c : UInt8) (rest : List UInt8) : Except Stop (List UInt8) :=
  if c = 0x22 then string mode rest
  else if c = 0x2D then number mode true rest
  else if Number.isDigit c then number mode false (c :: rest)
  else
    match literalTail c with
    | some word => literal word rest
    | none => .error (.on .expectedValue (c :: rest))

/-- Why a text may not end here. -/
def endReason (mode : Mode) (stack : List Frame) : Await → Reason
  | .value | .item => .eofValue
  | .firstItem => .eofArray
  | .firstKey => .eofObject
  | .key =>
    match mode with
    | .keep => .eofValue
    | .skip => .eofObject
  | .comma =>
    match stack with
    | .object :: _ => .eofObject
    | _ => .eofArray

/-- Why an end may not come right after a comma, in an array or in an object. -/
def commaReason (mode : Mode) (otherwise : Reason) : Reason :=
  match mode with
  | .keep => .trailingComma
  | .skip => otherwise

/-- Reads the colon behind a key. -/
def colon (s : List UInt8) : Except Stop (List UInt8) :=
  match skipBlanks s with
  | [] => .error (.on .eofObject [])
  | c :: rest => if c = 0x3A then .ok rest else .error (.on .expectedColon (c :: rest))

/-- Reads a key after its opening quote, and the colon behind it. -/
def key (mode : Mode) (s : List UInt8) : Except Stop (List UInt8) :=
  match string mode s with
  | .error e => .error e
  | .ok rest => colon rest

/-- What is left to do after one token: where the walk stands now. -/
inductive Next where
  /-- The value is complete. -/
  | done (rest : List UInt8)
  | go (stack : List Frame) (await : Await) (rest : List UInt8)

/-- Goes on behind a complete value. -/
def close (stack : List Frame) (rest : List UInt8) : Next :=
  match stack with
  | [] => .done rest
  | _ :: _ => .go stack .comma rest

/-- Takes the token that starts a value. -/
def openValue (mode : Mode) (stack : List Frame) (c : UInt8) (rest : List UInt8) :
    Except Stop Next :=
  if c = 0x5B ∨ c = 0x7B then
    if mode = .keep ∧ depthLimit ≤ stack.length + 1 then .error (.on .tooDeep (c :: rest))
    else if c = 0x5B then .ok (.go (.array :: stack) .firstItem rest)
    else .ok (.go (.object :: stack) .firstKey rest)
  else (scalar mode c rest).map (close stack)

/-- Takes one token, which starts with the given byte. -/
def token (mode : Mode) (stack : List Frame) (await : Await) (c : UInt8) (rest : List UInt8) :
    Except Stop Next :=
  match await with
  | .value => openValue mode stack c rest
  | .firstItem =>
    if c = 0x5D then .ok (close stack.tail rest) else openValue mode stack c rest
  | .item =>
    if c = 0x5D then .error (.on (commaReason mode .expectedValue) (c :: rest))
    else openValue mode stack c rest
  | .firstKey =>
    if c = 0x7D then .ok (close stack.tail rest)
    else if c = 0x22 then (key mode rest).map (.go stack .value)
    else .error (.on .keyNotString (c :: rest))
  | .key =>
    if c = 0x22 then (key mode rest).map (.go stack .value)
    else if c = 0x7D then .error (.on (commaReason mode .keyNotString) (c :: rest))
    else .error (.on .keyNotString (c :: rest))
  | .comma =>
    match stack with
    | .object :: outer =>
      if c = 0x2C then .ok (.go stack .key rest)
      else if c = 0x7D then .ok (close outer rest)
      else .error (.on .expectedObjectEnd (c :: rest))
    | _ =>
      if c = 0x2C then .ok (.go stack .item rest)
      else if c = 0x5D then .ok (close stack.tail rest)
      else .error (.on .expectedArrayEnd (c :: rest))

/-! ## Every token takes at least a byte -/

/-- What a step leaves to read. -/
def Next.rest : Next → List UInt8
  | .done rest => rest
  | .go _ _ rest => rest

theorem eq_of_map {α β : Type} {f : α → β} {r : Except Stop α} {b : β} (h : r.map f = .ok b) :
    ∃ a, r = .ok a ∧ f a = b := by
  cases r with
  | error e => cases h
  | ok a => exact ⟨a, rfl, Except.ok.inj h⟩

theorem eq_of_dropValue {α : Type} {r : Reading α} {rest : List UInt8}
    (h : dropValue r = .ok rest) : ∃ a, r = .ok (a, rest) := by
  obtain ⟨⟨a, _⟩, hr, rfl⟩ := eq_of_map h
  exact ⟨a, hr⟩

theorem length_string {mode : Mode} {s rest : List UInt8} (h : string mode s = .ok rest) :
    rest.length ≤ s.length := by
  cases mode
  · obtain ⟨_, hr⟩ := eq_of_dropValue h
    exact length_keepString hr
  · exact length_skipString h

theorem length_number {mode : Mode} {negative : Bool} {c : UInt8} {s rest : List UInt8}
    (h : number mode negative (c :: s) = .ok rest) : rest.length ≤ s.length := by
  cases mode
  · obtain ⟨_, hr⟩ := eq_of_dropValue h
    exact Number.length_keep hr
  · exact Number.length_skip h

theorem length_scalar {mode : Mode} {c : UInt8} {s rest : List UInt8}
    (h : scalar mode c s = .ok rest) : rest.length ≤ s.length := by
  unfold scalar at h
  split at h
  · exact length_string h
  · split at h
    · cases s with
      | nil => cases mode <;> cases h
      | cons d s => exact Nat.le_succ_of_le (length_number h)
    · split at h
      · exact length_number h
      · split at h
        · exact length_literal h
        · cases h

theorem length_colon {s rest : List UInt8} (h : colon s = .ok rest) :
    rest.length ≤ s.length := by
  have hb := length_skipBlanks s
  unfold colon at h
  split at h
  · cases h
  · next c after hc =>
    rw [hc, List.length_cons] at hb
    split at h
    · obtain rfl := Except.ok.inj h
      omega
    · cases h

theorem length_key {mode : Mode} {s rest : List UInt8} (h : key mode s = .ok rest) :
    rest.length ≤ s.length := by
  unfold key at h
  split at h
  · cases h
  · next hr => exact Nat.le_trans (length_colon h) (length_string hr)

theorem rest_close (stack : List Frame) (rest : List UInt8) : (close stack rest).rest = rest := by
  cases stack <;> rfl

theorem length_openValue {mode : Mode} {stack : List Frame} {c : UInt8} {s : List UInt8}
    {next : Next} (h : openValue mode stack c s = .ok next) : next.rest.length ≤ s.length := by
  unfold openValue at h
  split at h
  · split at h
    · cases h
    · split at h <;> (obtain rfl := Except.ok.inj h; exact Nat.le_refl _)
  · obtain ⟨r, hr, rfl⟩ := eq_of_map h
    rw [rest_close]
    exact length_scalar hr

theorem length_token {mode : Mode} {stack : List Frame} {await : Await} {c : UInt8}
    {s : List UInt8} {next : Next} (h : token mode stack await c s = .ok next) :
    next.rest.length ≤ s.length := by
  have closed : ∀ (st : List Frame), .ok (close st s) = Except.ok (ε := Stop) next →
      next.rest.length ≤ s.length := by
    intro st hn
    obtain rfl := Except.ok.inj hn
    exact Nat.le_of_eq (congrArg List.length (rest_close st s))
  have keyed : ∀ (st : List Frame), (key mode s).map (.go st .value) = .ok next →
      next.rest.length ≤ s.length := by
    intro st hn
    obtain ⟨r, hr, rfl⟩ := eq_of_map hn
    exact length_key hr
  have moved : ∀ (st : List Frame) (a : Await), .ok (.go st a s) = Except.ok (ε := Stop) next →
      next.rest.length ≤ s.length := by
    intro st a hn
    obtain rfl := Except.ok.inj hn
    exact Nat.le_refl _
  unfold token at h
  cases await with
  | value => exact length_openValue h
  | firstItem =>
    simp only at h
    split at h
    · exact closed _ h
    · exact length_openValue h
  | item =>
    simp only at h
    split at h
    · cases h
    · exact length_openValue h
  | firstKey =>
    simp only at h
    split at h
    · exact closed _ h
    · split at h
      · exact keyed _ h
      · cases h
  | key =>
    simp only at h
    split at h
    · exact keyed _ h
    · split at h <;> cases h
  | comma =>
    simp only at h
    split at h <;>
      (split at h
       · exact moved _ _ h
       · split at h
         · exact closed _ h
         · cases h)

end Walk

/-- Walks to the end of what is open. -/
def walk (mode : Mode) (stack : List Frame) (await : Await) (s : List UInt8) :
    Except Stop (List UInt8) :=
  match _hs : skipBlanks s with
  | [] => .error (.on (Walk.endReason mode stack await) [])
  | c :: rest =>
    match _ht : Walk.token mode stack await c rest with
    | .error e => .error e
    | .ok (.done rest) => .ok rest
    | .ok (.go stack await rest) => walk mode stack await rest
termination_by s.length
decreasing_by
  have h₁ := length_skipBlanks s
  have h₂ := Walk.length_token ‹_›
  simp_all only [List.length_cons, Walk.Next.rest]
  omega

theorem length_walk {mode : Mode} {stack : List Frame} {await : Await} {s rest : List UInt8}
    (h : walk mode stack await s = .ok rest) : rest.length < s.length := by
  fun_induction walk mode stack await s with
  | case1 => cases h
  | case2 => cases h
  | case3 _ _ s c t hs r ht =>
    obtain rfl := Except.ok.inj h
    have h₁ := length_skipBlanks s
    have h₂ := Walk.length_token ht
    rw [hs] at h₁
    simp only [List.length_cons, Walk.Next.rest] at h₁ h₂
    omega
  | case4 _ _ s c t hs _ _ r ht ih =>
    have h₀ := ih h
    have h₁ := length_skipBlanks s
    have h₂ := Walk.length_token ht
    rw [hs] at h₁
    simp only [List.length_cons, Walk.Next.rest] at h₁ h₂
    omega

/-- Passes over one value. -/
def skipValue (s : List UInt8) : Except Stop (List UInt8) := walk .skip [] .value s

/-- Reads one value that fills the whole text. -/
def checkWhole (s : List UInt8) : Except Stop Unit :=
  match walk .keep [] .value s with
  | .error e => .error e
  | .ok rest =>
    match skipBlanks rest with
    | [] => .ok ()
    | c :: more => .error (.on .trailingCharacters (c :: more))

end PolicyGate.Json
