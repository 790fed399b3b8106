import PolicyGate.Proofs.Json.Scalar

/-!
# What a walk passes over is JSON

* `Rest` — what comes behind an entry of an array or an object, up to and with the closing bracket.
* `Closes` — what ends all that is open on a stack.
* `Awaits` — what a walk still has to find.

**Theorem (`entry_of_skipValue`).** A value that is passed over is a value of the grammar.

A walk closes what is open long after it has been opened, so no stretch of it follows a rule of the
grammar. Instead a token is said to lead from what it leaves to find to what there was to find
before it (`awaits_token`), and a walk that comes to its end has found it all (`awaits_walk`).
-/

namespace PolicyGate.Json

/-! ## What is left of what is open -/

namespace Frame

/-- An entry of an array is a value, and one of an object a member. -/
def entry : Frame → Phrase
  | .array => .value
  | .object => .member

def entries : Frame → Phrase
  | .array => .elements
  | .object => .members

def whole : Frame → Phrase
  | .array => .array
  | .object => .object

def opening : Frame → UInt8
  | .array => 0x5B
  | .object => 0x7B

def closing : Frame → UInt8
  | .array => 0x5D
  | .object => 0x7D

/-- What has to come behind a comma. -/
def next : Frame → Await
  | .array => .item
  | .object => .key

end Frame

/-- An entry behind blanks. -/
def Entry (f : Frame) (s r : List UInt8) : Prop := ∃ t, Blanks s t ∧ Derives f.entry t r

/-- What comes behind an entry, up to and with the closing bracket. -/
inductive Rest (f : Frame) : List UInt8 → List UInt8 → Prop
  | close {s r} (h : Blanks s (f.closing :: r)) : Rest f s r
  | more {s t u r} (hc : Mark 0x2C s t) (hp : Derives f.entry t u) (h : Rest f u r) : Rest f s r

/-- What comes behind the opening bracket. -/
def Body (f : Frame) (s r : List UInt8) : Prop :=
  Blanks s (f.closing :: r) ∨ ∃ t, Entry f s t ∧ Rest f t r

variable {f : Frame} {s t r : List UInt8} {c : UInt8}

theorem Rest.entries (h : Rest f t r) (hp : Derives f.entry s t) :
    ∃ u, Derives f.entries s u ∧ Blanks u (f.closing :: r) := by
  induction h generalizing s with
  | close h =>
    cases f with
    | array => exact ⟨_, .element hp, h⟩
    | object => exact ⟨_, .ofMember hp, h⟩
  | more hc hp' h ih =>
    obtain ⟨u, hu, he⟩ := ih hp'
    cases f with
    | array => exact ⟨u, .elements hp hc hu, he⟩
    | object => exact ⟨u, .members hp hc hu, he⟩

/-- An opening bracket and what comes behind it are an array or an object. -/
theorem Body.derives (h : Body f s r) : Derives f.whole (f.opening :: s) r := by
  obtain h | ⟨t, ⟨u, hb, hp⟩, h⟩ := h
  · cases f with
    | array => exact .emptyArray h
    | object => exact .emptyObject h
  · obtain ⟨v, hv, he⟩ := h.entries hp
    cases f with
    | array => exact .array hb hv he
    | object => exact .object hb hv he

/-- What ends all that is open on a stack. -/
def Closes : List Frame → List UInt8 → List UInt8 → Prop
  | [], s, r => s = r
  | f :: outer, s, r => ∃ t, Rest f s t ∧ Closes outer t r

/-- What a walk still has to find. -/
def Awaits (stack : List Frame) (await : Await) (s r : List UInt8) : Prop :=
  match await with
  | .value | .item => ∃ t, Entry .array s t ∧ Closes stack t r
  | .key => ∃ t, Entry .object s t ∧ Closes stack t r
  | .firstItem => ∃ t, Body .array s t ∧ Closes stack.tail t r
  | .firstKey => ∃ t, Body .object s t ∧ Closes stack.tail t r
  | .comma => Closes stack s r

/-- The innermost of what is open is of the kind that is awaited. -/
def Apt (stack : List Frame) : Await → Prop
  | .value => True
  | .firstItem | .item => stack.head? = some .array
  | .firstKey | .key => stack.head? = some .object
  | .comma => stack ≠ []

/-! ## Steps of a walk -/

/-- What is left to find after a step. -/
def Walk.Next.Awaits : Walk.Next → List UInt8 → Prop
  | .done rest, r => rest = r
  | .go stack await rest, r => Json.Awaits stack await rest r

def Walk.Next.Apt : Walk.Next → Prop
  | .done _ => True
  | .go stack await _ => Json.Apt stack await

variable {stack : List Frame} {await : Await} {next : Walk.Next}

theorem apt_close (stack : List Frame) (s : List UInt8) : (Walk.close stack s).Apt := by
  cases stack with
  | nil => trivial
  | cons f outer => exact List.cons_ne_nil f outer

theorem awaits_close : (Walk.close stack s).Awaits r ↔ Closes stack s r := by
  cases stack <;> rfl

/-- A scalar that is passed over is a value. -/
theorem derives_of_scalar (h : Walk.scalar .skip c s = .ok r) : Derives .value (c :: s) r := by
  unfold Walk.scalar at h
  split at h
  · next hc =>
    subst hc
    exact .string (chars_of_skipString h)
  · split at h
    · next hc =>
      subst hc
      exact .negative (unsigned_of_skip h)
    · split at h
      · exact .number (unsigned_of_skip h)
      · split at h
        · next word hword =>
          have hs := eq_append_of_literal h
          unfold literalTail at hword
          split at hword
          · obtain rfl := Option.some.inj hword
            rw [hs]
            exact .null
          · obtain rfl := Option.some.inj hword
            rw [hs]
            exact .true
          · obtain rfl := Option.some.inj hword
            rw [hs]
            exact .false
          · cases hword
        · cases h

theorem blanks_of_colon (h : Walk.colon s = .ok r) : Blanks s (0x3A :: r) := by
  have hb := blanks_skipBlanks s
  unfold Walk.colon at h
  split at h
  · cases h
  · next c t hc =>
    rw [hc] at hb
    split at h
    · next hcolon =>
      subst hcolon
      obtain rfl := Except.ok.inj h
      exact hb
    · cases h

/-- A key and its colon. -/
theorem chars_of_key (h : Walk.key .skip s = .ok r) :
    ∃ t, Chars s t ∧ Blanks t (0x3A :: r) := by
  unfold Walk.key at h
  split at h
  · cases h
  · next t ht => exact ⟨t, chars_of_skipString ht, blanks_of_colon h⟩

/-- A token that opens a value leads to it. -/
theorem awaits_openValue (hs : Blanks s (c :: t))
    (h : Walk.openValue .skip stack c t = .ok next) :
    next.Apt ∧ (next.Awaits r → ∃ u, Entry .array s u ∧ Closes stack u r) := by
  unfold Walk.openValue at h
  split at h
  · next hc =>
    rw [if_neg (by simp)] at h
    split at h
    · next harray =>
      obtain rfl := Except.ok.inj h
      subst harray
      refine ⟨rfl, ?_⟩
      rintro ⟨u, hbody, hcloses⟩
      exact ⟨u, ⟨_, hs, .ofArray hbody.derives⟩, hcloses⟩
    · next harray =>
      obtain rfl := Except.ok.inj h
      obtain rfl := hc.resolve_left harray
      refine ⟨rfl, ?_⟩
      rintro ⟨u, hbody, hcloses⟩
      exact ⟨u, ⟨_, hs, .ofObject hbody.derives⟩, hcloses⟩
  · obtain ⟨u, hu, rfl⟩ := Walk.eq_of_map h
    refine ⟨apt_close stack u, ?_⟩
    intro hr
    exact ⟨u, ⟨_, hs, derives_of_scalar hu⟩, awaits_close.mp hr⟩

/-- A key leads to its member. -/
theorem awaits_key (hs : Blanks s (0x22 :: t))
    (h : (Walk.key .skip t).map (.go stack .value) = .ok next) :
    next.Apt ∧ (next.Awaits r → ∃ u, Entry .object s u ∧ Closes stack u r) := by
  obtain ⟨u, hu, rfl⟩ := Walk.eq_of_map h
  obtain ⟨v, hk, hc⟩ := chars_of_key hu
  refine ⟨trivial, ?_⟩
  rintro ⟨w, ⟨x, hb, hv⟩, hcloses⟩
  exact ⟨w, ⟨_, hs, .member hk ⟨u, hc, hb⟩ hv⟩, hcloses⟩

/-- Behind an entry there is a comma or the closing bracket. -/
theorem next_of_comma {outer : List Frame}
    (h : Walk.token .skip (f :: outer) .comma c t = .ok next) :
    c = 0x2C ∧ next = .go (f :: outer) f.next t ∨
      c = f.closing ∧ next = Walk.close outer t := by
  unfold Walk.token at h
  cases f with
  | array =>
    simp only at h
    split at h
    · next hc => exact .inl ⟨hc, (Except.ok.inj h).symm⟩
    · split at h
      · next hc => exact .inr ⟨hc, (Except.ok.inj h).symm⟩
      · cases h
  | object =>
    simp only at h
    split at h
    · next hc => exact .inl ⟨hc, (Except.ok.inj h).symm⟩
    · split at h
      · next hc => exact .inr ⟨hc, (Except.ok.inj h).symm⟩
      · cases h

/-- **A token leads from what it leaves to find to what there was to find before it.** -/
theorem awaits_token (hapt : Apt stack await) (hs : Blanks s (c :: t))
    (h : Walk.token .skip stack await c t = .ok next) :
    next.Apt ∧ (next.Awaits r → Awaits stack await s r) := by
  cases await with
  | value => exact awaits_openValue hs h
  | item =>
    simp only [Walk.token] at h
    split at h
    · cases h
    · exact awaits_openValue hs h
  | key =>
    simp only [Walk.token] at h
    split at h
    · next hc =>
      subst hc
      exact awaits_key hs h
    · split at h <;> cases h
  | firstItem =>
    obtain ⟨outer, rfl⟩ : ∃ outer, stack = .array :: outer := List.head?_eq_some_iff.mp hapt
    simp only [Walk.token] at h
    split at h
    · next hc =>
      subst hc
      obtain rfl := Except.ok.inj h
      exact ⟨apt_close outer t, fun hr => ⟨t, .inl hs, awaits_close.mp hr⟩⟩
    · obtain ⟨hnext, hleads⟩ := awaits_openValue hs h
      refine ⟨hnext, ?_⟩
      intro hr
      obtain ⟨u, hu, v, hrest, hcloses⟩ := hleads hr
      exact ⟨v, .inr ⟨u, hu, hrest⟩, hcloses⟩
  | firstKey =>
    obtain ⟨outer, rfl⟩ : ∃ outer, stack = .object :: outer := List.head?_eq_some_iff.mp hapt
    simp only [Walk.token] at h
    split at h
    · next hc =>
      subst hc
      obtain rfl := Except.ok.inj h
      exact ⟨apt_close outer t, fun hr => ⟨t, .inl hs, awaits_close.mp hr⟩⟩
    · split at h
      · next hc =>
        subst hc
        obtain ⟨hnext, hleads⟩ := awaits_key hs h
        refine ⟨hnext, ?_⟩
        intro hr
        obtain ⟨u, hu, v, hrest, hcloses⟩ := hleads hr
        exact ⟨v, .inr ⟨u, hu, hrest⟩, hcloses⟩
      · cases h
  | comma =>
    cases stack with
    | nil => exact absurd rfl hapt
    | cons f outer =>
    obtain ⟨rfl, rfl⟩ | ⟨rfl, rfl⟩ := next_of_comma h
    · refine ⟨by cases f <;> rfl, ?_⟩
      intro hr
      obtain ⟨u, ⟨v, hb, hp⟩, w, hrest, hcloses⟩ : ∃ u, Entry f t u ∧ Closes (f :: outer) u r := by
        cases f <;> exact hr
      exact ⟨w, .more ⟨t, hs, hb⟩ hp hrest, hcloses⟩
    · refine ⟨apt_close outer t, ?_⟩
      intro hr
      exact ⟨t, .close hs, awaits_close.mp hr⟩

/-- **A walk that comes to its end has found all it awaited.** -/
theorem awaits_walk (hapt : Apt stack await) (h : walk .skip stack await s = .ok r) :
    Awaits stack await s r := by
  fun_induction walk .skip stack await s with
  | case1 => cases h
  | case2 => cases h
  | case3 stack await s c t hs u ht =>
    obtain rfl := Except.ok.inj h
    exact (awaits_token hapt (blanks_of_skipBlanks hs) ht).2 rfl
  | case4 stack await s c t hs stack' await' u ht ih =>
    obtain ⟨hnext, hleads⟩ := awaits_token (r := r) hapt (blanks_of_skipBlanks hs) ht
    exact hleads (ih hnext h)

/-- **A value that is passed over is a value of the grammar.** -/
theorem entry_of_skipValue (h : skipValue s = .ok r) : Entry .array s r := by
  have hapt : Apt [] .value := trivial
  obtain ⟨t, ht, rfl⟩ := awaits_walk hapt h
  exact ht

end PolicyGate.Json
