import PolicyGate.Proofs.Json.Walk

/-!
# What is JSON is passed over

* `Ends` — no number could go on here.

**Theorem (`skipValue_of_entry`).** A value of the grammar is passed over to its end, if no number
could go on there.

This is the converse of what a walk passes over. In the grammar a run of digits may end before its
last digit, but a reader takes all of it; so what follows a phrase has to be known to end it. Behind
an entry of an array or an object there is a blank, a comma or a bracket, and only what follows the
whole value is left to ask for. Again no stretch of a walk follows a rule of the grammar: what there
is to find decides the next token, which leaves less to find (`leads_of_awaits`).
-/

namespace PolicyGate.Json

variable {s t u r : List UInt8} {b c : UInt8}

/-! ## Scalars -/

theorem literal_append (word s : List UInt8) : literal word (word ++ s) = .ok s := by
  induction word with
  | nil => rfl
  | cons w word ih =>
    rw [List.cons_append, literal, if_pos rfl]
    exact ih

theorem hexDigit?_of_isHex (h : IsHex b) : ∃ n, hexDigit? b = some n := by
  unfold hexDigit?
  split
  · exact ⟨_, rfl⟩
  · next hdigit =>
    split
    · exact ⟨_, rfl⟩
    · next hupper => exact ⟨_, if_pos ((h.resolve_left hdigit).resolve_left hupper)⟩

theorem hex4_of_isHex4 (h : Hex4 s r) : ∃ n, hex4 s = .ok (n, r) := by
  obtain ⟨h₁, h₂, h₃, h₄⟩ := h
  obtain ⟨n₁, h₁⟩ := hexDigit?_of_isHex h₁
  obtain ⟨n₂, h₂⟩ := hexDigit?_of_isHex h₂
  obtain ⟨n₃, h₃⟩ := hexDigit?_of_isHex h₃
  obtain ⟨n₄, h₄⟩ := hexDigit?_of_isHex h₄
  refine ⟨((n₁ * 16 + n₂) * 16 + n₃) * 16 + n₄, ?_⟩
  rw [hex4, h₁, h₂, h₃, h₄]

theorem skipString_escape (h : skipEscape s = .ok t) : skipString (0x5C :: s) = skipString t := by
  rw [skipString, if_neg (by decide), if_pos rfl]
  split
  · next he =>
    rw [h] at he
    cases he
  · next he =>
    rw [h] at he
    rw [Except.ok.inj he]

/-- A string of the grammar is passed over. -/
theorem skipString_of_chars (h : Chars s r) : skipString s = .ok r := by
  induction h with
  | close => rw [skipString, if_pos rfl]
  | plain hcontrol hquote hescape h ih =>
    rw [skipString, if_neg hquote, if_neg hescape, if_neg (UInt8.not_lt.mpr hcontrol)]
    exact ih
  | @short c s r hc h ih =>
    have hskip : skipEscape (c :: s) = .ok s := by
      simp only [shortEscapes, List.mem_cons, List.not_mem_nil, or_false] at hc
      obtain rfl | rfl | rfl | rfl | rfl | rfl | rfl | rfl := hc <;> rfl
    rw [skipString_escape hskip]
    exact ih
  | @numeric s t r hx h ih =>
    obtain ⟨n, hn⟩ := hex4_of_isHex4 hx
    have hskip : skipEscape (0x75 :: s) = .ok t := by
      rw [skipEscape, hn]
      rfl
    rw [skipString_escape hskip]
    exact ih

/-! ## Numbers -/

/-- A byte with which a number could go on. -/
def prolongs (b : UInt8) : Bool := Number.isDigit b || b = 0x2E || b = 0x65 || b = 0x45

/-- No number could go on here. -/
abbrev Ends : List UInt8 → Prop := Stops prolongs

theorem Ends.noDigit (h : Ends s) : Stops Number.isDigit s := by
  intro b hb
  have hb := h b hb
  simp only [prolongs, Bool.or_eq_false_iff] at hb
  exact hb.1.1.1

theorem isDigit_ne (hc : Number.isDigit c = true) (hb : Number.isDigit b = false) : c ≠ b := by
  rintro rfl
  rw [hc] at hb
  cases hb

theorem isBlank_of_isDigit (hc : Number.isDigit c = true) : isBlank c = false := by
  simp only [isBlank, isDigit_ne hc (b := 0x20) rfl, isDigit_ne hc (b := 0x0A) rfl,
    isDigit_ne hc (b := 0x09) rfl, isDigit_ne hc (b := 0x0D) rfl, decide_false, Bool.or_false]

theorem Exponent.noDigit (h : Exponent s r) (hr : Ends r) : Stops Number.isDigit s := by
  cases h with
  | absent => exact hr.noDigit
  | present hc _ _ => obtain rfl | rfl := hc <;> exact stops_cons.mpr rfl

theorem Fraction.noDigit (h : Fraction s t) (ht : Stops Number.isDigit t) :
    Stops Number.isDigit s := by
  cases h with
  | absent => exact ht
  | present _ => exact stops_cons.mpr rfl

/-- Digits that are followed by no other are those in front. -/
theorem spanDigits_of_digits (h : Digits s r) (hr : Stops Number.isDigit r) :
    ∃ d ds, Number.spanDigits s = (d :: ds, r) := by
  cases h with
  | @digits c s r hc h =>
    refine ⟨c, s.takeWhile Number.isDigit, ?_⟩
    rw [Number.spanDigits, List.takeWhile_cons_of_pos hc, List.dropWhile_cons_of_pos hc,
      dropWhile_of_many h hr]

/-- A sign in front of a digit is taken. -/
theorem exponentSign_of_sign (h : Sign s (c :: t)) (hc : Number.isDigit c = true) :
    (Number.exponentSign s).2 = c :: t := by
  cases h with
  | plus => rfl
  | minus => rfl
  | absent =>
    unfold Number.exponentSign
    split
    · next heq => exact absurd (List.cons.inj heq).1 (isDigit_ne hc rfl)
    · next heq => exact absurd (List.cons.inj heq).1 (isDigit_ne hc rfl)
    · rfl

theorem skipExponent_of_digits (hs : Sign s t) (h : Digits t r) (hr : Stops Number.isDigit r) :
    Number.skipExponent s = .ok r := by
  cases h with
  | digits hc h =>
    unfold Number.skipExponent
    rw [exponentSign_of_sign hs hc]
    simp only [if_pos hc, Number.spanDigits, dropWhile_of_many h hr]

/-- A fraction and an exponent are passed over. -/
theorem skipTail_of_fraction (hf : Fraction s t) (he : Exponent t r) (hr : Ends r) :
    Number.skipTail s = .ok r := by
  cases hf with
  | absent =>
    cases he with
    | absent =>
      unfold Number.skipTail
      split
      · exact absurd (stops_cons.mp hr) (by decide)
      · exact absurd (stops_cons.mp hr) (by decide)
      · exact absurd (stops_cons.mp hr) (by decide)
      · rfl
    | present hc hs h =>
      obtain rfl | rfl := hc <;> exact skipExponent_of_digits hs h hr.noDigit
  | present h =>
    obtain ⟨d, ds, hd⟩ := spanDigits_of_digits h (he.noDigit hr)
    simp only [Number.skipTail, hd]
    cases he with
    | absent =>
      split
      · next heq => cases heq
      · next heq =>
        obtain ⟨-, rfl⟩ := Prod.mk.inj heq
        exact absurd (stops_cons.mp hr) (by decide)
      · next heq =>
        obtain ⟨-, rfl⟩ := Prod.mk.inj heq
        exact absurd (stops_cons.mp hr) (by decide)
      · next heq =>
        obtain ⟨-, rfl⟩ := Prod.mk.inj heq
        rfl
    | present hc hs h' =>
      obtain rfl | rfl := hc <;> exact skipExponent_of_digits hs h' hr.noDigit

/-- A number of the grammar is passed over. -/
theorem skip_of_unsigned (h : Unsigned s r) (hr : Ends r) : Number.skip s = .ok r := by
  obtain ⟨t, u, hn, hf, he⟩ := h
  have hdigit : Stops Number.isDigit t := hf.noDigit (he.noDigit hr)
  have htail : Number.skipTail t = .ok r := skipTail_of_fraction hf he hr
  cases hn with
  | zero =>
    cases t with
    | nil => exact htail
    | cons d t =>
      simp only [Number.skip, if_true, stops_cons.mp hdigit, Bool.false_eq_true, if_false]
      exact htail
  | digits hc hzero h =>
    unfold Number.skip
    simp only [if_neg hzero, if_pos hc, Number.spanDigits, dropWhile_of_many h hdigit]
    exact htail

/-! ## What follows a value -/

theorem ends_of_blanks (h : Blanks s r) (hr : Ends r) : Ends s := by
  cases h with
  | none => exact hr
  | @more b s r hb h =>
    refine stops_cons.mpr ?_
    simp only [isBlank, Bool.or_eq_true, decide_eq_true_eq] at hb
    obtain ((rfl | rfl) | rfl) | rfl := hb <;> rfl

variable {f : Frame} {stack : List Frame}

/-- Behind an entry no number goes on. -/
theorem Rest.ends (h : Rest f s r) : Ends s := by
  cases h with
  | close h => exact ends_of_blanks h (stops_cons.mpr (by cases f <;> rfl))
  | more hc _ _ =>
    obtain ⟨v, hb, -⟩ := hc
    exact ends_of_blanks hb (stops_cons.mpr rfl)

theorem ends_of_closes (h : Closes stack s r) (hr : Ends r) : Ends s := by
  cases stack with
  | nil =>
    obtain rfl : s = r := h
    exact hr
  | cons f outer =>
    obtain ⟨t, hrest, -⟩ := h
    exact hrest.ends

/-- Entries up to the closing bracket are one, and what comes behind it. -/
theorem rest_of_entries (h : Derives f.entries s t) (he : Blanks t (f.closing :: r)) :
    ∃ u, Derives f.entry s u ∧ Rest f u r := by
  generalize hp : f.entries = p at h
  induction h with
  | element h | ofMember h =>
    cases f <;> cases hp
    exact ⟨_, h, .close he⟩
  | elements h hc _ _ ih | members h hc _ _ ih =>
    cases f <;> cases hp
    obtain ⟨u, hu, hrest⟩ := ih he rfl
    exact ⟨_, h, .more hc hu hrest⟩
  | _ => cases f <;> cases hp

/-- An array or an object is an opening bracket and what comes behind it. -/
theorem body_of_whole (h : Derives f.whole s r) : ∃ t, s = f.opening :: t ∧ Body f t r := by
  cases f with
  | array =>
    cases h with
    | emptyArray h => exact ⟨_, rfl, .inl h⟩
    | array hb h he =>
      obtain ⟨u, hu, hrest⟩ := rest_of_entries (f := .array) h he
      exact ⟨_, rfl, .inr ⟨u, ⟨_, hb, hu⟩, hrest⟩⟩
  | object =>
    cases h with
    | emptyObject h => exact ⟨_, rfl, .inl h⟩
    | object hb h he =>
      obtain ⟨u, hu, hrest⟩ := rest_of_entries (f := .object) h he
      exact ⟨_, rfl, .inr ⟨u, ⟨_, hb, hu⟩, hrest⟩⟩

/-! ## Steps of a walk -/

variable {await : Await}

theorem Unsigned.head (h : Unsigned s r) : ∃ c t, s = c :: t ∧ Number.isDigit c = true := by
  obtain ⟨_, _, hn, -, -⟩ := h
  cases hn with
  | zero => exact ⟨_, _, rfl, rfl⟩
  | digits hc _ _ => exact ⟨_, _, rfl, hc⟩

theorem scalar_of_unsigned (h : Unsigned (c :: s) r) (hc : Number.isDigit c = true) (hr : Ends r) :
    Walk.scalar .skip c s = .ok r := by
  rw [Walk.scalar, if_neg (isDigit_ne hc rfl), if_neg (isDigit_ne hc rfl), if_pos hc]
  exact skip_of_unsigned h hr

variable {await : Await}

/-- The token that starts a value is found. -/
theorem openValue_of_derives (h : Derives .value s t) (hc : Closes stack t r) (hr : Ends r) :
    ∃ c u next, s = c :: u ∧ isBlank c = false ∧ c ≠ 0x5D ∧
      Walk.openValue .skip stack c u = .ok next ∧ next.Apt ∧ next.Awaits r := by
  have ht : Ends t := ends_of_closes hc hr
  have scalar {c : UInt8} {u : List UInt8} (hblank : isBlank c = false) (hclose : c ≠ 0x5D)
      (hopen : ¬ (c = 0x5B ∨ c = 0x7B)) (hu : Walk.scalar .skip c u = .ok t) :
      ∃ c' u' next, c :: u = c' :: u' ∧ isBlank c' = false ∧ c' ≠ 0x5D ∧
        Walk.openValue .skip stack c' u' = .ok next ∧ next.Apt ∧ next.Awaits r := by
    refine ⟨c, u, Walk.close stack t, rfl, hblank, hclose, ?_, apt_close stack t,
      awaits_close.mpr hc⟩
    rw [Walk.openValue, if_neg hopen, hu]
    rfl
  cases h with
  | null => exact scalar rfl (by decide) (by decide) (literal_append [0x75, 0x6C, 0x6C] t)
  | true => exact scalar rfl (by decide) (by decide) (literal_append [0x72, 0x75, 0x65] t)
  | false => exact scalar rfl (by decide) (by decide) (literal_append [0x61, 0x6C, 0x73, 0x65] t)
  | string h => exact scalar rfl (by decide) (by decide) (skipString_of_chars h)
  | negative h => exact scalar rfl (by decide) (by decide) (skip_of_unsigned h ht)
  | number h =>
    obtain ⟨c, u, rfl, hdigit⟩ := h.head
    have hopen : ¬ (c = 0x5B ∨ c = 0x7B) := by
      rintro (hc | hc)
      · exact isDigit_ne hdigit rfl hc
      · exact isDigit_ne hdigit rfl hc
    exact scalar (isBlank_of_isDigit hdigit) (isDigit_ne hdigit rfl) hopen
      (scalar_of_unsigned h hdigit ht)
  | ofArray h =>
    obtain ⟨u, rfl, hbody⟩ := body_of_whole (f := .array) h
    exact ⟨_, u, _, rfl, rfl, by decide, rfl, rfl, t, hbody, hc⟩
  | ofObject h =>
    obtain ⟨u, rfl, hbody⟩ := body_of_whole (f := .object) h
    exact ⟨_, u, _, rfl, rfl, by decide, rfl, rfl, t, hbody, hc⟩

theorem colon_of_mark (h : Mark 0x3A s r) : ∃ t, Walk.colon s = .ok t ∧ Blanks t r := by
  obtain ⟨t, hs, ht⟩ := h
  refine ⟨t, ?_, ht⟩
  rw [Walk.colon, skipBlanks_of_blanks hs rfl]
  exact if_pos rfl

/-- A token is found behind blanks, and what it leaves to find comes next. -/
def Leads (stack : List Frame) (await : Await) (s r : List UInt8) : Prop :=
  ∃ c t next, skipBlanks s = c :: t ∧ Walk.token .skip stack await c t = .ok next ∧
    next.Apt ∧ next.Awaits r

theorem leads_of_value (ha : await = .value ∨ await = .firstItem ∨ await = .item)
    (h : Entry .array s t) (hc : Closes stack t r) (hr : Ends r) : Leads stack await s r := by
  obtain ⟨v, hb, hv⟩ := h
  obtain ⟨c, u, next, rfl, hblank, hclose, hopen, hnext⟩ := openValue_of_derives hv hc hr
  refine ⟨c, u, next, skipBlanks_of_blanks hb hblank, ?_, hnext⟩
  obtain rfl | rfl | rfl := ha
  · exact hopen
  · rw [Walk.token, if_neg hclose]
    exact hopen
  · rw [Walk.token, if_neg hclose]
    exact hopen

theorem leads_of_member (ha : await = .firstKey ∨ await = .key)
    (h : Entry .object s t) (hc : Closes stack t r) : Leads stack await s r := by
  obtain ⟨v, hb, hv⟩ := h
  cases hv with
  | @member s' _ _ _ hk hm hv =>
    obtain ⟨w, hcolon, hw⟩ := colon_of_mark hm
    have hkey : Walk.key .skip s' = .ok w := by
      rw [Walk.key, Walk.string, skipString_of_chars hk]
      exact hcolon
    refine ⟨_, _, .go stack .value w, skipBlanks_of_blanks hb rfl, ?_, trivial, t, ⟨_, hw, hv⟩, hc⟩
    obtain rfl | rfl := ha
    · rw [Walk.token, if_neg (by decide), if_pos rfl, hkey]
      rfl
    · rw [Walk.token, if_pos rfl, hkey]
      rfl

/-- Behind an entry a comma or the closing bracket is found. -/
theorem leads_of_rest {outer : List Frame} (h : Rest f s t) (hc : Closes outer t r) :
    Leads (f :: outer) .comma s r := by
  cases h with
  | close h =>
    refine ⟨f.closing, t, Walk.close outer t, skipBlanks_of_blanks h ?_, ?_, apt_close outer t,
      awaits_close.mpr hc⟩
    · cases f <;> rfl
    · cases f <;> rfl
  | more hm hp hrest =>
    obtain ⟨v, hs, hv⟩ := hm
    refine ⟨0x2C, v, .go (f :: outer) f.next v, skipBlanks_of_blanks hs rfl, ?_, ?_, ?_⟩
    · cases f <;> rfl
    · cases f <;> rfl
    · cases f <;> exact ⟨_, ⟨_, hv, hp⟩, t, hrest, hc⟩

/-- Behind an opening bracket an entry or the closing bracket is found. -/
theorem leads_of_body {outer : List Frame}
    (ha : f = .array ∧ await = .firstItem ∨ f = .object ∧ await = .firstKey)
    (h : Body f s t) (hc : Closes outer t r) (hr : Ends r) : Leads (f :: outer) await s r := by
  obtain hs | ⟨u, hp, hrest⟩ := h
  · obtain ⟨rfl, rfl⟩ | ⟨rfl, rfl⟩ := ha <;>
      exact ⟨_, t, Walk.close outer t, skipBlanks_of_blanks hs rfl, rfl, apt_close outer t,
        awaits_close.mpr hc⟩
  · obtain ⟨rfl, rfl⟩ | ⟨rfl, rfl⟩ := ha
    · exact leads_of_value (.inr (.inl rfl)) hp ⟨t, hrest, hc⟩ hr
    · exact leads_of_member (.inl rfl) hp ⟨t, hrest, hc⟩

/-- **What there is to find decides the next token, which leaves less to find.** -/
theorem leads_of_awaits (hapt : Apt stack await) (h : Awaits stack await s r) (hr : Ends r) :
    Leads stack await s r := by
  cases await with
  | value =>
    obtain ⟨t, ht, hc⟩ := h
    exact leads_of_value (.inl rfl) ht hc hr
  | item =>
    obtain ⟨t, ht, hc⟩ := h
    exact leads_of_value (.inr (.inr rfl)) ht hc hr
  | key =>
    obtain ⟨t, ht, hc⟩ := h
    exact leads_of_member (.inr rfl) ht hc
  | firstItem =>
    obtain ⟨outer, rfl⟩ : ∃ outer, stack = .array :: outer := List.head?_eq_some_iff.mp hapt
    obtain ⟨t, ht, hc⟩ := h
    exact leads_of_body (.inl ⟨rfl, rfl⟩) ht hc hr
  | firstKey =>
    obtain ⟨outer, rfl⟩ : ∃ outer, stack = .object :: outer := List.head?_eq_some_iff.mp hapt
    obtain ⟨t, ht, hc⟩ := h
    exact leads_of_body (.inr ⟨rfl, rfl⟩) ht hc hr
  | comma =>
    cases stack with
    | nil => exact absurd rfl hapt
    | cons f outer =>
      obtain ⟨t, ht, hc⟩ := h
      exact leads_of_rest ht hc

/-- **A walk comes to the end of what it awaits.** -/
theorem walk_of_awaits (hapt : Apt stack await) (h : Awaits stack await s r) (hr : Ends r) :
    walk .skip stack await s = .ok r := by
  fun_induction walk .skip stack await s with
  | case1 stack await s hs =>
    obtain ⟨_, _, _, hs', -⟩ := leads_of_awaits hapt h hr
    rw [hs] at hs'
    cases hs'
  | case2 stack await s c t hs e ht =>
    obtain ⟨_, _, _, hs', ht', -⟩ := leads_of_awaits hapt h hr
    obtain ⟨rfl, rfl⟩ := List.cons.inj (hs.symm.trans hs')
    cases ht.symm.trans ht'
  | case3 stack await s c t hs u ht =>
    obtain ⟨_, _, _, hs', ht', -, hnext⟩ := leads_of_awaits hapt h hr
    obtain ⟨rfl, rfl⟩ := List.cons.inj (hs.symm.trans hs')
    obtain rfl := Except.ok.inj (ht.symm.trans ht')
    exact congrArg Except.ok hnext
  | case4 stack await s c t hs stack' await' u ht ih =>
    obtain ⟨_, _, _, hs', ht', hapt', hnext⟩ := leads_of_awaits hapt h hr
    obtain ⟨rfl, rfl⟩ := List.cons.inj (hs.symm.trans hs')
    obtain rfl := Except.ok.inj (ht.symm.trans ht')
    exact ih hapt' hnext

/-- **A value of the grammar is passed over.** -/
theorem skipValue_of_entry (h : Entry .array s r) (hr : Ends r) : skipValue s = .ok r := by
  have hapt : Apt [] .value := trivial
  have hawaits : Awaits [] .value s r := ⟨r, h, rfl⟩
  exact walk_of_awaits hapt hawaits hr

end PolicyGate.Json
