import Mathlib.Data.List.Basic
import PolicyGate.Config.Layers

/-!
# Layers lie one over the other

The settings that are loaded are those of the file, or else the defaults, with the variables laid
over them.

* `Decimal` — a numeral of 64 bits, and `Flawed`, what is wrong with a text that is none.
* `Below` — the settings below the variables.
* `Layered` — settings field by field, each from its variable or from below.
* `FirstWithout` — the first of some steps that fails.
* `Refused` — how loading fails, one rule for each step.

**Theorem (`load_by_layers`).** Settings are loaded if and only if they are the variables laid over
what is below, and can be used. There is one way to lay the variables over settings if their
numbers are sound, and else none. Loading fails with a fault if and only if it is the fault of the
first step that fails: reading the file, decoding it, checking it, the variables in order, checking
the whole.

A variable is applied as a change of one field (`laid`), so the order of the variables matters for
nothing but the fault: the run over all of them is one induction, and the fields of its result are
read off.
-/

namespace PolicyGate.Config

/-! ## What is asked for -/

/-- The first of some things that lacks a property. -/
def FirstWithout {α : Type} (P : α → Prop) (xs : List α) (x : α) : Prop :=
  ∃ before after, xs = before ++ x :: after ∧ (∀ y ∈ before, P y) ∧ ¬ P x

/-- A text is a decimal numeral of 64 bits, with one plus sign in front at most. -/
def Decimal (cs : List Char) (n : Nat) : Prop :=
  ∃ ds, (cs = ds ∨ cs = '+' :: ds) ∧ ds ≠ [] ∧ (∀ c ∈ ds, c.isDigit = true) ∧
    Nat.ofDigitChars 10 ds 0 = n ∧ n < Width.of64

/-- Digits that come to a number of 64 bits. -/
def Fitting (n : Nat) (ds : List Char) : Prop :=
  (∀ c ∈ ds, c.isDigit = true) ∧ Nat.ofDigitChars 10 ds n < Width.of64

/-- What is wrong with digits at the first character with which they do not fit any more. -/
def Breaks (n : Nat) (ds : List Char) (f : NumberFault) : Prop :=
  ∃ front c back, ds = front ++ c :: back ∧ Fitting n front ∧ ¬ Fitting n (front ++ [c]) ∧
    f = if c.isDigit then .tooLarge else .invalidDigit

/-- What is wrong with a text that is no numeral. -/
inductive Flawed : List Char → NumberFault → Prop
  | empty : Flawed [] .empty
  | lonePlus : Flawed ['+'] .invalidDigit
  | plus {ds : List Char} {f : NumberFault} (h : Breaks 0 ds f) : Flawed ('+' :: ds) f
  | unsigned {ds : List Char} {f : NumberFault} (hplus : ds.head? ≠ some '+') (h : Breaks 0 ds f) :
      Flawed ds f

/-- The path of the file that is named. -/
def Names (lookup : Lookup) (path : String) : Prop :=
  ∃ raw, lookup "OMNILINT_CONFIG" = some raw ∧ Text.allBlank raw = false ∧
    path = Text.trimmed raw

/-- The settings below the variables. A file that is named has to do by itself. -/
inductive Below (lookup : Lookup) (read : String → Except String String) : Config → Prop
  | standard (h : ∀ raw, lookup "OMNILINT_CONFIG" = some raw → Text.allBlank raw = true) :
      Below lookup read {}
  | file {path text : String} {c : Config} (hnamed : Names lookup path)
      (hread : read path = .ok text) (hdecoded : ofDocument (Yaml.load text) = .ok c)
      (husable : Usable c) : Below lookup read c

/-- A number that a variable sets, or that it leaves as it is below. -/
def NumberOver (lookup : Lookup) (name : String) (below n : Nat) : Prop :=
  match lookup name with
  | none => n = below
  | some raw => Decimal (Text.trim raw.toList) n

/-- A text is the word for true, each letter in either case. -/
def IsTrue (raw : String) : Prop :=
  List.Forall₂ (fun c l => c = l ∨ c = l.toUpper) (Text.trim raw.toList) ['t', 'r', 'u', 'e']

/-- Settings with the variables laid over others. -/
structure Layered (lookup : Lookup) (below c : Config) : Prop where
  listen : c.service.listen = (lookup "OMNILINT_LISTEN").getD below.service.listen
  buildVersion : c.service.buildVersion = (lookup "BUILD_VERSION").getD below.service.buildVersion
  maxBody : NumberOver lookup "VALIDATE_BODY_MAX" below.limits.maxBody c.limits.maxBody
  maxCode : NumberOver lookup "VALIDATE_CODE_MAX" below.limits.maxCode c.limits.maxCode
  maxContext :
    NumberOver lookup "VALIDATE_CONTEXT_MAX" below.limits.maxContext c.limits.maxContext
  windowMs :
    NumberOver lookup "VALIDATE_RATE_LIMIT_WINDOW_MS" below.rate.windowMs c.rate.windowMs
  maxRequests :
    NumberOver lookup "VALIDATE_RATE_LIMIT_MAX" below.rate.maxRequests c.rate.maxRequests
  maxInflight :
    NumberOver lookup "VALIDATE_MAX_INFLIGHT" below.admission.maxInflight c.admission.maxInflight
  timeoutMs : NumberOver lookup "ENGINE_TIMEOUT_MS" below.engines.timeoutMs c.engines.timeoutMs
  fallbackDisabled : c.engines.fallbackDisabled = true ↔
    match lookup "DISABLE_ENGINE_FALLBACK" with
    | none => below.engines.fallbackDisabled = true
    | some raw => IsTrue raw
  maxTracked : c.rate.maxTracked = below.rate.maxTracked
  primary : c.engines.primary = below.engines.primary
  secondary : c.engines.secondary = below.engines.secondary
  maxOutput : c.engines.maxOutput = below.engines.maxOutput

/-- The variables for numbers, in the order in which they are looked at. -/
def numberNames : List String :=
  ["VALIDATE_BODY_MAX", "VALIDATE_CODE_MAX", "VALIDATE_CONTEXT_MAX",
    "VALIDATE_RATE_LIMIT_WINDOW_MS", "VALIDATE_RATE_LIMIT_MAX", "VALIDATE_MAX_INFLIGHT",
    "ENGINE_TIMEOUT_MS"]

/-- A variable for a number is not set, or is set to a number. -/
def Sound (lookup : Lookup) (name : String) : Prop :=
  ∀ raw, lookup name = some raw → ∃ n, Decimal (Text.trim raw.toList) n

/-- All that can be wrong with settings, in the order in which it is looked for. -/
def Misfit.all : List Misfit :=
  [.limits, .window, .maxRequests, .maxInflight, .primaryProgram, .secondaryProgram, .timeout,
    .maxOutput]

/-- Whether settings are free of something wrong. -/
def Free (c : Config) : Misfit → Prop
  | .limits => 0 < c.limits.maxBody ∧ 0 < c.limits.maxCode ∧ 0 < c.limits.maxContext
  | .window => 0 < c.rate.windowMs
  | .maxRequests => 0 < c.rate.maxRequests
  | .maxInflight => 0 < c.admission.maxInflight
  | .primaryProgram => Text.allBlank c.engines.primary.program = false
  | .secondaryProgram => ∀ s ∈ c.engines.secondary, Text.allBlank s.program = false
  | .timeout => 0 < c.engines.timeoutMs
  | .maxOutput => 0 < c.engines.maxOutput

/-- How the settings below the variables fail. -/
inductive FileRefused (lookup : Lookup) (read : String → Except String String) : Fault → Prop
  | unreadable {path reason : String} (hnamed : Names lookup path)
      (hread : read path = .error reason) :
      FileRefused lookup read (.internal ("read config failed: " ++ reason))
  | malformed {path text : String} {stop : Schema.Stop} (hnamed : Names lookup path)
      (hread : read path = .ok text) (hdecoded : ofDocument (Yaml.load text) = .error stop) :
      FileRefused lookup read (.badRequest (stop.message (Yaml.load text)))
  | misfit {path text : String} {c : Config} {m : Misfit} (hnamed : Names lookup path)
      (hread : read path = .ok text) (hdecoded : ofDocument (Yaml.load text) = .ok c)
      (hfirst : FirstWithout c.Free Misfit.all m) :
      FileRefused lookup read (.badRequest m.message)

/-- How loading fails. -/
inductive Refused (lookup : Lookup) (read : String → Except String String) : Fault → Prop
  | file {e : Fault} (h : FileRefused lookup read e) : Refused lookup read e
  | noNumber {below : Config} {name raw : String} {f : NumberFault}
      (hbelow : Below lookup read below) (hfirst : FirstWithout (Sound lookup) numberNames name)
      (hset : lookup name = some raw) (hflaw : Flawed (Text.trim raw.toList) f) :
      Refused lookup read (.badRequest (name ++ "=" ++ Text.quoted raw ++ ": " ++ f.message))
  | misfit {below c : Config} {m : Misfit} (hbelow : Below lookup read below)
      (hlayered : Layered lookup below c) (hfirst : FirstWithout c.Free Misfit.all m) :
      Refused lookup read (.badRequest m.message)

variable {lookup : Lookup} {read : String → Except String String} {c below : Config}

/-! ## The first that fails -/

section

variable {α : Type} {P : α → Prop} {x y : α} {xs : List α}

theorem firstWithout_cons :
    FirstWithout P (x :: xs) y ↔ (¬ P x ∧ y = x) ∨ (P x ∧ FirstWithout P xs y) := by
  constructor
  · rintro ⟨before, after, heq, hbefore, hy⟩
    cases before with
    | nil =>
      obtain ⟨rfl, -⟩ := List.cons.inj heq
      exact .inl ⟨hy, rfl⟩
    | cons z before =>
      obtain ⟨rfl, rfl⟩ := List.cons.inj heq
      obtain ⟨hx, hbefore⟩ := List.forall_mem_cons.mp hbefore
      exact .inr ⟨hx, before, after, rfl, hbefore, hy⟩
  · rintro (⟨hx, rfl⟩ | ⟨hx, before, after, rfl, hbefore, hy⟩)
    · exact ⟨[], xs, rfl, fun _ h => absurd h List.not_mem_nil, hx⟩
    · exact ⟨x :: before, after, rfl, List.forall_mem_cons.mpr ⟨hx, hbefore⟩, hy⟩

theorem not_firstWithout_nil : ¬ FirstWithout P [] y := by
  rintro ⟨before, after, heq, -⟩
  exact List.append_ne_nil_of_right_ne_nil _ (List.cons_ne_nil _ _) heq.symm

theorem forall_or_firstWithout (P : α → Prop) (xs : List α) :
    (∀ x ∈ xs, P x) ∨ ∃ y, FirstWithout P xs y := by
  induction xs with
  | nil => exact .inl fun _ h => absurd h List.not_mem_nil
  | cons x xs ih =>
    by_cases hx : P x
    · rw [List.forall_mem_cons]
      exact ih.imp (fun h => ⟨hx, h⟩) fun ⟨y, hy⟩ => ⟨y, firstWithout_cons.mpr (.inr ⟨hx, hy⟩)⟩
    · exact .inr ⟨x, firstWithout_cons.mpr (.inl ⟨hx, rfl⟩)⟩

end

/-! ## Numbers -/

theorem le_ofDigitChars (ds : List Char) (n : Nat) : n ≤ Nat.ofDigitChars 10 ds n := by
  rw [Nat.ofDigitChars_eq_ofDigitChars_zero]
  calc n ≤ 10 ^ ds.length * n := Nat.le_mul_of_pos_left n (Nat.pow_pos (by decide))
    _ ≤ _ := Nat.le_add_right _ _

theorem fitting_nil {n : Nat} : Fitting n [] ↔ n < Width.of64 :=
  ⟨fun h => h.2, fun h => ⟨fun _ hc => absurd hc List.not_mem_nil, h⟩⟩

theorem fitting_cons {n : Nat} {c : Char} {ds : List Char} :
    Fitting n (c :: ds) ↔ c.isDigit = true ∧ Fitting (n * 10 + (c.toNat - 48)) ds := by
  unfold Fitting
  rw [List.forall_mem_cons, Nat.ofDigitChars_cons, Nat.mul_comm 10 n, and_assoc]
  rfl

theorem Fitting.start {n : Nat} {ds : List Char} (h : Fitting n ds) : n < Width.of64 :=
  Nat.lt_of_le_of_lt (le_ofDigitChars ds n) h.2

theorem not_breaks_nil {n : Nat} {f : NumberFault} : ¬ Breaks n [] f := by
  rintro ⟨front, c, back, heq, -⟩
  exact List.append_ne_nil_of_right_ne_nil _ (List.cons_ne_nil _ _) heq.symm

/-- Digits break at the first, or else as those behind it do. -/
theorem breaks_cons {n : Nat} {c : Char} {ds : List Char} {f : NumberFault} (hn : n < Width.of64) :
    Breaks n (c :: ds) f ↔
      (¬ Fitting n [c] ∧ f = if c.isDigit then .tooLarge else .invalidDigit) ∨
      (Fitting n [c] ∧ Breaks (n * 10 + (c.toNat - 48)) ds f) := by
  constructor
  · rintro ⟨front, d, back, heq, hfront, hbreak, rfl⟩
    cases front with
    | nil =>
      obtain ⟨rfl, -⟩ := List.cons.inj heq
      exact .inl ⟨hbreak, rfl⟩
    | cons a front =>
      obtain ⟨rfl, rfl⟩ := List.cons.inj heq
      obtain ⟨hc, hrest⟩ := fitting_cons.mp hfront
      refine .inr ⟨fitting_cons.mpr ⟨hc, fitting_nil.mpr hrest.start⟩, front, d, back, rfl, hrest,
        fun h => hbreak (fitting_cons.mpr ⟨hc, h⟩), rfl⟩
  · rintro (⟨hbreak, rfl⟩ | ⟨hc, front, d, back, rfl, hfront, hbreak, rfl⟩)
    · exact ⟨[], c, ds, rfl, fitting_nil.mpr hn, hbreak, rfl⟩
    · exact ⟨c :: front, d, back, rfl, fitting_cons.mpr ⟨(fitting_cons.mp hc).1, hfront⟩,
        fun h => hbreak (fitting_cons.mp h).2, rfl⟩

/-- What reading a first digit comes to. -/
theorem appendDigits_cons (n : Nat) (c : Char) (ds : List Char) :
    (Fitting n [c] ∧ appendDigits n (c :: ds) = appendDigits (n * 10 + (c.toNat - 48)) ds) ∨
      (¬ Fitting n [c] ∧ appendDigits n (c :: ds) =
        .error (if c.isDigit then .tooLarge else .invalidDigit)) := by
  rw [fitting_cons, fitting_nil, appendDigits]
  cases hc : c.isDigit with
  | false => exact .inr ⟨fun h => Bool.false_ne_true h.1, rfl⟩
  | true =>
    by_cases hlarge : Width.of64 ≤ n * 10 + (c.toNat - 48)
    · exact .inr ⟨fun h => Nat.not_lt.mpr hlarge h.2, if_pos hlarge⟩
    · exact .inl ⟨⟨rfl, Nat.lt_of_not_le hlarge⟩, if_neg hlarge⟩

theorem appendDigits_eq_ok {n m : Nat} {ds : List Char} (hn : n < Width.of64) :
    appendDigits n ds = .ok m ↔ Fitting n ds ∧ Nat.ofDigitChars 10 ds n = m := by
  induction ds generalizing n with
  | nil => rw [appendDigits, fitting_nil, Nat.ofDigitChars_nil, Except.ok.injEq, and_iff_right hn]
  | cons c ds ih =>
    rw [fitting_cons, Nat.ofDigitChars_cons, Nat.mul_comm 10 n]
    obtain ⟨hfit, heq⟩ | ⟨hbreak, heq⟩ := appendDigits_cons n c ds
    · obtain ⟨hc, hsmall⟩ := fitting_cons.mp hfit
      rw [heq, ih (fitting_nil.mp hsmall), and_iff_right hc]
      rfl
    · refine ⟨fun h => ?_, fun h => ?_⟩
      · rw [heq] at h
        cases h
      · exact absurd (fitting_cons.mpr ⟨h.1.1, fitting_nil.mpr h.1.2.start⟩) hbreak

theorem appendDigits_eq_error {n : Nat} {ds : List Char} {f : NumberFault} (hn : n < Width.of64) :
    appendDigits n ds = .error f ↔ Breaks n ds f := by
  induction ds generalizing n with
  | nil => exact ⟨fun h => (by cases h), fun h => absurd h not_breaks_nil⟩
  | cons c ds ih =>
    rw [breaks_cons hn]
    obtain ⟨hfit, heq⟩ | ⟨hbreak, heq⟩ := appendDigits_cons n c ds
    · rw [heq, ih (fitting_nil.mp (fitting_cons.mp hfit).2), and_iff_right hfit]
      exact ⟨.inr, fun h => h.resolve_left fun h => h.1 hfit⟩
    · rw [heq, Except.error.injEq, and_iff_right hbreak, eq_comm]
      exact ⟨.inl, fun h => h.resolve_right fun h => hbreak h.1⟩

/-- Behind a plus sign, or without one, the digits are read. -/
theorem readNumber_cases (cs : List Char) :
    cs = [] ∨ cs = ['+'] ∨
      (∃ ds, ds ≠ [] ∧ cs = '+' :: ds ∧ readNumber cs = appendDigits 0 ds) ∨
      (cs ≠ [] ∧ cs.head? ≠ some '+' ∧ readNumber cs = appendDigits 0 cs) := by
  cases cs with
  | nil => exact .inl rfl
  | cons c ds =>
    by_cases hc : c = '+'
    · subst hc
      cases ds with
      | nil => exact .inr (.inl rfl)
      | cons d ds => exact .inr (.inr (.inl ⟨d :: ds, List.cons_ne_nil _ _, rfl, rfl⟩))
    · refine .inr (.inr (.inr ⟨List.cons_ne_nil _ _, fun h => hc (Option.some.inj h), ?_⟩))
      rw [readNumber]
      · exact fun h => by cases h
      · exact fun h => hc (List.cons.inj h).1
      · exact fun ds h => hc (List.cons.inj h).1

theorem decimal_plus {ds : List Char} {n : Nat} :
    Decimal ('+' :: ds) n ↔ ds ≠ [] ∧ Fitting 0 ds ∧ Nat.ofDigitChars 10 ds 0 = n := by
  constructor
  · rintro ⟨ds', rfl | heq, hne, hdigits, rfl, hfit⟩
    · exact absurd (hdigits '+' List.mem_cons_self) (by decide)
    · obtain ⟨-, rfl⟩ := List.cons.inj heq
      exact ⟨hne, ⟨hdigits, hfit⟩, rfl⟩
  · rintro ⟨hne, ⟨hdigits, hfit⟩, rfl⟩
    exact ⟨ds, .inr rfl, hne, hdigits, rfl, hfit⟩

theorem decimal_of_unsigned {cs : List Char} {n : Nat} (hplus : cs.head? ≠ some '+') :
    Decimal cs n ↔ cs ≠ [] ∧ Fitting 0 cs ∧ Nat.ofDigitChars 10 cs 0 = n := by
  constructor
  · rintro ⟨ds, rfl | rfl, hne, hdigits, rfl, hfit⟩
    · exact ⟨hne, ⟨hdigits, hfit⟩, rfl⟩
    · exact absurd rfl hplus
  · rintro ⟨hne, ⟨hdigits, hfit⟩, rfl⟩
    exact ⟨cs, .inl rfl, hne, hdigits, rfl, hfit⟩

/-- **Numerals of 64 bits are read**, and nothing else. -/
theorem readNumber_eq_ok {cs : List Char} {n : Nat} : readNumber cs = .ok n ↔ Decimal cs n := by
  have hzero : 0 < Width.of64 := by decide
  obtain rfl | rfl | ⟨ds, hne, rfl, heq⟩ | ⟨hne, hplus, heq⟩ := readNumber_cases cs
  · rw [decimal_of_unsigned (by decide)]
    simp [readNumber]
  · rw [decimal_plus]
    simp [readNumber]
  · rw [heq, appendDigits_eq_ok hzero, decimal_plus, and_iff_right hne]
  · rw [heq, appendDigits_eq_ok hzero, decimal_of_unsigned hplus, and_iff_right hne]

/-- **What is wrong with a text is said of it.** -/
theorem readNumber_eq_error {cs : List Char} {f : NumberFault} :
    readNumber cs = .error f ↔ Flawed cs f := by
  have hzero : 0 < Width.of64 := by decide
  obtain rfl | rfl | ⟨ds, hne, rfl, heq⟩ | ⟨hne, hplus, heq⟩ := readNumber_cases cs
  · refine ⟨fun h => ?_, fun h => ?_⟩
    · cases h
      exact .empty
    · cases h with
      | empty => rfl
      | unsigned _ h => exact absurd h not_breaks_nil
  · refine ⟨fun h => ?_, fun h => ?_⟩
    · cases h
      exact .lonePlus
    · cases h with
      | lonePlus => rfl
      | plus h => exact absurd h not_breaks_nil
      | unsigned hplus _ => exact absurd rfl hplus
  · rw [heq, appendDigits_eq_error hzero]
    refine ⟨.plus, fun h => ?_⟩
    cases h with
    | lonePlus => exact absurd rfl hne
    | plus h => exact h
    | unsigned hplus _ => exact absurd rfl hplus
  · rw [heq, appendDigits_eq_error hzero]
    refine ⟨.unsigned hplus, fun h => ?_⟩
    cases h with
    | empty => exact absurd rfl hne
    | lonePlus => exact absurd rfl hplus
    | plus _ => exact absurd rfl hplus
    | unsigned _ h => exact h

/-- A text is a number, or something is wrong with it. -/
theorem flawed_iff {cs : List Char} : (∃ f, Flawed cs f) ↔ ¬ ∃ n, Decimal cs n := by
  simp only [← readNumber_eq_ok, ← readNumber_eq_error]
  cases readNumber cs <;> simp

/-! ## One variable -/

/-- The number that a variable sets, or the one below. -/
def numberOver (lookup : Lookup) (name : String) (below : Nat) : Nat :=
  match lookup name with
  | none => below
  | some raw => (readNumber (Text.trim raw.toList)).toOption.getD below

/-- Settings with one variable laid over them. -/
def laid (lookup : Lookup) (c : Config) : Variable → Config
  | .listen => { c with service.listen := (lookup "OMNILINT_LISTEN").getD c.service.listen }
  | .buildVersion =>
    { c with service.buildVersion := (lookup "BUILD_VERSION").getD c.service.buildVersion }
  | .maxBody =>
    { c with limits.maxBody := numberOver lookup "VALIDATE_BODY_MAX" c.limits.maxBody }
  | .maxCode =>
    { c with limits.maxCode := numberOver lookup "VALIDATE_CODE_MAX" c.limits.maxCode }
  | .maxContext =>
    { c with limits.maxContext := numberOver lookup "VALIDATE_CONTEXT_MAX" c.limits.maxContext }
  | .windowMs =>
    { c with rate.windowMs := numberOver lookup "VALIDATE_RATE_LIMIT_WINDOW_MS" c.rate.windowMs }
  | .maxRequests =>
    { c with rate.maxRequests := numberOver lookup "VALIDATE_RATE_LIMIT_MAX" c.rate.maxRequests }
  | .maxInflight =>
    { c with
      admission.maxInflight := numberOver lookup "VALIDATE_MAX_INFLIGHT" c.admission.maxInflight }
  | .timeoutMs =>
    { c with engines.timeoutMs := numberOver lookup "ENGINE_TIMEOUT_MS" c.engines.timeoutMs }
  | .fallbackDisabled =>
    { c with
      engines.fallbackDisabled :=
        ((lookup "DISABLE_ENGINE_FALLBACK").map saysTrue).getD c.engines.fallbackDisabled }

/-- Whether a variable is for a number. -/
def Variable.isNumber : Variable → Bool
  | .listen | .buildVersion | .fallbackDisabled => false
  | _ => true

variable {v : Variable} {vs : List Variable} {raw name : String} {e : Fault}

theorem numberOver_some (h : lookup name = some raw) {n : Nat}
    (hn : readNumber (Text.trim raw.toList) = .ok n) (below : Nat) :
    numberOver lookup name below = n := by
  simp only [numberOver, h, hn]
  rfl

/-- A variable that is not set lays nothing over. -/
theorem laid_of_none (h : lookup v.name = none) : laid lookup c v = c := by
  cases v <;> simp only [Variable.name] at h <;> simp only [laid, numberOver, h] <;> rfl

/-- A variable that is set well is laid over. -/
theorem set_of_sound (hset : lookup v.name = some raw)
    (hsound : v.isNumber = true → Sound lookup v.name) : c.set v raw = .ok (laid lookup c v) := by
  cases hv : v.isNumber with
  | false =>
    cases v <;> cases hv <;> simp only [Variable.name] at hset <;>
      simp only [Config.set, laid, hset, Option.getD_some, Option.map_some]
  | true =>
    obtain ⟨n, hn⟩ := hsound hv raw hset
    have hn := readNumber_eq_ok.mpr hn
    cases v <;> cases hv <;> simp only [Variable.name] at hset <;>
      simp only [Config.set, setNumber, laid, numberOver_some hset hn, hn]

/-- A variable for a number that is no number is refused. -/
theorem set_of_flawed {f : NumberFault} (hv : v.isNumber = true)
    (hflaw : Flawed (Text.trim raw.toList) f) :
    c.set v raw = .error (.badRequest (v.name ++ "=" ++ Text.quoted raw ++ ": " ++ f.message)) := by
  have hf := readNumber_eq_error.mpr hflaw
  cases v <;> cases hv <;> simp only [Config.set, setNumber, hf]

/-! ## All variables -/

/-- The names of the variables for numbers among some. -/
def numbersOf (vs : List Variable) : List String :=
  (vs.filter Variable.isNumber).map Variable.name

theorem numbersOf_cons (v : Variable) (vs : List Variable) :
    numbersOf (v :: vs) = if v.isNumber then v.name :: numbersOf vs else numbersOf vs := by
  unfold numbersOf
  cases hv : v.isNumber with
  | false => rw [List.filter_cons_of_neg (by simp [hv]), if_neg Bool.false_ne_true]
  | true => rw [List.filter_cons_of_pos hv, if_pos rfl, List.map_cons]

theorem numbersOf_all : numbersOf Variable.all = numberNames := rfl

/-- **A variable that is not set, or set well, is laid over.** -/
theorem override_cons (hsound : v.isNumber = true → Sound lookup v.name) (vs : List Variable)
    (c : Config) : override lookup (v :: vs) c = override lookup vs (laid lookup c v) := by
  rw [override]
  cases hset : lookup v.name with
  | none => rw [laid_of_none hset]
  | some raw => simp only [set_of_sound hset hsound]

theorem override_of_sound (hsound : ∀ name ∈ numbersOf vs, Sound lookup name) (c : Config) :
    override lookup vs c = .ok (vs.foldl (laid lookup) c) := by
  induction vs generalizing c with
  | nil => rfl
  | cons v vs ih =>
    rw [numbersOf_cons] at hsound
    cases hv : v.isNumber with
    | false =>
      rw [hv, if_neg Bool.false_ne_true] at hsound
      rw [override_cons (fun h => absurd (hv.symm.trans h) Bool.false_ne_true), ih hsound,
        List.foldl_cons]
    | true =>
      rw [hv, if_pos rfl, List.forall_mem_cons] at hsound
      rw [override_cons (fun _ => hsound.1), ih hsound.2, List.foldl_cons]

/-- **The first variable that is set to no number is refused.** -/
theorem override_of_first {f : NumberFault}
    (hfirst : FirstWithout (Sound lookup) (numbersOf vs) name) (hset : lookup name = some raw)
    (hflaw : Flawed (Text.trim raw.toList) f) (c : Config) :
    override lookup vs c =
      .error (.badRequest (name ++ "=" ++ Text.quoted raw ++ ": " ++ f.message)) := by
  induction vs generalizing c with
  | nil => exact absurd hfirst not_firstWithout_nil
  | cons v vs ih =>
    rw [numbersOf_cons] at hfirst
    cases hv : v.isNumber with
    | false =>
      rw [hv, if_neg Bool.false_ne_true] at hfirst
      rw [override_cons (fun h => absurd (hv.symm.trans h) Bool.false_ne_true)]
      exact ih hfirst _
    | true =>
      rw [hv, if_pos rfl] at hfirst
      obtain ⟨-, rfl⟩ | ⟨hsound, hfirst⟩ := firstWithout_cons.mp hfirst
      · rw [override, hset]
        simp only [set_of_flawed hv hflaw]
      · rw [override_cons (fun _ => hsound)]
        exact ih hfirst _

/-- A variable for a number that is set to something else. -/
theorem exists_flaw (h : ¬ Sound lookup name) :
    ∃ raw f, lookup name = some raw ∧ Flawed (Text.trim raw.toList) f := by
  unfold Sound at h
  push Not at h
  obtain ⟨raw, hset, hnone⟩ := h
  obtain ⟨f, hflaw⟩ := flawed_iff.mpr (not_exists.mpr hnone)
  exact ⟨raw, f, hset, hflaw⟩

/-! ## Field by field -/

theorem numberOver_iff {below n : Nat} :
    NumberOver lookup name below n ↔ Sound lookup name ∧ n = numberOver lookup name below := by
  unfold NumberOver Sound numberOver
  cases hset : lookup name with
  | none => simp
  | some raw =>
    simp only [Option.some.injEq, forall_eq', ← readNumber_eq_ok]
    cases readNumber (Text.trim raw.toList) with
    | error f => simp
    | ok m => simp [Except.toOption, eq_comm]

/-- A letter of the word for true is met in either case. -/
theorem toLower_eq_iff {c l : Char} (hl : l ∈ ['t', 'r', 'u', 'e']) :
    c.toLower = l ↔ c = l ∨ c = l.toUpper := by
  have hletters : ∀ l ∈ ['t', 'r', 'u', 'e'],
      l.toUpper.toNat + 32 = l.toNat ∧ 97 ≤ l.toNat ∧ l.toNat ≤ 122 := by
    simp only [List.forall_mem_cons]
    exact ⟨by decide, by decide, by decide, by decide, fun _ h => absurd h List.not_mem_nil⟩
  obtain ⟨hupper, hlo, hhi⟩ := hletters l hl
  rw [← Char.toNat_inj, ← Char.toNat_inj, ← Char.toNat_inj]
  unfold Char.toLower
  split
  · next h =>
    have hc : 65 ≤ c.toNat ∧ c.toNat ≤ 90 := h
    have hlower : (c.val + ('a'.val - 'A'.val)).toNat = c.toNat + 32 := by
      rw [UInt32.toNat_add]
      show (c.toNat + 32) % _ = _
      omega
    show (c.val + ('a'.val - 'A'.val)).toNat = _ ↔ _
    omega
  · next h =>
    have hc : ¬ (65 ≤ c.toNat ∧ c.toNat ≤ 90) := h
    omega

theorem map_toLower_iff {ls : List Char} (hls : ∀ l ∈ ls, l ∈ ['t', 'r', 'u', 'e'])
    (cs : List Char) :
    cs.map Char.toLower = ls ↔ List.Forall₂ (fun c l => c = l ∨ c = l.toUpper) cs ls := by
  induction cs generalizing ls with
  | nil =>
    cases ls with
    | nil => exact iff_of_true rfl .nil
    | cons l ls => exact iff_of_false (fun h => by cases h) fun h => by cases h
  | cons c cs ih =>
    cases ls with
    | nil => exact iff_of_false (fun h => by cases h) fun h => by cases h
    | cons l ls =>
      obtain ⟨hl, hls⟩ := List.forall_mem_cons.mp hls
      rw [List.map_cons, List.cons.injEq, List.forall₂_cons, toLower_eq_iff hl, ih hls]

theorem saysTrue_iff (raw : String) : saysTrue raw = true ↔ IsTrue raw := by
  rw [saysTrue, beq_iff_eq]
  exact map_toLower_iff (fun _ h => h) _

/-- **Settings field by field** are what laying over one variable after the other comes to. -/
theorem layered_iff : Layered lookup below c ↔
    (∀ name ∈ numberNames, Sound lookup name) ∧ c = Variable.all.foldl (laid lookup) below := by
  have hdisabled : ∀ disabled : Bool, (disabled = true ↔
      match lookup "DISABLE_ENGINE_FALLBACK" with
      | none => below.engines.fallbackDisabled = true
      | some raw => IsTrue raw) ↔ disabled =
        ((lookup "DISABLE_ENGINE_FALLBACK").map saysTrue).getD below.engines.fallbackDisabled := by
    intro disabled
    cases lookup "DISABLE_ENGINE_FALLBACK" with
    | none => exact Bool.eq_iff_iff.symm
    | some raw =>
      show (disabled = true ↔ IsTrue raw) ↔ disabled = saysTrue raw
      rw [← saysTrue_iff]
      exact Bool.eq_iff_iff.symm
  constructor
  · intro h
    obtain ⟨hsbody, hbody⟩ := numberOver_iff.mp h.maxBody
    obtain ⟨hscode, hcode⟩ := numberOver_iff.mp h.maxCode
    obtain ⟨hscontext, hcontext⟩ := numberOver_iff.mp h.maxContext
    obtain ⟨hswindow, hwindow⟩ := numberOver_iff.mp h.windowMs
    obtain ⟨hsrequests, hrequests⟩ := numberOver_iff.mp h.maxRequests
    obtain ⟨hsinflight, hinflight⟩ := numberOver_iff.mp h.maxInflight
    obtain ⟨hstimeout, htimeout⟩ := numberOver_iff.mp h.timeoutMs
    refine ⟨?_, ?_⟩
    · simp only [numberNames, List.forall_mem_cons]
      exact ⟨hsbody, hscode, hscontext, hswindow, hsrequests, hsinflight, hstimeout,
        fun _ h => absurd h List.not_mem_nil⟩
    · calc c = ⟨⟨c.service.listen, c.service.buildVersion⟩,
            ⟨c.limits.maxBody, c.limits.maxCode, c.limits.maxContext⟩,
            ⟨c.rate.windowMs, c.rate.maxRequests, c.rate.maxTracked⟩, ⟨c.admission.maxInflight⟩,
            ⟨c.engines.primary, c.engines.secondary, c.engines.timeoutMs, c.engines.maxOutput,
              c.engines.fallbackDisabled⟩⟩ := rfl
        _ = _ := by
          rw [h.listen, h.buildVersion, hbody, hcode, hcontext, hwindow, hrequests, hinflight,
            htimeout, h.maxTracked, h.primary, h.secondary, h.maxOutput,
            (hdisabled _).mp h.fallbackDisabled]
          rfl
  · rintro ⟨hsound, rfl⟩
    simp only [numberNames, List.forall_mem_cons] at hsound
    obtain ⟨hbody, hcode, hcontext, hwindow, hrequests, hinflight, htimeout, -⟩ := hsound
    exact {
      listen := rfl
      buildVersion := rfl
      maxBody := numberOver_iff.mpr ⟨hbody, rfl⟩
      maxCode := numberOver_iff.mpr ⟨hcode, rfl⟩
      maxContext := numberOver_iff.mpr ⟨hcontext, rfl⟩
      windowMs := numberOver_iff.mpr ⟨hwindow, rfl⟩
      maxRequests := numberOver_iff.mpr ⟨hrequests, rfl⟩
      maxInflight := numberOver_iff.mpr ⟨hinflight, rfl⟩
      timeoutMs := numberOver_iff.mpr ⟨htimeout, rfl⟩
      fallbackDisabled := (hdisabled _).mpr rfl
      maxTracked := rfl
      primary := rfl
      secondary := rfl
      maxOutput := rfl }

/-! ## Checking -/

/-- Whether settings are free of something wrong, as it is checked. -/
def fits (c : Config) : Misfit → Bool
  | .limits => limitsFit c.limits
  | .window => c.rate.windowMs != 0
  | .maxRequests => c.rate.maxRequests != 0
  | .maxInflight => c.admission.maxInflight != 0
  | .primaryProgram => hasProgram c.engines.primary
  | .secondaryProgram => c.engines.secondary.all hasProgram
  | .timeout => c.engines.timeoutMs != 0
  | .maxOutput => c.engines.maxOutput != 0

theorem fits_iff (c : Config) (m : Misfit) : c.fits m = true ↔ c.Free m := by
  cases m <;>
    simp [fits, Free, limitsFit, hasProgram, Option.all_eq_true, Nat.pos_iff_ne_zero, and_assoc]

theorem misfit?_eq_find? (c : Config) : c.misfit? = Misfit.all.find? fun m => !c.fits m := by
  have hdemands : c.demands = Misfit.all.map fun m => (c.fits m, m) := rfl
  rw [misfit?, hdemands, List.find?_map, Option.map_map]
  exact Option.map_id'

/-- **The first thing wrong is found.** -/
theorem misfit?_eq_some_iff {m : Misfit} :
    c.misfit? = some m ↔ FirstWithout c.Free Misfit.all m := by
  rw [misfit?_eq_find?, List.find?_eq_some_iff_append]
  simp only [Bool.not_not, fits_iff, Bool.not_eq_true', ← Bool.not_eq_true]
  constructor
  · rintro ⟨hm, before, after, heq, hbefore⟩
    exact ⟨before, after, heq, hbefore, hm⟩
  · rintro ⟨before, after, heq, hbefore, hm⟩
    exact ⟨hm, before, after, heq, hbefore⟩

theorem check_eq_error_iff {e : Fault} :
    c.check = .error e ↔ ∃ m, FirstWithout c.Free Misfit.all m ∧ e = .badRequest m.message := by
  simp only [← misfit?_eq_some_iff, check]
  cases c.misfit? <;> simp [eq_comm]

/-- Settings are passed on if they can be used. -/
theorem checked_eq_ok_iff {b : Config} :
    (b.check.map fun _ => b) = .ok c ↔ b = c ∧ Usable c := by
  cases hb : b.check with
  | error e =>
    refine ⟨fun h => (by cases h), ?_⟩
    rintro ⟨rfl, husable⟩
    rw [(check_eq_ok_iff b).mpr husable] at hb
    cases hb
  | ok u =>
    refine ⟨fun h => ?_, fun h => congrArg Except.ok h.1⟩
    cases h
    exact ⟨rfl, (check_eq_ok_iff b).mp hb⟩

theorem checked_eq_error_iff {b : Config} {e : Fault} :
    (b.check.map fun _ => b) = .error e ↔
      ∃ m, FirstWithout b.Free Misfit.all m ∧ e = .badRequest m.message := by
  rw [← check_eq_error_iff]
  cases b.check <;> simp [Except.map]

/-! ## The file -/

theorem isEmpty_trimmed (raw : String) : (Text.trimmed raw).isEmpty = Text.allBlank raw := by
  rw [Bool.eq_iff_iff, String.isEmpty_iff, Text.trimmed, ← String.toList_inj, String.toList_ofList,
    Text.allBlank, List.all_eq_true]
  exact Text.trim_eq_nil_iff

theorem filePath?_eq_some_iff {path : String} :
    filePath? lookup = some path ↔ Names lookup path := by
  rw [filePath?, Option.filter_eq_some_iff, Option.map_eq_some_iff, Bool.not_eq_true']
  constructor
  · rintro ⟨⟨raw, hset, rfl⟩, hblank⟩
    exact ⟨raw, hset, (isEmpty_trimmed raw).symm.trans hblank, rfl⟩
  · rintro ⟨raw, hset, hblank, rfl⟩
    exact ⟨⟨raw, hset, rfl⟩, (isEmpty_trimmed raw).trans hblank⟩

theorem filePath?_eq_none_iff : filePath? lookup = none ↔
    ∀ raw, lookup "OMNILINT_CONFIG" = some raw → Text.allBlank raw = true := by
  rw [Option.eq_none_iff_forall_ne_some]
  simp only [ne_eq, filePath?_eq_some_iff, Names]
  constructor
  · intro h raw hset
    by_contra hblank
    exact h _ ⟨raw, hset, Bool.eq_false_iff.mpr hblank, rfl⟩
  · rintro h path ⟨raw, hset, hblank, -⟩
    exact Bool.false_ne_true (hblank.symm.trans (h raw hset))

theorem parse_of_error {text : String} {stop : Schema.Stop}
    (h : ofDocument (Yaml.load text) = .error stop) :
    parse text = .error (.badRequest (stop.message (Yaml.load text))) := by
  rw [parse, ofTree, h]

theorem parse_of_ok {text : String} {b : Config} (h : ofDocument (Yaml.load text) = .ok b) :
    parse text = b.check.map fun _ => b := by
  rw [parse, ofTree, h]

theorem base_of_blank
    (h : ∀ raw, lookup "OMNILINT_CONFIG" = some raw → Text.allBlank raw = true) :
    base lookup read = .ok {} := by
  rw [base, filePath?_eq_none_iff.mpr h]

theorem base_of_unreadable {path reason : String} (hnamed : Names lookup path)
    (hread : read path = .error reason) :
    base lookup read = .error (.internal ("read config failed: " ++ reason)) := by
  simp only [base, filePath?_eq_some_iff.mpr hnamed, hread]

theorem base_of_read {path text : String} (hnamed : Names lookup path)
    (hread : read path = .ok text) : base lookup read = parse text := by
  simp only [base, filePath?_eq_some_iff.mpr hnamed, hread]

/-- What is below the variables comes from the file, or the file is refused. -/
theorem base_cases (lookup : Lookup) (read : String → Except String String) :
    (∃ c, base lookup read = .ok c ∧ Below lookup read c) ∨
      ∃ e, base lookup read = .error e ∧ FileRefused lookup read e := by
  cases hpath : filePath? lookup with
  | none =>
    have hblank := filePath?_eq_none_iff.mp hpath
    exact .inl ⟨{}, base_of_blank hblank, .standard hblank⟩
  | some path =>
    have hnamed := filePath?_eq_some_iff.mp hpath
    cases hread : read path with
    | error reason => exact .inr ⟨_, base_of_unreadable hnamed hread, .unreadable hnamed hread⟩
    | ok text =>
      rw [base_of_read hnamed hread]
      cases hdecoded : ofDocument (Yaml.load text) with
      | error stop => exact .inr ⟨_, parse_of_error hdecoded, .malformed hnamed hread hdecoded⟩
      | ok b =>
        rw [parse_of_ok hdecoded]
        cases hchecked : b.check.map fun _ => b with
        | error e =>
          obtain ⟨m, hfirst, rfl⟩ := checked_eq_error_iff.mp hchecked
          exact .inr ⟨_, rfl, .misfit hnamed hread hdecoded hfirst⟩
        | ok c =>
          obtain ⟨rfl, husable⟩ := checked_eq_ok_iff.mp hchecked
          exact .inl ⟨b, rfl, .file hnamed hread hdecoded husable⟩

theorem Below.base_eq (h : Below lookup read c) : base lookup read = .ok c := by
  cases h with
  | standard hblank => exact base_of_blank hblank
  | file hnamed hread hdecoded husable =>
    rw [base_of_read hnamed hread, parse_of_ok hdecoded]
    exact checked_eq_ok_iff.mpr ⟨rfl, husable⟩

theorem FileRefused.base_eq {e : Fault} (h : FileRefused lookup read e) :
    base lookup read = .error e := by
  cases h with
  | unreadable hnamed hread => exact base_of_unreadable hnamed hread
  | malformed hnamed hread hdecoded => rw [base_of_read hnamed hread, parse_of_error hdecoded]
  | misfit hnamed hread hdecoded hfirst =>
    rw [base_of_read hnamed hread, parse_of_ok hdecoded]
    exact checked_eq_error_iff.mpr ⟨_, hfirst, rfl⟩

/-! ## The whole -/

theorem load_of_refused {e : Fault} (h : FileRefused lookup read e) :
    load lookup read = .error e := by
  rw [load, h.base_eq]
  rfl

theorem load_of_below (h : Below lookup read below) :
    load lookup read =
      (override lookup Variable.all below).bind fun c => c.check.map fun _ => c := by
  rw [load, h.base_eq]
  rfl

theorem load_of_layered (hbelow : Below lookup read below) (h : Layered lookup below c) :
    load lookup read = c.check.map fun _ => c := by
  obtain ⟨hsound, rfl⟩ := layered_iff.mp h
  rw [load_of_below hbelow, override_of_sound (numbersOf_all ▸ hsound)]
  rfl

theorem Refused.load_eq {e : Fault} (h : Refused lookup read e) : load lookup read = .error e := by
  cases h with
  | file h => exact load_of_refused h
  | noNumber hbelow hfirst hset hflaw =>
    rw [load_of_below hbelow, override_of_first (numbersOf_all ▸ hfirst) hset hflaw]
    rfl
  | misfit hbelow hlayered hfirst =>
    rw [load_of_layered hbelow hlayered]
    exact checked_eq_error_iff.mpr ⟨_, hfirst, rfl⟩

/-- Settings are loaded layer by layer, or some step fails. -/
theorem load_cases (lookup : Lookup) (read : String → Except String String) :
    (∃ c, load lookup read = .ok c ∧
      ∃ below, Below lookup read below ∧ Layered lookup below c ∧ Usable c) ∨
      ∃ e, load lookup read = .error e ∧ Refused lookup read e := by
  obtain ⟨below, -, hbelow⟩ | ⟨e, -, hrefused⟩ := base_cases lookup read
  · obtain hsound | ⟨name, hfirst⟩ := forall_or_firstWithout (Sound lookup) numberNames
    · have hlayered := layered_iff.mpr ⟨hsound, Eq.refl (Variable.all.foldl (laid lookup) below)⟩
      rw [load_of_layered hbelow hlayered]
      cases hchecked : (Variable.all.foldl (laid lookup) below).check.map
          fun _ => Variable.all.foldl (laid lookup) below with
      | ok c =>
        obtain ⟨rfl, husable⟩ := checked_eq_ok_iff.mp hchecked
        exact .inl ⟨_, rfl, below, hbelow, hlayered, husable⟩
      | error e =>
        obtain ⟨m, hfirst, rfl⟩ := checked_eq_error_iff.mp hchecked
        exact .inr ⟨_, rfl, .misfit hbelow hlayered hfirst⟩
    · obtain ⟨raw, f, hset, hflaw⟩ : ∃ raw f, lookup name = some raw ∧
          Flawed (Text.trim raw.toList) f := by
        obtain ⟨-, -, -, -, hunsound⟩ := hfirst
        exact exists_flaw hunsound
      have hrefused : Refused lookup read _ := .noNumber hbelow hfirst hset hflaw
      exact .inr ⟨_, hrefused.load_eq, hrefused⟩
  · exact .inr ⟨e, load_of_refused hrefused, .file hrefused⟩

/-- **Settings are loaded layer by layer**, or the first step that fails says why they are not. The
variables can be laid over other settings, and in one way, if and only if their numbers are
sound. -/
theorem load_by_layers (lookup : Lookup) (read : String → Except String String) :
    (∀ c, load lookup read = .ok c ↔
      ∃ below, Below lookup read below ∧ Layered lookup below c ∧ Usable c) ∧
    (∀ below, (∃! c, Layered lookup below c) ↔ ∀ name ∈ numberNames, Sound lookup name) ∧
    ∀ e, load lookup read = .error e ↔ Refused lookup read e := by
  refine ⟨fun c => ⟨fun h => ?_, ?_⟩, fun below => ⟨?_, fun hsound => ?_⟩,
    fun e => ⟨fun h => ?_, Refused.load_eq⟩⟩
  · obtain ⟨c', hc, hlayers⟩ | ⟨e, he, -⟩ := load_cases lookup read
    · obtain rfl := Except.ok.inj (h.symm.trans hc)
      exact hlayers
    · cases h.symm.trans he
  · rintro ⟨below, hbelow, hlayered, husable⟩
    rw [load_of_layered hbelow hlayered]
    exact checked_eq_ok_iff.mpr ⟨rfl, husable⟩
  · rintro ⟨c, hlayered, -⟩
    exact (layered_iff.mp hlayered).1
  · exact ⟨_, layered_iff.mpr ⟨hsound, rfl⟩, fun c hlayered => (layered_iff.mp hlayered).2⟩
  · obtain ⟨c, hc, -⟩ | ⟨e', he, hrefused⟩ := load_cases lookup read
    · cases h.symm.trans hc
    · obtain rfl := Except.error.inj (h.symm.trans he)
      exact hrefused

end PolicyGate.Config
