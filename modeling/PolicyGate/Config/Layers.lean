import PolicyGate.Config.Schema
import PolicyGate.Text.Quoted
import PolicyGate.Width

/-!
# Layers of settings

The defaults lie lowest, over them the settings of a file if one is named, and over those the
variables of the environment. Main statement: **whatever is loaded can be used** (`usable_of_load`).
-/

namespace PolicyGate

namespace Config

/-! ## Numbers in variables -/

/-- Why a text is no number. -/
inductive NumberFault where
  | empty
  | invalidDigit
  | tooLarge
  deriving DecidableEq, Repr

def NumberFault.message : NumberFault → String
  | .empty => "cannot parse integer from empty string"
  | .invalidDigit => "invalid digit found in string"
  | .tooLarge => "number too large to fit in target type"

/-- Appends digits to a number of 64 bits. -/
def appendDigits (n : Nat) : List Char → Except NumberFault Nat
  | [] => .ok n
  | c :: cs =>
    if !c.isDigit then .error .invalidDigit
    else if Width.of64 ≤ n * 10 + (c.toNat - 48) then .error .tooLarge
    else appendDigits (n * 10 + (c.toNat - 48)) cs

/-- Reads a number of 64 bits. A plus sign may stand in front. -/
def readNumber : List Char → Except NumberFault Nat
  | [] => .error .empty
  | ['+'] => .error .invalidDigit
  | '+' :: cs => appendDigits 0 cs
  | cs => appendDigits 0 cs

/-! ## Variables -/

/-- The variables that set something. -/
inductive Variable where
  | listen
  | buildVersion
  | maxBody
  | maxCode
  | maxContext
  | windowMs
  | maxRequests
  | maxInflight
  | timeoutMs
  | fallbackDisabled
  deriving DecidableEq, Repr

def Variable.name : Variable → String
  | .listen => "OMNILINT_LISTEN"
  | .buildVersion => "BUILD_VERSION"
  | .maxBody => "VALIDATE_BODY_MAX"
  | .maxCode => "VALIDATE_CODE_MAX"
  | .maxContext => "VALIDATE_CONTEXT_MAX"
  | .windowMs => "VALIDATE_RATE_LIMIT_WINDOW_MS"
  | .maxRequests => "VALIDATE_RATE_LIMIT_MAX"
  | .maxInflight => "VALIDATE_MAX_INFLIGHT"
  | .timeoutMs => "ENGINE_TIMEOUT_MS"
  | .fallbackDisabled => "DISABLE_ENGINE_FALLBACK"

/-- All of them, in the order in which they are applied. -/
def Variable.all : List Variable :=
  [.listen, .buildVersion, .maxBody, .maxCode, .maxContext, .windowMs, .maxRequests,
    .maxInflight, .timeoutMs, .fallbackDisabled]

/-- Whether a text says yes: it is the word for true, in any case of its letters. -/
def saysTrue (raw : String) : Bool :=
  (Text.trim raw.toList).map Char.toLower == ['t', 'r', 'u', 'e']

/-- Reads a variable's number, and sets it. -/
def setNumber (v : Variable) (raw : String) (set : Nat → Config) : Except Fault Config :=
  match readNumber (Text.trim raw.toList) with
  | .ok n => .ok (set n)
  | .error e =>
    .error (.badRequest (v.name ++ "=" ++ Text.quoted raw ++ ": " ++ e.message))

/-- Sets what a variable sets. -/
def set (c : Config) (v : Variable) (raw : String) : Except Fault Config :=
  match v with
  | .listen => .ok { c with service.listen := raw }
  | .buildVersion => .ok { c with service.buildVersion := raw }
  | .maxBody => setNumber v raw fun n => { c with limits.maxBody := n }
  | .maxCode => setNumber v raw fun n => { c with limits.maxCode := n }
  | .maxContext => setNumber v raw fun n => { c with limits.maxContext := n }
  | .windowMs => setNumber v raw fun n => { c with rate.windowMs := n }
  | .maxRequests => setNumber v raw fun n => { c with rate.maxRequests := n }
  | .maxInflight => setNumber v raw fun n => { c with admission.maxInflight := n }
  | .timeoutMs => setNumber v raw fun n => { c with engines.timeoutMs := n }
  | .fallbackDisabled => .ok { c with engines.fallbackDisabled := saysTrue raw }

/-- The variables that are set, by name. -/
abbrev Lookup := String → Option String

/-- Applies variables in order, those that are set. -/
def override (lookup : Lookup) : List Variable → Config → Except Fault Config
  | [], c => .ok c
  | v :: vs, c =>
    match lookup v.name with
    | none => override lookup vs c
    | some raw =>
      match c.set v raw with
      | .error e => .error e
      | .ok c => override lookup vs c

/-! ## The whole -/

/-- The variable that names a file of settings. -/
def fileVariable : String := "OMNILINT_CONFIG"

/-- The path of the file of settings, if one is named. -/
def filePath? (lookup : Lookup) : Option String :=
  ((lookup fileVariable).map Text.trimmed).filter fun p => !p.isEmpty

/-- The settings below the variables. `read` gives the text of a file, or says why it has none. -/
def base (lookup : Lookup) (read : String → Except String String) : Except Fault Config :=
  match filePath? lookup with
  | none => .ok {}
  | some path =>
    match read path with
    | .error reason => .error (.internal ("read config failed: " ++ reason))
    | .ok text => parse text

/-- Loads the settings. -/
def load (lookup : Lookup) (read : String → Except String String) : Except Fault Config :=
  ((base lookup read).bind (override lookup Variable.all)).bind fun c => c.check.map fun _ => c

/-- Settings that were loaded can be used. -/
theorem usable_of_load {lookup : Lookup} {read : String → Except String String} {c : Config}
    (h : load lookup read = .ok c) : Usable c := by
  unfold load at h
  cases hb : (base lookup read).bind (override lookup Variable.all) with
  | error e => rw [hb] at h; cases h
  | ok b =>
    rw [hb] at h
    cases hc : b.check with
    | error e => simp [Except.bind, Except.map, hc] at h
    | ok u =>
      have : b = c := by simpa [Except.bind, Except.map, hc] using h
      exact this ▸ (check_eq_ok_iff b).1 hc

end Config

end PolicyGate
