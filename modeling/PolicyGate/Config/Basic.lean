import PolicyGate.Admission.Size
import PolicyGate.Text.Blank

/-!
# Settings

What can be set about the gateway, what holds where nothing is set, and which settings cannot be
used. Main statement: **settings are accepted exactly if they are usable** (`check_eq_ok_iff`),
where `Usable` says that every ceiling, window and number of places is positive and that every
engine has a program.
-/

namespace PolicyGate

/-- How an engine is started. -/
structure Command where
  name : String
  program : String
  args : List String
  /-- The flag that announces the path of a context, if the engine takes one. -/
  contextFlag : Option String
  /-- The exit codes by which the engine says that the policy itself is at fault. -/
  policyErrorCodes : List Int
  deriving DecidableEq, Repr

namespace Config

/-- How the gateway presents itself. -/
structure Service where
  listen : String := "0.0.0.0:8080"
  buildVersion : String := "unknown"
  deriving DecidableEq, Repr

/-- How many requests a client has in a window. -/
structure Rate where
  windowMs : Nat := 60000
  maxRequests : Nat := 30
  maxTracked : Nat := 10000
  deriving DecidableEq, Repr

/-- How many engines run at once. -/
structure Admission where
  maxInflight : Nat := 4
  deriving DecidableEq, Repr

structure Engines where
  primary : Command := ⟨"omnilang", "omnilang", ["exec"], some "--context", []⟩
  secondary : Option Command := some ⟨"omnilang-proto", "omnilang-proto", [], none, []⟩
  timeoutMs : Nat := 5000
  /-- The ceiling in bytes for each of the two outputs of an engine. -/
  maxOutput : Nat := 2097152
  fallbackDisabled : Bool := false
  deriving DecidableEq, Repr

/-- The ceilings where none are set. -/
def standardLimits : Limits := ⟨200000, 100000, 100000⟩

end Config

/-- All settings. -/
structure Config where
  service : Config.Service := {}
  limits : Limits := Config.standardLimits
  rate : Config.Rate := {}
  admission : Config.Admission := {}
  engines : Config.Engines := {}
  deriving DecidableEq, Repr

namespace Config

/-! ## Which settings can be used -/

/-- What is wrong with settings. -/
inductive Misfit where
  | limits
  | window
  | maxRequests
  | maxInflight
  | primaryProgram
  | secondaryProgram
  | timeout
  | maxOutput
  deriving DecidableEq, Repr

def Misfit.message : Misfit → String
  | .limits => "limits.* must be greater than 0"
  | .window => "rate_limit.window_ms must be greater than 0"
  | .maxRequests => "rate_limit.max_requests must be greater than 0"
  | .maxInflight => "admission.max_inflight must be greater than 0"
  | .primaryProgram => "engine.primary.program must not be empty"
  | .secondaryProgram => "engine.secondary.program must not be empty"
  | .timeout => "engine.timeout_ms must be greater than 0"
  | .maxOutput => "engine.max_output_bytes must be greater than 0"

def limitsFit (l : Limits) : Bool := l.maxBody != 0 && l.maxCode != 0 && l.maxContext != 0

/-- Whether a command names a program. -/
def hasProgram (c : Command) : Bool := !Text.allBlank c.program

/-- The demands on settings, in the order in which they are checked, and what is wrong where one is
not met. -/
def demands (c : Config) : List (Bool × Misfit) :=
  [(limitsFit c.limits, .limits),
    (c.rate.windowMs != 0, .window),
    (c.rate.maxRequests != 0, .maxRequests),
    (c.admission.maxInflight != 0, .maxInflight),
    (hasProgram c.engines.primary, .primaryProgram),
    (c.engines.secondary.all hasProgram, .secondaryProgram),
    (c.engines.timeoutMs != 0, .timeout),
    (c.engines.maxOutput != 0, .maxOutput)]

/-- The first demand that is not met. -/
def misfit? (c : Config) : Option Misfit := (c.demands.find? (!·.1)).map (·.2)

/-- Refuses settings that cannot be used. -/
def check (c : Config) : Except Fault Unit :=
  match c.misfit? with
  | none => .ok ()
  | some m => .error (.badRequest m.message)

/-- Settings that can be used. -/
structure Usable (c : Config) : Prop where
  maxBody : 0 < c.limits.maxBody
  maxCode : 0 < c.limits.maxCode
  maxContext : 0 < c.limits.maxContext
  windowMs : 0 < c.rate.windowMs
  maxRequests : 0 < c.rate.maxRequests
  maxInflight : 0 < c.admission.maxInflight
  primary : Text.allBlank c.engines.primary.program = false
  secondary : ∀ s ∈ c.engines.secondary, Text.allBlank s.program = false
  timeoutMs : 0 < c.engines.timeoutMs
  maxOutput : 0 < c.engines.maxOutput

theorem misfit?_eq_none_iff (c : Config) : c.misfit? = none ↔ Usable c := by
  have h : c.misfit? = none ↔ ∀ d ∈ c.demands, d.1 = true := by simp [misfit?]
  rw [h]
  simp only [demands, List.forall_mem_cons, limitsFit, hasProgram, Bool.and_eq_true, bne_iff_ne,
    Bool.not_eq_true', Option.all_eq_true]
  constructor
  · rintro ⟨⟨⟨h1, h2⟩, h3⟩, h4, h5, h6, h7, h8, h9, h10, -⟩
    exact ⟨by omega, by omega, by omega, by omega, by omega, by omega, h7, h8, by omega, by omega⟩
  · rintro ⟨h1, h2, h3, h4, h5, h6, h7, h8, h9, h10⟩
    exact ⟨⟨⟨by omega, by omega⟩, by omega⟩, by omega, by omega, by omega, h7, h8, by omega,
      by omega, by simp⟩

/-- Settings are accepted exactly if they can be used. -/
theorem check_eq_ok_iff (c : Config) : c.check = .ok () ↔ Usable c := by
  rw [← misfit?_eq_none_iff, check]
  cases c.misfit? <;> simp

end Config

end PolicyGate
