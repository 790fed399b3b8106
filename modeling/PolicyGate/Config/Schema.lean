import PolicyGate.Config.Basic
import PolicyGate.Config.Record

/-!
# Settings as YAML

The schema of a settings text: five sections, and the two engine commands in the last. A section or
a field that is left out has its default, and a command has defaults for all but its name and its
program.
-/

namespace PolicyGate

namespace Config

open Schema Yaml

/-! ## Commands -/

/-- A command whose name and program may still be missing. -/
structure Draft where
  name : Option String := none
  program : Option String := none
  args : List String := []
  contextFlag : Option String := none
  policyErrorCodes : List Int := []

/-- The command, once nothing is missing. -/
def Draft.finish (c : Draft) : Except Stop Command :=
  match c.name, c.program with
  | some name, some program => .ok ⟨name, program, c.args, c.contextFlag, c.policyErrorCodes⟩
  | none, _ => .error (.bare (.missingField "name"))
  | some _, none => .error (.bare (.missingField "program"))

def commandFields : List (Setting Draft) :=
  [.of "name" text fun c v => { c with name := some v },
    .of "program" text fun c v => { c with program := some v },
    .of "args" (list text) fun c v => { c with args := v },
    .of "context_flag" (optional text) fun c v => { c with contextFlag := v },
    .of "policy_error_exit_codes" (list exitCode) fun c v => { c with policyErrorCodes := v }]

def command : Decoder Command := record commandFields {} Draft.finish "struct EngineCommand"

/-! ## Sections -/

def serviceFields : List (Setting Service) :=
  [.of "listen" text fun s v => { s with listen := v },
    .of "build_version" text fun s v => { s with buildVersion := v }]

def serviceSection : Decoder Service := record serviceFields {} .ok "struct GatewaySection"

def limitsFields : List (Setting Limits) :=
  [.of "max_body_bytes" (number "usize") fun l v => { l with maxBody := v },
    .of "max_code_bytes" (number "usize") fun l v => { l with maxCode := v },
    .of "max_context_bytes" (number "usize") fun l v => { l with maxContext := v }]

def limitsSection : Decoder Limits :=
  record limitsFields standardLimits .ok "struct LimitsSection"

def rateFields : List (Setting Rate) :=
  [.of "window_ms" (number "u64") fun r v => { r with windowMs := v },
    .of "max_requests" (number "usize") fun r v => { r with maxRequests := v },
    .of "max_tracked_clients" (number "usize") fun r v => { r with maxTracked := v }]

def rateSection : Decoder Rate := record rateFields {} .ok "struct RateLimitSection"

def admissionFields : List (Setting Admission) :=
  [.of "max_inflight" (number "usize") fun a v => { a with maxInflight := v }]

def admissionSection : Decoder Admission :=
  record admissionFields {} .ok "struct AdmissionSection"

def engineFields : List (Setting Engines) :=
  [.of "primary" command fun e v => { e with primary := v },
    .of "secondary" (optional command) fun e v => { e with secondary := v },
    .of "timeout_ms" (number "u64") fun e v => { e with timeoutMs := v },
    .of "max_output_bytes" (number "usize") fun e v => { e with maxOutput := v },
    .of "disable_fallback" flag fun e v => { e with fallbackDisabled := v }]

def engineSection : Decoder Engines := record engineFields {} .ok "struct EngineSection"

def fields : List (Setting Config) :=
  [.of "gateway" serviceSection fun c v => { c with service := v },
    .of "limits" limitsSection fun c v => { c with limits := v },
    .of "rate_limit" rateSection fun c v => { c with rate := v },
    .of "admission" admissionSection fun c v => { c with admission := v },
    .of "engine" engineSection fun c v => { c with engines := v }]

/-! ## The whole text -/

/-- Decodes the settings of a document. -/
def ofDocument (d : Document) : Except Stop Config :=
  match record fields {} .ok "struct GatewayConfig" d [] d.root with
  | .error e => .error e
  | .ok c => if d.flaw.isNone then .ok c else .error .malformed

/-- The settings that a tree holds, if they can be used. -/
def ofTree (d : Document) : Except Fault Config :=
  match ofDocument d with
  | .error e => .error (.badRequest (e.message d))
  | .ok c => c.check.map fun _ => c

/-- The settings of a text. -/
def parse (yaml : String) : Except Fault Config := ofTree (load yaml)

end Config

end PolicyGate
