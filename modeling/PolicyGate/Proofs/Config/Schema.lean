import PolicyGate.Config.Schema
import PolicyGate.Proofs.Config.Record

/-!
# Settings are decoded strictly and field by field

The mappings of a tree of settings are checked by their keys, and each setting is looked up by its
way of names from the root.

* `parts` — the mappings of the schema, with the keys that they have and those that they need.
* `Faulty` — some mapping has a wrong key, has one twice, or lacks one that it needs.
* `Typed` — what is written has the types of the fields.
* `Spelled` — settings field by field, each as it is written or else the default.

**Theorem (`decoded_as_spelled`).** A faulty tree is refused as a bad request. A well-formed tree
that is not faulty is decoded to the settings that it spells out and to no others, and if its
values are typed there are such settings.

Each record is an instance of one theorem on records (`Layout.record_eq_ok_iff`), so what is left
is to follow the ways. A section that is left out and one that leaves out its fields come to the
same (`Layout.given_section`), since both start from the same record.
-/

namespace PolicyGate.Config

open Schema Yaml

/-! ## What is asked for -/

/-- A mapping of the schema: where it stands, which keys it has, and which of them it must have. -/
structure Part where
  way : List String
  names : List String
  required : List String := []

def commandPart (way : List String) : Part where
  way := way
  names := ["name", "program", "args", "context_flag", "policy_error_exit_codes"]
  required := ["name", "program"]

def parts : List Part :=
  [{ way := [], names := ["gateway", "limits", "rate_limit", "admission", "engine"] },
    { way := ["gateway"], names := ["listen", "build_version"] },
    { way := ["limits"], names := ["max_body_bytes", "max_code_bytes", "max_context_bytes"] },
    { way := ["rate_limit"], names := ["window_ms", "max_requests", "max_tracked_clients"] },
    { way := ["admission"], names := ["max_inflight"] },
    { way := ["engine"],
      names := ["primary", "secondary", "timeout_ms", "max_output_bytes", "disable_fallback"] },
    commandPart ["engine", "primary"],
    commandPart ["engine", "secondary"]]

/-- What is written at the end of a way of names. -/
def written (d : Document) (way : List String) : List Node := valuesAt d way d.root

/-- The keys of a mapping are those of a part, none of them twice, and none is missing. -/
structure Part.Fits (p : Part) (d : Document) (entries : List (Node × Node)) : Prop where
  strict : Strict d p.names entries
  complete : ∀ name ∈ p.required, valuesOf d name entries ≠ []

/-- Some mapping has a key that it must not have, or has twice, or lacks one that it must have. -/
def Faulty (d : Document) : Prop :=
  ∃ p ∈ parts, ∃ n ∈ written d p.way, IsMapping d n ∧ ¬ p.Fits d (entriesOf d n)

/-- Mappings stand where the schema has them. For the second engine a null will do. -/
def Mapped (d : Document) : Prop :=
  ∀ p ∈ parts, ∀ n ∈ written d p.way,
    IsMapping d n ∨ p.way = ["engine", "secondary"] ∧ IsNull (d.resolve n)

/-- What is written for a command has the types of its fields. -/
structure TypedCommand (d : Document) (n : Node) : Prop where
  name : ∀ m ∈ valuesAt d ["name"] n, ∃ v, IsText d m v
  program : ∀ m ∈ valuesAt d ["program"] n, ∃ v, IsText d m v
  args : ∀ m ∈ valuesAt d ["args"] n, ∃ v, IsListOf IsText d m v
  contextFlag : ∀ m ∈ valuesAt d ["context_flag"] n, ∃ v, IsNullOr IsText d m v
  policyErrorCodes :
    ∀ m ∈ valuesAt d ["policy_error_exit_codes"] n, ∃ v, IsListOf IsExitCode d m v

/-- All that is written has the type of its field. -/
structure Typed (d : Document) : Prop where
  texts : ∀ way ∈ [["gateway", "listen"], ["gateway", "build_version"]],
    ∀ n ∈ written d way, ∃ v, IsText d n v
  numbers : ∀ way ∈ [["limits", "max_body_bytes"], ["limits", "max_code_bytes"],
      ["limits", "max_context_bytes"], ["rate_limit", "window_ms"],
      ["rate_limit", "max_requests"], ["rate_limit", "max_tracked_clients"],
      ["admission", "max_inflight"], ["engine", "timeout_ms"], ["engine", "max_output_bytes"]],
    ∀ n ∈ written d way, ∃ v, IsNumber d n v
  flags : ∀ n ∈ written d ["engine", "disable_fallback"], ∃ v, IsFlag d n v
  commands : ∀ way ∈ [["engine", "primary"], ["engine", "secondary"]],
    ∀ n ∈ written d way, TypedCommand d n

/-- A mapping spells out a command. What it leaves out does not come from another command. -/
structure IsCommand (d : Document) (n : Node) (c : Command) : Prop where
  name : ∃ m ∈ valuesAt d ["name"] n, IsText d m c.name
  program : ∃ m ∈ valuesAt d ["program"] n, IsText d m c.program
  args : Given (IsListOf IsText d) [] (valuesAt d ["args"] n) c.args
  contextFlag : Given (IsNullOr IsText d) none (valuesAt d ["context_flag"] n) c.contextFlag
  policyErrorCodes : Given (IsListOf IsExitCode d) []
    (valuesAt d ["policy_error_exit_codes"] n) c.policyErrorCodes

/-- Settings are what a tree spells out, and what is left out has its default. -/
structure Spelled (d : Document) (c : Config) : Prop where
  listen : Given (IsText d) "0.0.0.0:8080" (written d ["gateway", "listen"]) c.service.listen
  buildVersion :
    Given (IsText d) "unknown" (written d ["gateway", "build_version"]) c.service.buildVersion
  maxBody : Given (IsNumber d) 200000 (written d ["limits", "max_body_bytes"]) c.limits.maxBody
  maxCode : Given (IsNumber d) 100000 (written d ["limits", "max_code_bytes"]) c.limits.maxCode
  maxContext :
    Given (IsNumber d) 100000 (written d ["limits", "max_context_bytes"]) c.limits.maxContext
  windowMs : Given (IsNumber d) 60000 (written d ["rate_limit", "window_ms"]) c.rate.windowMs
  maxRequests :
    Given (IsNumber d) 30 (written d ["rate_limit", "max_requests"]) c.rate.maxRequests
  maxTracked :
    Given (IsNumber d) 10000 (written d ["rate_limit", "max_tracked_clients"]) c.rate.maxTracked
  maxInflight :
    Given (IsNumber d) 4 (written d ["admission", "max_inflight"]) c.admission.maxInflight
  primary : Given (IsCommand d) ⟨"omnilang", "omnilang", ["exec"], some "--context", []⟩
    (written d ["engine", "primary"]) c.engines.primary
  secondary : Given (IsNullOr IsCommand d)
    (some ⟨"omnilang-proto", "omnilang-proto", [], none, []⟩)
    (written d ["engine", "secondary"]) c.engines.secondary
  timeoutMs : Given (IsNumber d) 5000 (written d ["engine", "timeout_ms"]) c.engines.timeoutMs
  maxOutput :
    Given (IsNumber d) 2097152 (written d ["engine", "max_output_bytes"]) c.engines.maxOutput
  fallbackDisabled :
    Given (IsFlag d) false (written d ["engine", "disable_fallback"]) c.engines.fallbackDisabled

variable {d : Document} {n : Node} {c : Config}

/-! ## The layouts of the records -/

def serviceLayout : Layout Service where
  fields :=
    [.of "listen" exact_text (·.listen) (fun s v => { s with listen := v }) fun _ _ => rfl,
      .of "build_version" exact_text (·.buildVersion) (fun s v => { s with buildVersion := v })
        fun _ _ => rfl]
  apart := by simp [Field.Apart, Field.of, Setting.of]
  ext {r r'} h := by
    cases r
    cases r'
    simpa [Field.of] using h

def limitsLayout : Layout Limits where
  fields :=
    [.of "max_body_bytes" (exact_number "usize") (·.maxBody) (fun l v => { l with maxBody := v })
        fun _ _ => rfl,
      .of "max_code_bytes" (exact_number "usize") (·.maxCode) (fun l v => { l with maxCode := v })
        fun _ _ => rfl,
      .of "max_context_bytes" (exact_number "usize") (·.maxContext)
        (fun l v => { l with maxContext := v }) fun _ _ => rfl]
  apart := by simp [Field.Apart, Field.of, Setting.of]
  ext {r r'} h := by
    cases r
    cases r'
    simpa [Field.of] using h

def rateLayout : Layout Rate where
  fields :=
    [.of "window_ms" (exact_number "u64") (·.windowMs) (fun r v => { r with windowMs := v })
        fun _ _ => rfl,
      .of "max_requests" (exact_number "usize") (·.maxRequests)
        (fun r v => { r with maxRequests := v }) fun _ _ => rfl,
      .of "max_tracked_clients" (exact_number "usize") (·.maxTracked)
        (fun r v => { r with maxTracked := v }) fun _ _ => rfl]
  apart := by simp [Field.Apart, Field.of, Setting.of]
  ext {r r'} h := by
    cases r
    cases r'
    simpa [Field.of] using h

def admissionLayout : Layout Admission where
  fields :=
    [.of "max_inflight" (exact_number "usize") (·.maxInflight)
      (fun a v => { a with maxInflight := v }) fun _ _ => rfl]
  apart := by simp
  ext {r r'} h := by
    cases r
    cases r'
    simpa [Field.of] using h

/-- A text that a draft must have in the end. -/
def Draft.text (name : String) (get : Draft → Option String) (put : Draft → Option String → Draft)
    (get_put : ∀ c v, get (put c v) = v) : Schema.Field Draft where
  setting := .of name Schema.text fun c v => put c (some v)
  Reads d n v := ∃ s, IsText d n s ∧ v = some s
  get := get
  put := put
  file_iff := by
    intro d path n r r'
    simp only [Setting.of, map_eq_ok_iff, exact_text d path n]
    exact ⟨fun ⟨s, hs, h⟩ => ⟨some s, ⟨s, hs, rfl⟩, h⟩, fun ⟨_, ⟨s, hs, hv⟩, h⟩ => ⟨s, hs, hv ▸ h⟩⟩
  get_put := get_put

def commandLayout : Layout Draft where
  fields :=
    [Draft.text "name" (·.name) (fun c v => { c with name := v }) fun _ _ => rfl,
      Draft.text "program" (·.program) (fun c v => { c with program := v }) fun _ _ => rfl,
      .of "args" (exact_list exact_text) (·.args) (fun c v => { c with args := v }) fun _ _ => rfl,
      .of "context_flag" (exact_optional exact_text) (·.contextFlag)
        (fun c v => { c with contextFlag := v }) fun _ _ => rfl,
      .of "policy_error_exit_codes" (exact_list exact_exitCode) (·.policyErrorCodes)
        (fun c v => { c with policyErrorCodes := v }) fun _ _ => rfl]
  apart := by simp [Field.Apart, Draft.text, Field.of, Setting.of]
  ext {r r'} h := by
    cases r
    cases r'
    simpa [Draft.text, Field.of] using h

/-- What a node means as a command. -/
def ReadsCommand (d : Document) (n : Node) (c : Command) : Prop :=
  ∃ draft, commandLayout.Reads {} d n draft ∧ draft.finish = .ok c

theorem exact_command : Exact command ReadsCommand := fun _ _ _ _ => commandLayout.record_eq_ok_iff

def engineLayout : Layout Engines where
  fields :=
    [.of "primary" exact_command (·.primary) (fun e v => { e with primary := v }) fun _ _ => rfl,
      .of "secondary" (exact_optional exact_command) (·.secondary)
        (fun e v => { e with secondary := v }) fun _ _ => rfl,
      .of "timeout_ms" (exact_number "u64") (·.timeoutMs) (fun e v => { e with timeoutMs := v })
        fun _ _ => rfl,
      .of "max_output_bytes" (exact_number "usize") (·.maxOutput)
        (fun e v => { e with maxOutput := v }) fun _ _ => rfl,
      .of "disable_fallback" exact_flag (·.fallbackDisabled)
        (fun e v => { e with fallbackDisabled := v }) fun _ _ => rfl]
  apart := by simp [Field.Apart, Field.of, Setting.of]
  ext {r r'} h := by
    cases r
    cases r'
    simpa [Field.of] using h

def rootLayout : Layout Config where
  fields :=
    [.of "gateway" (serviceLayout.exact_record {} "struct GatewaySection") (·.service)
        (fun c v => { c with service := v }) fun _ _ => rfl,
      .of "limits" (limitsLayout.exact_record standardLimits "struct LimitsSection") (·.limits)
        (fun c v => { c with limits := v }) fun _ _ => rfl,
      .of "rate_limit" (rateLayout.exact_record {} "struct RateLimitSection") (·.rate)
        (fun c v => { c with rate := v }) fun _ _ => rfl,
      .of "admission" (admissionLayout.exact_record {} "struct AdmissionSection") (·.admission)
        (fun c v => { c with admission := v }) fun _ _ => rfl,
      .of "engine" (engineLayout.exact_record {} "struct EngineSection") (·.engines)
        (fun c v => { c with engines := v }) fun _ _ => rfl]
  apart := by simp [Field.Apart, Field.of, Setting.of]
  ext {r r'} h := by
    cases r
    cases r'
    simpa [Field.of] using h

/-! ## What is decoded fits -/

/-- A tree is decoded if it is well formed and a record. -/
theorem ofDocument_eq_ok_iff :
    ofDocument d = .ok c ↔ rootLayout.Reads {} d d.root c ∧ d.flaw = none := by
  have hroot := rootLayout.exact_record {} "struct GatewayConfig" d [] d.root
  rw [ofDocument]
  cases hrecord : record fields {} .ok "struct GatewayConfig" d [] d.root with
  | error e =>
    refine ⟨fun h => (by cases h), fun ⟨hreads, _⟩ => ?_⟩
    cases hrecord.symm.trans ((hroot c).mpr hreads)
  | ok b =>
    have hb := (hroot b).mp hrecord
    cases hflaw : d.flaw with
    | some flaw => simp
    | none =>
      simp only [Option.isNone_none, if_true, Except.ok.injEq, and_true]
      refine ⟨fun h => h ▸ hb, fun h => ?_⟩
      exact Except.ok.inj (hrecord.symm.trans ((hroot c).mpr h))

theorem filled_root_iff {entries : List (Node × Node)} : rootLayout.Filled d entries {} c ↔
    Given (serviceLayout.Reads {} d) {} (valuesOf d "gateway" entries) c.service ∧
    Given (limitsLayout.Reads standardLimits d) standardLimits (valuesOf d "limits" entries)
      c.limits ∧
    Given (rateLayout.Reads {} d) {} (valuesOf d "rate_limit" entries) c.rate ∧
    Given (admissionLayout.Reads {} d) {} (valuesOf d "admission" entries) c.admission ∧
    Given (engineLayout.Reads {} d) {} (valuesOf d "engine" entries) c.engines := by
  simp [Layout.Filled, rootLayout, Field.of, Setting.of]

theorem filled_engine_iff {entries : List (Node × Node)} {start e : Engines} :
    engineLayout.Filled d entries start e ↔
      Given (ReadsCommand d) start.primary (valuesOf d "primary" entries) e.primary ∧
      Given (IsNullOr ReadsCommand d) start.secondary (valuesOf d "secondary" entries)
        e.secondary ∧
      Given (IsNumber d) start.timeoutMs (valuesOf d "timeout_ms" entries) e.timeoutMs ∧
      Given (IsNumber d) start.maxOutput (valuesOf d "max_output_bytes" entries) e.maxOutput ∧
      Given (IsFlag d) start.fallbackDisabled (valuesOf d "disable_fallback" entries)
        e.fallbackDisabled := by
  simp [Layout.Filled, engineLayout, Field.of, Setting.of]

theorem Draft.finish_eq_ok_iff {draft : Draft} {c : Command} : draft.finish = .ok c ↔
    draft = ⟨some c.name, some c.program, c.args, c.contextFlag, c.policyErrorCodes⟩ := by
  obtain ⟨name, program, args, contextFlag, codes⟩ := draft
  obtain ⟨cname, cprogram, cargs, ccontextFlag, ccodes⟩ := c
  cases name <;> cases program <;> simp [Draft.finish]

theorem given_text_iff {values : List Node} {s : String} (hlength : values.length ≤ 1) :
    Given (fun n v => ∃ s, IsText d n s ∧ v = some s) none values (some s) ↔
      ∃ m ∈ values, IsText d m s := by
  match values with
  | [] => simp [given_nil]
  | [m] => simp [given_singleton]
  | _ :: _ :: _ => simp at hlength

theorem filled_command_iff {entries : List (Node × Node)} {c : Command}
    (hstrict : Strict d commandLayout.names entries) :
    commandLayout.Filled d entries {}
      ⟨some c.name, some c.program, c.args, c.contextFlag, c.policyErrorCodes⟩ ↔
      (∃ m ∈ valuesOf d "name" entries, IsText d m c.name) ∧
      (∃ m ∈ valuesOf d "program" entries, IsText d m c.program) ∧
      Given (IsListOf IsText d) [] (valuesOf d "args" entries) c.args ∧
      Given (IsNullOr IsText d) none (valuesOf d "context_flag" entries) c.contextFlag ∧
      Given (IsListOf IsExitCode d) [] (valuesOf d "policy_error_exit_codes" entries)
        c.policyErrorCodes := by
  simp [Layout.Filled, commandLayout, Field.of, Draft.text, Setting.of,
    given_text_iff (hstrict.length_valuesOf_le _)]

/-- A mapping is decoded as a command if its keys fit and it spells out the command. -/
theorem readsCommand_iff {c : Command} (way : List String) (hmap : IsMapping d n) :
    ReadsCommand d n c ↔ (commandPart way).Fits d (entriesOf d n) ∧ IsCommand d n c := by
  simp only [ReadsCommand, Draft.finish_eq_ok_iff, exists_eq_right, Layout.Reads]
  rw [and_iff_right (.inl hmap)]
  constructor
  · rintro ⟨hstrict, hfilled⟩
    obtain ⟨hname, hprogram, hargs, hflag, hcodes⟩ := (filled_command_iff hstrict).mp hfilled
    have hcomplete : ∀ name ∈ (commandPart way).required, valuesOf d name (entriesOf d n) ≠ [] := by
      obtain ⟨m, hm, -⟩ := hname
      obtain ⟨k, hk, -⟩ := hprogram
      simp [commandPart, List.ne_nil_of_mem hm, List.ne_nil_of_mem hk]
    simp only [← valuesAt_single] at hname hprogram hargs hflag hcodes
    exact ⟨⟨hstrict, hcomplete⟩, hname, hprogram, hargs, hflag, hcodes⟩
  · rintro ⟨⟨hstrict, -⟩, hname, hprogram, hargs, hflag, hcodes⟩
    simp only [valuesAt_single] at hname hprogram hargs hflag hcodes
    exact ⟨hstrict, (filled_command_iff hstrict).mpr ⟨hname, hprogram, hargs, hflag, hcodes⟩⟩

/-- What is decoded fits everywhere. -/
theorem not_faulty_of_reads (h : rootLayout.Reads {} d d.root c) : ¬ Faulty d := by
  rintro ⟨p, hp, n, hn, hmap, hfits⟩
  obtain ⟨-, hstrict, hfilled⟩ := h
  obtain ⟨hservice, hlimits, hrate, hadmission, hengine⟩ := filled_root_iff.mp hfilled
  have hnone : ∀ name ∈ ([] : List String), valuesOf d name (entriesOf d n) ≠ [] := fun _ h =>
    absurd h List.not_mem_nil
  simp only [parts, List.mem_cons, List.not_mem_nil, or_false] at hp
  apply hfits
  -- the root, the five sections, and the two commands inside the last one
  rcases hp with rfl | rfl | rfl | rfl | rfl | rfl | rfl | rfl
  · obtain rfl := List.mem_singleton.mp hn
    exact ⟨hstrict, hnone⟩
  · exact ⟨(hservice.read n (valuesAt_single .. ▸ hn)).2.1, hnone⟩
  · exact ⟨(hlimits.read n (valuesAt_single .. ▸ hn)).2.1, hnone⟩
  · exact ⟨(hrate.read n (valuesAt_single .. ▸ hn)).2.1, hnone⟩
  · exact ⟨(hadmission.read n (valuesAt_single .. ▸ hn)).2.1, hnone⟩
  · exact ⟨(hengine.read n (valuesAt_single .. ▸ hn)).2.1, hnone⟩
  · obtain ⟨k, hk, hn⟩ := List.mem_flatMap.mp hn
    obtain ⟨hprimary, -⟩ := filled_engine_iff.mp (hengine.read k hk).2.2
    exact ((readsCommand_iff _ hmap).mp (hprimary.read n (valuesAt_single .. ▸ hn))).1
  · obtain ⟨k, hk, hn⟩ := List.mem_flatMap.mp hn
    obtain ⟨-, hsecondary, -⟩ := filled_engine_iff.mp (hengine.read k hk).2.2
    obtain ⟨mark, entries, hentries⟩ := id hmap
    obtain ⟨hnull, -⟩ | ⟨-, command, hreads, -⟩ := hsecondary.read n (valuesAt_single .. ▸ hn)
    · exact absurd (hentries ▸ .mapping) hnull.not_nonNull
    · exact ((readsCommand_iff _ hmap).mp hreads).1

/-! ## What fits is decoded as it is spelled -/

section

variable (hmapped : Mapped d) (hfit : ¬ Faulty d)

include hmapped hfit

/-- All mappings of the schema but a second engine that is null fit. -/
theorem part_fits {p : Part} (hp : p ∈ parts) (hn : n ∈ written d p.way) :
    IsMapping d n ∧ p.Fits d (entriesOf d n) ∨
      p.way = ["engine", "secondary"] ∧ IsNull (d.resolve n) := by
  obtain hmap | hnull := hmapped p hp n hn
  · refine .inl ⟨hmap, ?_⟩
    by_contra hfits
    exact hfit ⟨p, hp, n, hn, hmap, hfits⟩
  · exact .inr hnull

theorem section_fits {name : String} {p : Part} (hp : p ∈ parts) (hway : p.way = [name])
    (hn : n ∈ valuesOf d name (entriesOf d d.root)) :
    IsMapping d n ∧ p.Fits d (entriesOf d n) := by
  rw [← valuesAt_single] at hn
  obtain h | ⟨hsecondary, -⟩ := part_fits hmapped hfit hp (hway ▸ hn)
  · exact h
  · simp [hway] at hsecondary

theorem root_fits : IsMapping d d.root ∧ Strict d rootLayout.names (entriesOf d d.root) := by
  obtain ⟨hmap, hfits⟩ | ⟨hsecondary, -⟩ :=
    part_fits hmapped hfit List.mem_cons_self (List.mem_singleton.mpr rfl)
  · exact ⟨hmap, hfits.strict⟩
  · simp at hsecondary

theorem given_part {ρ : Type} {l : Layout ρ} {name : String} {start r : ρ}
    (hp : { way := [name], names := l.names } ∈ parts) :
    Given (l.Reads start d) start (valuesOf d name (entriesOf d d.root)) r ↔
      ∀ f ∈ l.fields, Given (f.Reads d) (f.get start) (written d [name, f.setting.name])
        (f.get r) :=
  Layout.given_section ((root_fits hmapped hfit).2.length_valuesOf_le name) fun _ hn =>
    (section_fits hmapped hfit hp rfl hn).imp_right (·.strict)

/-- Nothing is written twice. -/
theorem length_written_le {name : String} (hname : [name] ∈ parts.map (·.way)) (key : String) :
    (written d [name, key]).length ≤ 1 := by
  obtain ⟨p, hp, hway⟩ := List.mem_map.mp hname
  refine length_valuesAt_le ((root_fits hmapped hfit).2.length_valuesOf_le name) fun n hn => ?_
  rw [valuesAt_single]
  exact (section_fits hmapped hfit hp hway hn).2.strict.length_valuesOf_le key

theorem primary_fits (hn : n ∈ written d ["engine", "primary"]) :
    IsMapping d n ∧ (commandPart ["engine", "primary"]).Fits d (entriesOf d n) := by
  have hp : commandPart ["engine", "primary"] ∈ parts := by simp [parts]
  obtain h | ⟨hsecondary, -⟩ := part_fits hmapped hfit hp hn
  · exact h
  · simp [commandPart] at hsecondary

theorem secondary_fits (hn : n ∈ written d ["engine", "secondary"]) :
    IsMapping d n ∧ (commandPart ["engine", "secondary"]).Fits d (entriesOf d n) ∨
      IsNull (d.resolve n) := by
  have hp : commandPart ["engine", "secondary"] ∈ parts := by simp [parts]
  exact (part_fits hmapped hfit hp hn).imp_right (·.2)

theorem given_primary_iff {start c : Command} :
    Given (ReadsCommand d) start (written d ["engine", "primary"]) c ↔
      Given (IsCommand d) start (written d ["engine", "primary"]) c := by
  refine Given.congr fun n hn => ?_
  obtain ⟨hmap, hfits⟩ := primary_fits hmapped hfit hn
  exact (readsCommand_iff _ hmap).trans (and_iff_right hfits)

theorem given_secondary_iff {start c : Option Command} :
    Given (IsNullOr ReadsCommand d) start (written d ["engine", "secondary"]) c ↔
      Given (IsNullOr IsCommand d) start (written d ["engine", "secondary"]) c := by
  -- a null is not looked into, so only a mapping has to be followed
  refine Given.congr fun n hn => isNullOr_congr (fun hnon w => ?_) c
  obtain ⟨hmap, hfits⟩ | hnull := secondary_fits hmapped hfit hn
  · exact (readsCommand_iff _ hmap).trans (and_iff_right hfits)
  · exact absurd hnon hnull.not_nonNull

/-- A tree that fits is decoded as it is spelled. -/
theorem reads_root_iff : rootLayout.Reads {} d d.root c ↔ Spelled d c := by
  obtain ⟨hmap, hstrict⟩ := root_fits hmapped hfit
  rw [Layout.Reads, and_iff_right (.inl hmap), and_iff_right hstrict, filled_root_iff,
    given_part hmapped hfit (by simp [parts, Layout.names, serviceLayout, Field.of, Setting.of]),
    given_part hmapped hfit (by simp [parts, Layout.names, limitsLayout, Field.of, Setting.of]),
    given_part hmapped hfit (by simp [parts, Layout.names, rateLayout, Field.of, Setting.of]),
    given_part hmapped hfit (by simp [parts, Layout.names, admissionLayout, Field.of, Setting.of]),
    given_part hmapped hfit (by simp [parts, Layout.names, engineLayout, Field.of, Setting.of])]
  simp only [serviceLayout, limitsLayout, rateLayout, admissionLayout, engineLayout, Field.of,
    Setting.of, List.forall_mem_cons, List.not_mem_nil, IsEmpty.forall_iff, implies_true, and_true,
    given_primary_iff hmapped hfit, given_secondary_iff hmapped hfit]
  constructor
  · rintro ⟨⟨h1, h2⟩, ⟨h3, h4, h5⟩, ⟨h6, h7, h8⟩, h9, h10, h11, h12, h13, h14⟩
    exact ⟨h1, h2, h3, h4, h5, h6, h7, h8, h9, h10, h11, h12, h13, h14⟩
  · rintro ⟨h1, h2, h3, h4, h5, h6, h7, h8, h9, h10, h11, h12, h13, h14⟩
    exact ⟨⟨h1, h2⟩, ⟨h3, h4, h5⟩, ⟨h6, h7, h8⟩, h9, h10, h11, h12, h13, h14⟩

/-! ## What is typed can be spelled -/

omit hmapped hfit in
/-- A mapping that fits, with values of the right types, spells out a command. -/
theorem exists_command {way : List String} (htyped : TypedCommand d n)
    (hfits : (commandPart way).Fits d (entriesOf d n)) : ∃ c, IsCommand d n c := by
  have hlength (key : String) : (valuesAt d [key] n).length ≤ 1 :=
    valuesAt_single d key n ▸ hfits.strict.length_valuesOf_le key
  have hpresent (key : String) (hkey : key ∈ (commandPart way).required) :
      ∃ m, m ∈ valuesAt d [key] n :=
    valuesAt_single d key n ▸ List.exists_mem_of_ne_nil _ (hfits.complete key hkey)
  obtain ⟨m, hm⟩ := hpresent "name" (by simp [commandPart])
  obtain ⟨k, hk⟩ := hpresent "program" (by simp [commandPart])
  obtain ⟨name, hname⟩ := htyped.name m hm
  obtain ⟨program, hprogram⟩ := htyped.program k hk
  obtain ⟨args, hargs⟩ := exists_given (hlength _) htyped.args []
  obtain ⟨contextFlag, hflag⟩ := exists_given (hlength _) htyped.contextFlag none
  obtain ⟨codes, hcodes⟩ := exists_given (hlength _) htyped.policyErrorCodes []
  exact ⟨⟨name, program, args, contextFlag, codes⟩, ⟨m, hm, hname⟩, ⟨k, hk, hprogram⟩, hargs,
    hflag, hcodes⟩

theorem exists_primary (htyped : Typed d) :
    ∀ n ∈ written d ["engine", "primary"], ∃ c, IsCommand d n c := by
  intro n hn
  obtain ⟨-, hfits⟩ := primary_fits hmapped hfit hn
  exact exists_command (htyped.commands _ (by simp) n hn) hfits

theorem exists_secondary (htyped : Typed d) :
    ∀ n ∈ written d ["engine", "secondary"], ∃ c, IsNullOr IsCommand d n c := by
  intro n hn
  obtain ⟨⟨mark, entries, hmap⟩, hfits⟩ | hnull := secondary_fits hmapped hfit hn
  · obtain ⟨c, hc⟩ := exists_command (htyped.commands _ (by simp) n hn) hfits
    exact ⟨some c, .inr ⟨hmap ▸ .mapping, c, hc, rfl⟩⟩
  · exact ⟨none, .inl ⟨hnull, rfl⟩⟩

/-- Settings of the right types are spelled out. -/
theorem exists_spelled (htyped : Typed d) : ∃ c, Spelled d c := by
  have hgiven {α : Type} {R : Node → α → Prop} (name key : String) (start : α)
      (hname : [name] ∈ parts.map (·.way)) (hread : ∀ n ∈ written d [name, key], ∃ v, R n v) :
      ∃ v, Given R start (written d [name, key]) v :=
    exists_given (length_written_le hmapped hfit hname key) hread start
  obtain ⟨listen, h1⟩ :=
    hgiven "gateway" "listen" "0.0.0.0:8080" (by decide) (htyped.texts _ (by simp))
  obtain ⟨buildVersion, h2⟩ :=
    hgiven "gateway" "build_version" "unknown" (by decide) (htyped.texts _ (by simp))
  obtain ⟨maxBody, h3⟩ :=
    hgiven "limits" "max_body_bytes" 200000 (by decide) (htyped.numbers _ (by simp))
  obtain ⟨maxCode, h4⟩ :=
    hgiven "limits" "max_code_bytes" 100000 (by decide) (htyped.numbers _ (by simp))
  obtain ⟨maxContext, h5⟩ :=
    hgiven "limits" "max_context_bytes" 100000 (by decide) (htyped.numbers _ (by simp))
  obtain ⟨windowMs, h6⟩ :=
    hgiven "rate_limit" "window_ms" 60000 (by decide) (htyped.numbers _ (by simp))
  obtain ⟨maxRequests, h7⟩ :=
    hgiven "rate_limit" "max_requests" 30 (by decide) (htyped.numbers _ (by simp))
  obtain ⟨maxTracked, h8⟩ :=
    hgiven "rate_limit" "max_tracked_clients" 10000 (by decide) (htyped.numbers _ (by simp))
  obtain ⟨maxInflight, h9⟩ :=
    hgiven "admission" "max_inflight" 4 (by decide) (htyped.numbers _ (by simp))
  obtain ⟨primary, h10⟩ :=
    hgiven "engine" "primary" ⟨"omnilang", "omnilang", ["exec"], some "--context", []⟩
      (by decide) (exists_primary hmapped hfit htyped)
  obtain ⟨secondary, h11⟩ :=
    hgiven "engine" "secondary" (some ⟨"omnilang-proto", "omnilang-proto", [], none, []⟩)
      (by decide) (exists_secondary hmapped hfit htyped)
  obtain ⟨timeoutMs, h12⟩ :=
    hgiven "engine" "timeout_ms" 5000 (by decide) (htyped.numbers _ (by simp))
  obtain ⟨maxOutput, h13⟩ :=
    hgiven "engine" "max_output_bytes" 2097152 (by decide) (htyped.numbers _ (by simp))
  obtain ⟨fallbackDisabled, h14⟩ :=
    hgiven "engine" "disable_fallback" false (by decide) htyped.flags
  exact ⟨⟨⟨listen, buildVersion⟩, ⟨maxBody, maxCode, maxContext⟩,
    ⟨windowMs, maxRequests, maxTracked⟩, ⟨maxInflight⟩,
    ⟨primary, secondary, timeoutMs, maxOutput, fallbackDisabled⟩⟩,
    h1, h2, h3, h4, h5, h6, h7, h8, h9, h10, h11, h12, h13, h14⟩

end

/-- **A tree is decoded as it is spelled.** A mapping with a key that it must not have or has twice,
or without one that it must have, is refused. Else each field has what is written for it, or its
default. -/
theorem decoded_as_spelled (d : Document) :
    (Faulty d → ∃ message, ofTree d = .error (.badRequest message)) ∧
    (d.flaw = none → Mapped d → ¬ Faulty d →
      (Typed d → ∃ c, ofDocument d = .ok c) ∧ ∀ c, ofDocument d = .ok c ↔ Spelled d c) := by
  constructor
  · intro hfaulty
    rw [ofTree]
    cases hdecoded : ofDocument d with
    | error stop => exact ⟨stop.message d, rfl⟩
    | ok c => exact absurd hfaulty (not_faulty_of_reads (ofDocument_eq_ok_iff.mp hdecoded).1)
  · intro hflaw hmapped hfit
    have hspelled (c : Config) : ofDocument d = .ok c ↔ Spelled d c := by
      rw [ofDocument_eq_ok_iff, and_iff_left hflaw, reads_root_iff hmapped hfit]
    refine ⟨fun htyped => ?_, hspelled⟩
    obtain ⟨c, hc⟩ := exists_spelled hmapped hfit htyped
    exact ⟨c, (hspelled c).mpr hc⟩

/-- A scalar as it is written without quotes. -/
def bare (s : String) : Node := .scalar {} none .plain s

/-- A limit whose name is misspelt. -/
def misspelt : Document where
  root := .mapping {} [(bare "limits", .mapping {} [(bare "max_bodyy_bytes", bare "123")])]

/-- An engine of which only a part is written, in another order than the defaults. -/
def partialEngine : Document where
  root := .mapping {}
    [(bare "engine", .mapping {}
      [(bare "timeout_ms", bare "250"),
        (bare "secondary", bare "null"),
        (bare "primary", .mapping {} [(bare "program", bare "omni"), (bare "name", bare "fast")])]),
      (bare "gateway", .mapping {} [(bare "build_version", bare "7")])]

/-- What is not written has its default, and nothing of the default engine is left. -/
def partialSettings : Config where
  service := { buildVersion := "7" }
  engines := { primary := ⟨"fast", "omni", [], none, []⟩, secondary := none, timeoutMs := 250 }

theorem faulty_misspelt : Faulty misspelt := by
  refine ⟨{ way := ["limits"], names := ["max_body_bytes", "max_code_bytes", "max_context_bytes"] },
    by simp [parts], .mapping {} [(bare "max_bodyy_bytes", bare "123")], ?_, ⟨_, _, rfl⟩, ?_⟩
  · simp [written, valuesAt, valuesOf, entriesOf, keyText?, misspelt, bare, Document.resolve]
  · rintro ⟨⟨hknown, -⟩, -⟩
    simp [entriesOf, keyText?, bare, Document.resolve] at hknown

/-- The mappings of the schema in the partial engine. -/
theorem parts_partialEngine {p : Part} {n : Node} (hp : p ∈ parts)
    (hn : n ∈ written partialEngine p.way) :
    IsMapping partialEngine n ∧ p.Fits partialEngine (entriesOf partialEngine n) ∨
      p.way = ["engine", "secondary"] ∧ n = bare "null" := by
  simp only [parts, List.mem_cons, List.not_mem_nil, or_false] at hp
  rcases hp with rfl | rfl | rfl | rfl | rfl | rfl | rfl | rfl
  · obtain rfl := List.mem_singleton.mp hn
    exact .inl ⟨⟨_, _, rfl⟩, ⟨by decide, by decide⟩, by decide⟩
  · obtain rfl := List.mem_singleton.mp hn
    exact .inl ⟨⟨_, _, rfl⟩, ⟨by decide, by decide⟩, by decide⟩
  · cases hn
  · cases hn
  · cases hn
  · obtain rfl := List.mem_singleton.mp hn
    exact .inl ⟨⟨_, _, rfl⟩, ⟨by decide, by decide⟩, by decide⟩
  · obtain rfl := List.mem_singleton.mp hn
    exact .inl ⟨⟨_, _, rfl⟩, ⟨by decide, by decide⟩, by decide⟩
  · exact .inr ⟨rfl, List.mem_singleton.mp hn⟩

theorem typed_partialEngine : Typed partialEngine where
  texts way hway n hn := by
    obtain rfl : n = bare "7" := List.mem_singleton.mp (List.mem_flatMap.mpr ⟨way, hway, hn⟩)
    exact ⟨"7", _, _, _, rfl⟩
  numbers way hway n hn := by
    obtain rfl : n = bare "250" := List.mem_singleton.mp (List.mem_flatMap.mpr ⟨way, hway, hn⟩)
    exact ⟨250, ⟨_, _, _, _, rfl, .inl rfl, by decide⟩, by decide⟩
  flags _ hn := absurd hn List.not_mem_nil
  commands way hway n hn := by
    simp only [List.mem_cons, List.not_mem_nil, or_false] at hway
    obtain rfl | rfl := hway <;> obtain rfl := List.mem_singleton.mp hn
    · refine ⟨fun m hm => ?_, fun m hm => ?_, fun m hm => absurd hm List.not_mem_nil,
        fun m hm => absurd hm List.not_mem_nil, fun m hm => absurd hm List.not_mem_nil⟩
      · obtain rfl := List.mem_singleton.mp hm
        exact ⟨"fast", _, _, _, rfl⟩
      · obtain rfl := List.mem_singleton.mp hm
        exact ⟨"omni", _, _, _, rfl⟩
    · exact ⟨fun m hm => absurd hm List.not_mem_nil, fun m hm => absurd hm List.not_mem_nil,
        fun m hm => absurd hm List.not_mem_nil, fun m hm => absurd hm List.not_mem_nil,
        fun m hm => absurd hm List.not_mem_nil⟩

theorem decoded_partial_engine :
    (Faulty misspelt ∧ ∃ message, ofTree misspelt = .error (.badRequest message)) ∧
    partialEngine.flaw = none ∧ Mapped partialEngine ∧ ¬ Faulty partialEngine ∧
      Typed partialEngine ∧ (∃ c, ofDocument partialEngine = .ok c) ∧
      Spelled partialEngine partialSettings := by
  have hmapped : Mapped partialEngine := by
    intro p hp n hn
    obtain ⟨hmap, -⟩ | ⟨hway, rfl⟩ := parts_partialEngine hp hn
    · exact .inl hmap
    · exact .inr ⟨hway, .plain (.inr rfl)⟩
  have hfit : ¬ Faulty partialEngine := by
    rintro ⟨p, hp, n, hn, ⟨mark, entries, hmap⟩, hfits⟩
    obtain ⟨-, h⟩ | ⟨-, rfl⟩ := parts_partialEngine hp hn
    · exact hfits h
    · cases hmap
  obtain ⟨hdecoded, hspelled⟩ := (decoded_as_spelled partialEngine).2 rfl hmapped hfit
  exact ⟨⟨faulty_misspelt, (decoded_as_spelled misspelt).1 faulty_misspelt⟩, rfl, hmapped, hfit,
    typed_partialEngine, hdecoded typed_partialEngine, (hspelled _).mp rfl⟩

end PolicyGate.Config
