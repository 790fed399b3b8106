import PolicyGate.Proofs.Gateway.Trace

/-!
# The stages of a request

What happens to a request on its way, said of the request and of the gateway that it meets, stage by
stage.

* `Upload.Fits` — the body can be read and is within its ceiling.
* `Stopped` — the fault of the first stage that a request fails.
* `Reaches` — a request passes all stages in front of linting, with the texts of its submission.
* `Passes` — it also passes linting and the check of its context.

**Theorem (`stages`).** A request is stopped or it reaches linting, and it is screened accordingly.
-/

namespace PolicyGate

theorem Limits.check_of_le {l : Limits} {part : Part} {size : Nat} (h : size ≤ l.ceiling part) :
    l.check part size = .ok () := if_neg (Nat.not_lt.mpr h)

theorem Limits.check_of_lt {l : Limits} {part : Part} {size : Nat} (h : l.ceiling part < size) :
    l.check part size = .error (.tooLarge part) := if_pos h

/-! ## Reading the body -/

namespace Upload

variable {u : Upload} {limits : Limits}

/-- The bytes on their way. -/
def bytes (u : Upload) : List UInt8 := u.chunks.flatten

/-- The body arrives as a whole and is within its ceiling. -/
structure Fits (u : Upload) (limits : Limits) : Prop where
  whole : u.broken = false
  /-- No ceiling is above the largest size. -/
  length_le : u.bytes.length ≤ min limits.maxBody largestSize

instance (u : Upload) (limits : Limits) : Decidable (u.Fits limits) :=
  decidable_of_iff (u.broken = false ∧ u.bytes.length ≤ min limits.maxBody largestSize)
    ⟨fun h => ⟨h.1, h.2⟩, fun h => ⟨h.1, h.2⟩⟩

/-- Chunks are gathered if all of them fit together. -/
theorem gather_eq {limit : Nat} (read : List UInt8) (h : read.length ≤ limit)
    (chunks : List (List UInt8)) :
    gather limit read chunks =
      if (read ++ chunks.flatten).length ≤ limit then some (read ++ chunks.flatten) else none := by
  induction chunks generalizing read with
  | nil => simp [gather, h]
  | cons chunk rest ih =>
    rw [gather, List.flatten_cons, ← List.append_assoc]
    split
    · next hover =>
      rw [if_neg]
      rw [List.length_append, List.length_append]
      omega
    · next hfits =>
      exact ih _ (by rw [List.length_append]; omega)

/-- How a body is cut into chunks does not matter. -/
theorem read_eq (u : Upload) (limits : Limits) :
    u.read limits =
      if u.bytes.length ≤ limits.readLimit then
        if u.broken then .error (.internal "request body read failed")
        else (limits.check .body u.bytes.length).map fun _ => u.bytes
      else .error (.tooLarge .body) := by
  have hgather : gather limits.readLimit [] u.chunks =
      if u.bytes.length ≤ limits.readLimit then some u.bytes else none :=
    gather_eq [] (Nat.zero_le limits.readLimit) u.chunks
  unfold read
  rw [hgather]
  by_cases h : u.bytes.length ≤ limits.readLimit
  · rw [if_pos h, if_pos h]
  · rw [if_neg h, if_neg h]

theorem read_of_fits (h : u.Fits limits) : u.read limits = .ok u.bytes := by
  have hlen := h.length_le
  have hlimit : u.bytes.length ≤ limits.readLimit := by
    unfold Limits.readLimit
    omega
  have hceiling : u.bytes.length ≤ limits.ceiling .body := Nat.le_trans hlen (Nat.min_le_left ..)
  rw [read_eq, if_pos hlimit, h.whole, Limits.check_of_le hceiling]
  rfl

/-- A body that does not fit is not read, whatever is wrong with it. -/
theorem read_of_not_fits (h : ¬ u.Fits limits) : ∃ f, u.read limits = .error f := by
  rw [read_eq]
  by_cases hlen : u.bytes.length ≤ limits.readLimit
  case neg => exact ⟨_, if_neg hlen⟩
  rw [if_pos hlen]
  cases hb : u.broken with
  | true => exact ⟨_, if_pos rfl⟩
  | false =>
    have hover : limits.ceiling .body < u.bytes.length := by
      refine Nat.lt_of_not_le fun hle => h ⟨hb, Nat.le_min.mpr ⟨hle, ?_⟩⟩
      unfold Limits.readLimit at hlen
      omega
    rw [if_neg Bool.false_ne_true, Limits.check_of_lt hover]
    exact ⟨_, rfl⟩

end Upload

/-! ## The first stage that is failed -/

/-- The context is absent or blank, or the JSON text of an object or an array. -/
def Submission.ContextFine (s : Submission) : Prop :=
  ∀ c, s.context = some c → checkContext c = .ok ()

namespace Gateway

variable {g : Gateway} {now : Moment} {a : Arrival} {s : Submission}

/-- The body is read, the limiter admits the client and a slot is free. -/
structure Admits (g : Gateway) (now : Moment) (a : Arrival) : Prop where
  fits : a.upload.Fits g.config.limits
  admitted : (g.limiter.accept a.client now).1 = true
  free : g.slots.current < g.slots.max

/-- All stages in front of linting are passed, with the texts of a submission. -/
structure Reaches (g : Gateway) (now : Moment) (a : Arrival) (s : Submission) : Prop
    extends Admits g now a where
  decoded : Submission.decode a.upload.bytes = .ok s
  code_le : s.code.utf8ByteSize ≤ g.config.limits.maxCode
  context_le : (s.rawContext.getD "").utf8ByteSize ≤ g.config.limits.maxContext

/-- The policy is clean besides, and the context can be used. -/
structure Passes (g : Gateway) (now : Moment) (a : Arrival) (s : Submission) : Prop
    extends Reaches g now a s where
  clean : (Policy.lint s.code.toList).diagnostics = []
  context : s.ContextFine

/-- The fault of the first stage that a request fails. A body that is too long by more than one byte
counts before a sender that breaks off. -/
inductive Stopped (g : Gateway) (now : Moment) (a : Arrival) : Fault → Prop
  | overlong (h : g.config.limits.readLimit < a.upload.bytes.length) :
    Stopped g now a (.tooLarge .body)
  | broken (hlen : a.upload.bytes.length ≤ g.config.limits.readLimit)
    (h : a.upload.broken = true) : Stopped g now a (.internal "request body read failed")
  | body (hlen : a.upload.bytes.length ≤ g.config.limits.readLimit)
    (hwhole : a.upload.broken = false) (h : g.config.limits.maxBody < a.upload.bytes.length) :
    Stopped g now a (.tooLarge .body)
  | rate (hfits : a.upload.Fits g.config.limits)
    (h : (g.limiter.accept a.client now).1 = false) : Stopped g now a .rateLimited
  | busy (hfits : a.upload.Fits g.config.limits)
    (hadmitted : (g.limiter.accept a.client now).1 = true) (h : g.slots.max ≤ g.slots.current) :
    Stopped g now a .busy
  | garbled {e : Json.Fault} (hin : Admits g now a)
    (h : Submission.decode a.upload.bytes = .error e) :
    Stopped g now a (.internal ("invalid request json: " ++ e.message))
  | code {s : Submission} (hin : Admits g now a)
    (hs : Submission.decode a.upload.bytes = .ok s)
    (h : g.config.limits.maxCode < s.code.utf8ByteSize) : Stopped g now a (.tooLarge .code)
  | context {s : Submission} (hin : Admits g now a)
    (hs : Submission.decode a.upload.bytes = .ok s)
    (hcode : s.code.utf8ByteSize ≤ g.config.limits.maxCode)
    (h : g.config.limits.maxContext < (s.rawContext.getD "").utf8ByteSize) :
    Stopped g now a (.tooLarge .context)

/-! ## Screening by stages -/

/-- Behind the slots it is the body that decides. -/
theorem Admits.screened (h : Admits g now a) :
    g.screened a now = .ofBody g.config.limits a.upload.bytes := by
  have hfree : g.slots.isSaturated = false := decide_eq_false (Nat.not_le.mpr h.free)
  unfold Gateway.screened
  rw [Upload.read_of_fits h.fits]
  simp only [h.admitted, hfree, if_true, Bool.false_eq_true, if_false]

theorem Reaches.screened (h : Reaches g now a s) : g.screened a now = .ofTexts s := by
  have hcode : g.config.limits.check .code s.code.utf8ByteSize = .ok () :=
    Limits.check_of_le h.code_le
  have hcontext : g.config.limits.check .context (s.rawContext.getD "").utf8ByteSize = .ok () :=
    Limits.check_of_le h.context_le
  have hsizes : Finding.checkSizes g.config.limits s = .ok () := by
    unfold Finding.checkSizes
    rw [hcode, hcontext]
    rfl
  rw [h.toAdmits.screened]
  unfold Finding.ofBody decodeBody
  rw [h.decoded]
  show Finding.ofSubmission g.config.limits s = _
  unfold Finding.ofSubmission
  rw [hsizes]

/-- **A stage that is failed decides what is found.** -/
theorem Stopped.screened {f : Fault} (h : Stopped g now a f) : g.screened a now = .faulty f := by
  -- A body that cannot be read is found at once.
  have unread {f : Fault} (hr : a.upload.read g.config.limits = .error f) :
      g.screened a now = .faulty f := by
    unfold Gateway.screened
    rw [hr]
  have sized {s : Submission} {f : Fault} (hin : Admits g now a)
      (hs : Submission.decode a.upload.bytes = .ok s)
      (hf : Finding.checkSizes g.config.limits s = .error f) : g.screened a now = .faulty f := by
    rw [hin.screened]
    unfold Finding.ofBody decodeBody
    rw [hs]
    show Finding.ofSubmission g.config.limits s = _
    unfold Finding.ofSubmission
    rw [hf]
  cases h with
  | overlong h =>
    refine unread ?_
    rw [Upload.read_eq, if_neg (Nat.not_le.mpr h)]
  | broken hlen h =>
    refine unread ?_
    rw [Upload.read_eq, if_pos hlen, if_pos h]
  | body hlen hwhole h =>
    have hcheck : g.config.limits.check .body a.upload.bytes.length = .error (.tooLarge .body) :=
      Limits.check_of_lt h
    refine unread ?_
    rw [Upload.read_eq, if_pos hlen, hwhole, hcheck]
    rfl
  | rate hfits h =>
    unfold Gateway.screened
    rw [Upload.read_of_fits hfits]
    simp only [h, Bool.false_eq_true, if_false]
  | busy hfits hadmitted h =>
    have hfull : g.slots.isSaturated = true := decide_eq_true h
    unfold Gateway.screened
    rw [Upload.read_of_fits hfits]
    simp only [hadmitted, hfull, if_true]
  | garbled hin h =>
    rw [hin.screened]
    unfold Finding.ofBody decodeBody
    rw [h]
    rfl
  | code hin hs h =>
    refine sized hin hs ?_
    unfold Finding.checkSizes
    rw [Limits.check_of_lt h]
    rfl
  | @context s hin hs hcode h =>
    have hcheck : g.config.limits.check .code s.code.utf8ByteSize = .ok () :=
      Limits.check_of_le hcode
    refine sized hin hs ?_
    unfold Finding.checkSizes
    rw [hcheck]
    exact Limits.check_of_lt h

/-- **A request is stopped, or it reaches linting.** -/
theorem stages (g : Gateway) (now : Moment) (a : Arrival) :
    (∃ f, Stopped g now a f) ∨ ∃ s, Reaches g now a s := by
  by_cases hlen : a.upload.bytes.length ≤ g.config.limits.readLimit
  case neg => exact .inl ⟨_, .overlong (Nat.not_le.mp hlen)⟩
  cases hb : a.upload.broken with
  | true => exact .inl ⟨_, .broken hlen hb⟩
  | false =>
  by_cases hbody : a.upload.bytes.length ≤ g.config.limits.maxBody
  case neg => exact .inl ⟨_, .body hlen hb (Nat.not_le.mp hbody)⟩
  have hfits : a.upload.Fits g.config.limits := by
    refine ⟨hb, ?_⟩
    unfold Limits.readLimit at hlen
    omega
  cases ha : (g.limiter.accept a.client now).1 with
  | false => exact .inl ⟨_, .rate hfits ha⟩
  | true =>
  by_cases hfree : g.slots.current < g.slots.max
  case neg => exact .inl ⟨_, .busy hfits ha (Nat.not_lt.mp hfree)⟩
  have hin : Admits g now a := ⟨hfits, ha, hfree⟩
  cases hs : Submission.decode a.upload.bytes with
  | error e => exact .inl ⟨_, .garbled hin hs⟩
  | ok s =>
  by_cases hcode : s.code.utf8ByteSize ≤ g.config.limits.maxCode
  case neg => exact .inl ⟨_, .code hin hs (Nat.not_le.mp hcode)⟩
  by_cases hcontext : (s.rawContext.getD "").utf8ByteSize ≤ g.config.limits.maxContext
  case neg => exact .inl ⟨_, .context hin hs hcode (Nat.not_le.mp hcontext)⟩
  exact .inr ⟨s, hin, hs, hcode, hcontext⟩

/-- Every fault that is found is that of a stage. -/
theorem stopped_of_faulty {f : Fault} (h : g.screened a now = .faulty f) : Stopped g now a f := by
  obtain ⟨f', hf⟩ | ⟨s, hs⟩ := stages g now a
  · rw [hf.screened] at h
    exact Finding.faulty.inj h ▸ hf
  · rw [hs.screened] at h
    exact absurd h (Finding.ofTexts_ne_faulty s f)

end Gateway

/-! ## Behind the stages -/

namespace Finding

variable {s : Submission}

theorem contextFault?_eq_some {f : ContextFault} : contextFault? s = some f ↔
    ∃ c, s.context = some c ∧ checkContext c = .error f := by
  unfold contextFault?
  rw [Option.bind_eq_some_iff]
  refine exists_congr fun c => and_congr_right fun _ => ?_
  cases checkContext c <;> simp

theorem contextFault?_eq_none : contextFault? s = none ↔ s.ContextFine := by
  rw [Option.eq_none_iff_forall_ne_some]
  unfold Submission.ContextFine
  constructor
  · intro h c hc
    cases he : checkContext c with
    | ok u => rfl
    | error f => exact absurd (contextFault?_eq_some.mpr ⟨c, hc, he⟩) (h f)
  · intro h f hf
    obtain ⟨c, hc, he⟩ := contextFault?_eq_some.mp hf
    rw [h c hc] at he
    cases he

theorem not_contextFine_iff : ¬ s.ContextFine ↔
    ∃ c f, s.context = some c ∧ checkContext c = .error f := by
  rw [← contextFault?_eq_none, ← ne_eq, Option.ne_none_iff_exists', exists_comm]
  exact exists_congr fun f => contextFault?_eq_some

theorem ofTexts_of_flawed (h : (Policy.lint s.code.toList).diagnostics ≠ []) :
    ofTexts s = .flawed (Policy.lint s.code.toList).diagnostics (Policy.rules s.code.toList) := by
  unfold ofTexts
  simp only
  split
  · next hd => rw [hd]
  · next hd => exact absurd hd h

theorem ofTexts_of_badContext {f : ContextFault}
    (h : (Policy.lint s.code.toList).diagnostics = []) (hf : contextFault? s = some f) :
    ofTexts s = .badContext f (Policy.rules s.code.toList) := by
  unfold ofTexts
  simp only [h, hf]

theorem ofTexts_of_fine (h : (Policy.lint s.code.toList).diagnostics = [])
    (hc : s.ContextFine) : ofTexts s = .sound ⟨s.code, s.context⟩ (Policy.rules s.code.toList) := by
  unfold ofTexts
  simp only [h, contextFault?_eq_none.mpr hc]

end Finding

namespace Gateway

variable {g : Gateway} {now : Moment} {a : Arrival} {s : Submission}

theorem Passes.screened (h : Passes g now a s) :
    g.screened a now = .sound ⟨s.code, s.context⟩ (Policy.rules s.code.toList) := by
  rw [h.toReaches.screened, Finding.ofTexts_of_fine h.clean h.context]

/-- What does not pass all stages is closed on arrival. -/
theorem closing_of_not_passes (h : ∀ s, ¬ Passes g now a s) :
    ∃ c, Closing.ofFinding? (g.screened a now) = some c := by
  obtain ⟨f, hf⟩ | ⟨s, hs⟩ := stages g now a
  · rw [hf.screened]
    exact ⟨_, rfl⟩
  · rw [hs.screened]
    by_cases hd : (Policy.lint s.code.toList).diagnostics = []
    · have hbad : ¬ s.ContextFine := fun hfine => h s ⟨hs, hd, hfine⟩
      obtain ⟨c, f, hc, hf⟩ := Finding.not_contextFine_iff.mp hbad
      rw [Finding.ofTexts_of_badContext hd (Finding.contextFault?_eq_some.mpr ⟨c, hc, hf⟩)]
      exact ⟨_, rfl⟩
    · rw [Finding.ofTexts_of_flawed hd]
      exact ⟨_, rfl⟩

/-! ## A submission -/

/-- What is in the body with a policy that is sound. -/
def sampleSubmission : Submission where
  rawCode := some "INTENT:a\nACTOR:a\nCONTEXT:a\nRULE:a\nCONSTRAINT:a\nIMPACT:a\nTRACE:a"
  rawContext := none

theorem decode_sampleBody : Submission.decode sampleBody = .ok sampleSubmission := by
  have h : (Submission.decode sampleBody).toOption = some sampleSubmission := by decide +kernel
  cases hd : Submission.decode sampleBody with
  | error e =>
    rw [hd] at h
    cases h
  | ok s =>
    rw [hd] at h
    rw [Option.some.inj h]

/-- The third request of the run passes all stages. -/
theorem passes_sampleSubmission :
    Passes ((start sampleConfig true 0).run (sampleRun.take 4)).1 4 ⟨"r2", "b", .whole sampleBody⟩
      sampleSubmission := by
  have hmeets : let g := ((start sampleConfig true 0).run (sampleRun.take 4)).1
      (Upload.whole sampleBody).Fits g.config.limits ∧ (g.limiter.accept "b" 4).1 = true ∧
        g.slots.current < g.slots.max ∧
        sampleSubmission.code.utf8ByteSize ≤ g.config.limits.maxCode ∧
        (sampleSubmission.rawContext.getD "").utf8ByteSize ≤ g.config.limits.maxContext ∧
        (Policy.lint sampleSubmission.code.toList).diagnostics = [] := by
    decide +kernel
  obtain ⟨hfits, hadmitted, hfree, hcode, hcontext, hclean⟩ := hmeets
  exact ⟨⟨⟨hfits, hadmitted, hfree⟩, decode_sampleBody, hcode, hcontext⟩, hclean, nofun⟩

end Gateway

end PolicyGate
