import PolicyGate.Gateway.Step

/-!
# The ways of an event

A request passes stage after stage, each with its own exit, and a slot that was taken is given back
at the exits behind it. Seen as a whole, an arriving request is *screened*: the first stage that it
fails decides what is found, as if the stages were one examination. Whatever is found but a sound
request is a *closing*, by which the request is answered at once and recorded.

**Theorem (`arrive_eq`).** Arriving is screening, and then either closing the request, which leaves
all slots as they were, or calling the primary engine, which takes a slot.

**Theorem (`step_way`).** Every event goes one of ten ways, and a `Way` says all that there is to
say of it: when it is gone, the gateway after it and the reaction.
-/

namespace PolicyGate

/-! ## The faults of the stages -/

theorem Limits.check_error {limits : Limits} {part : Part} {size : Nat} {f : Fault}
    (h : limits.check part size = .error f) : f = .tooLarge part := by
  unfold Limits.check at h
  split at h
  · exact (Except.error.inj h).symm
  · cases h

theorem decodeBody_error {body : List UInt8} {f : Fault} (h : decodeBody body = .error f) :
    ∃ detail, f = .internal detail := by
  unfold decodeBody at h
  cases hd : Submission.decode body with
  | error e =>
    rw [hd] at h
    exact ⟨_, (Except.error.inj h).symm⟩
  | ok s => rw [hd] at h; cases h

namespace Finding

theorem checkSizes_error {limits : Limits} {s : Submission} {f : Fault}
    (h : checkSizes limits s = .error f) : ∃ part, f = .tooLarge part := by
  unfold checkSizes at h
  cases hc : limits.check .code s.code.utf8ByteSize with
  | error f' =>
    rw [hc] at h
    obtain rfl := Except.error.inj h
    exact ⟨_, Limits.check_error hc⟩
  | ok u =>
    rw [hc] at h
    exact ⟨_, Limits.check_error h⟩

theorem ofTexts_ne_faulty (s : Submission) (f : Fault) : ofTexts s ≠ .faulty f := by
  unfold ofTexts
  simp only
  split
  · simp
  · split <;> simp

/-- A body that cannot be used is too large in a part, or it cannot be decoded. -/
theorem ofBody_faulty {limits : Limits} {body : List UInt8} {f : Fault}
    (h : ofBody limits body = .faulty f) :
    (∃ part, f = .tooLarge part) ∨ ∃ detail, f = .internal detail := by
  unfold ofBody at h
  split at h
  · next f' hd =>
    obtain rfl := Finding.faulty.inj h
    exact .inr (decodeBody_error hd)
  · unfold ofSubmission at h
    split at h
    · next f' hs =>
      obtain rfl := Finding.faulty.inj h
      exact .inl (checkSizes_error hs)
    · exact absurd h (ofTexts_ne_faulty _ _)

end Finding

/-- Only a busy gateway answers 503. -/
theorem Fault.eq_busy_of_status {f : Fault} (h : f.code.status = 503) : f = .busy := by
  cases f with
  | busy => rfl
  | _ => exact absurd h (by simp [code, FaultCode.status])

/-- Only the limiter answers 429. -/
theorem Fault.eq_rateLimited_of_status {f : Fault} (h : f.code.status = 429) :
    f = .rateLimited := by
  cases f with
  | rateLimited => rfl
  | _ => exact absurd h (by simp [code, FaultCode.status])

/-! ## Closings -/

/-- How a request is answered. -/
inductive Closing where
  | fault (f : Fault)
  | flawed (diagnostics : List Policy.Diagnostic) (rules : List Policy.Rule)
  | badContext (f : ContextFault) (rules : List Policy.Rule)
  | ran (r : EngineResult) (rules : List Policy.Rule)

namespace Closing

/-- The answer to a request. -/
def answer (v : Visit) (now : Moment) : Closing → Answer
  | .fault f => ⟨some f.code, .rejected v.requestId (wholeMs (now - v.arrivedAt)) f⟩
  | .flawed diagnostics rules =>
    ⟨none, .notExecuted v.requestId (wholeMs (now - v.arrivedAt))
      (diagnostics.map .ofDiagnostic) rules⟩
  | .badContext f rules =>
    ⟨none, .notExecuted v.requestId (wholeMs (now - v.arrivedAt))
      [.general (Fault.invalidContext f.message).clientMessage] rules⟩
  | .ran r rules => ⟨none, .executed v.requestId (wholeMs (now - v.arrivedAt)) rules r⟩

/-- The HTTP status of the answer. -/
def status : Closing → Nat
  | .fault f => f.code.status
  | _ => 200

theorem status_answer (c : Closing) (v : Visit) (now : Moment) :
    (c.answer v now).status = c.status := by
  cases c <;> rfl

/-- What a finding closes a request with, unless an engine has to run. -/
def ofFinding? : Finding → Option Closing
  | .faulty f => some (.fault f)
  | .flawed diagnostics rules => some (.flawed diagnostics rules)
  | .badContext f rules => some (.badContext f rules)
  | .sound _ _ => none

/-- What a task closes its request with, unless another engine has to run. -/
def ofRemainder? (rules : List Policy.Rule) : Remainder → Option Closing
  | .secondary => none
  | .surface r => some (.ran r rules)
  | .crash => some (.fault (.internal "engine task failed"))

theorem ne_secondary {rules : List Policy.Rule} {r : Remainder} {c : Closing}
    (h : ofRemainder? rules r = some c) : r ≠ .secondary := by
  rintro rfl
  cases h

/-- A task is closed with a result, or with the fault of a breakdown. -/
theorem status_of_remainder {rules : List Policy.Rule} {r : Remainder} {c : Closing}
    (h : ofRemainder? rules r = some c) : c.status = 200 ∨ c.status = 500 := by
  cases r with
  | secondary => cases h
  | surface r =>
    obtain rfl := Option.some.inj h
    exact .inl rfl
  | crash =>
    obtain rfl := Option.some.inj h
    exact .inr rfl

/-- Only a fault is answered with another status than 200. -/
theorem exists_faulty {found : Finding} {c : Closing} (h : ofFinding? found = some c)
    (h200 : c.status ≠ 200) : ∃ f, found = .faulty f ∧ f.code.status = c.status := by
  cases found with
  | faulty f =>
    obtain rfl := Option.some.inj h
    exact ⟨f, rfl, rfl⟩
  | sound input rules => cases h
  | _ =>
    obtain rfl := Option.some.inj h
    exact absurd rfl h200

end Closing

namespace Gateway

/-- What an answer leaves on record. -/
def recorded (g : Gateway) (v : Visit) (now : Moment) : Closing → Gateway
  | .fault f => g.recordFault f v now
  | .flawed _ _ => g.recordParseError .lintErrors v now
  | .badContext _ _ => g.recordParseError .invalidContext v now
  | .ran r _ => g.recordRun r v now

/-- Answers a request and records the answer. -/
def close (g : Gateway) (v : Visit) (now : Moment) (c : Closing) : Gateway × Option Reaction :=
  (g.recorded v now c, some (.answered v.number (c.answer v now)))

/-- A record touches the telemetry and the metrics and nothing else, and no drain. -/
theorem recorded_eq (g : Gateway) (v : Visit) (now : Moment) (c : Closing) :
    ∃ t m, g.recorded v now c = { g with telemetry := t, metrics := m } ∧
      m.draining = g.metrics.draining := by
  cases c with
  | fault f =>
    unfold recorded recordFault
    simp only
    split <;> exact ⟨_, _, rfl, rfl⟩
  | flawed _ _ => exact ⟨_, _, rfl, rfl⟩
  | badContext _ _ => exact ⟨_, _, rfl, rfl⟩
  | ran _ _ => exact ⟨_, _, rfl, rfl⟩

/-! ## Screening -/

/-- The limiter after a request has arrived. It is asked if the body can be read. -/
def asked (g : Gateway) (a : Arrival) (now : Moment) : Limiter :=
  match a.upload.read g.config.limits with
  | .error _ => g.limiter
  | .ok _ => (g.limiter.accept a.client now).2

/-- What all the stages find, if no slot had to be held between them. -/
def screened (g : Gateway) (a : Arrival) (now : Moment) : Finding :=
  match a.upload.read g.config.limits with
  | .error f => .faulty f
  | .ok body =>
    if (g.limiter.accept a.client now).1 then
      if g.slots.isSaturated then .faulty .busy else .ofBody g.config.limits body
    else .faulty .rateLimited

/-- An arriving request as it is told apart. -/
def visit (g : Gateway) (a : Arrival) (now : Moment) : Visit := ⟨g.arrived, a.requestId, now⟩

/-- The gateway after a request has been numbered and the limiter asked. -/
def entered (g : Gateway) (a : Arrival) (now : Moment) : Gateway :=
  { g with arrived := g.arrived + 1, limiter := g.asked a now }

/-- Takes a slot, without a look at the ceiling. -/
def occupy (g : Gateway) : Gateway := { g with slots.current := g.slots.current + 1 }

/-- **Arriving is screening, and then closing the request or calling an engine.** -/
theorem arrive_eq (g : Gateway) (a : Arrival) (now : Moment) :
    g.arrive a now =
      match g.screened a now with
      | .sound input rules => (g.entered a now).occupy.launch input rules (g.visit a now)
      | .faulty f => (g.entered a now).close (g.visit a now) now (.fault f)
      | .flawed diagnostics rules =>
        (g.entered a now).close (g.visit a now) now (.flawed diagnostics rules)
      | .badContext f rules =>
        (g.entered a now).close (g.visit a now) now (.badContext f rules) := by
  unfold arrive entered asked screened visit
  simp only
  cases a.upload.read g.config.limits with
  | error f => rfl
  | ok body =>
    simp only [received]
    rcases g.limiter.accept a.client now with ⟨_ | _, limiter⟩
    · rfl
    · by_cases hs : g.slots.current < g.slots.max
      · have hfree : g.slots.isSaturated = false := decide_eq_false (Nat.not_le.mpr hs)
        rw [if_pos rfl, hfree, if_neg Bool.false_ne_true]
        simp only [admitted, Slots.acquire?, if_pos hs]
        -- At every exit but the last the slot is given back.
        cases Finding.ofBody g.config.limits body with
        | faulty f => simp only [examined, release, Slots.release, Nat.add_sub_cancel]; rfl
        | flawed ds rules => simp only [examined, release, Slots.release, Nat.add_sub_cancel]; rfl
        | badContext f rules =>
          simp only [examined, release, Slots.release, Nat.add_sub_cancel]; rfl
        | sound input rules => rfl
      · have hfull : g.slots.isSaturated = true := decide_eq_true (Nat.not_lt.mp hs)
        rw [if_pos rfl, hfull, if_pos rfl]
        simp only [admitted, Slots.acquire?, if_neg hs]
        rfl

/-- A request that is closed on arrival is answered at once. -/
theorem step_of_closing {g : Gateway} {now : Moment} {a : Arrival} {c : Closing}
    (h : Closing.ofFinding? (g.screened a now) = some c) :
    g.step now (.arrived a) = (g.entered a now).close (g.visit a now) now c := by
  show g.arrive a now = _
  rw [arrive_eq]
  cases hs : g.screened a now with
  | sound input rules => rw [hs] at h; cases h
  | _ =>
    rw [hs] at h
    obtain rfl := Option.some.inj h
    rfl

/-! ## The ways of an event -/

/-- The ways that an event can go, each with the gateway after it and the reaction to it. -/
inductive Way (g : Gateway) (now : Moment) : Event → Gateway × Option Reaction → Prop
  | closed {a : Arrival} {c : Closing} (h : Closing.ofFinding? (g.screened a now) = some c) :
    Way g now (.arrived a) ((g.entered a now).close (g.visit a now) now c)
  | launched {a : Arrival} {input : EngineInput} {rules : List Policy.Rule}
    (h : g.screened a now = .sound input rules) :
    Way g now (.arrived a) ((g.entered a now).occupy.launch input rules (g.visit a now))
  /-- No engine runs under the number. -/
  | stray {number : Nat} {e : Ending} (h : g.task? number = none) :
    Way g now (.ended number e) (g, none)
  | fellBack {number : Nat} {e : Ending} {t : Task} (ht : g.task? number = some t)
    (h : Remainder.after g.canFallBack t.role e = .secondary) :
    Way g now (.ended number e)
      (g.update t.visit.number fun t => { t with role := .secondary },
        some (.called t.visit.number .secondary t.input))
  | finished {number : Nat} {e : Ending} {t : Task} {c : Closing}
    (ht : g.task? number = some t) (hw : t.awaited = true)
    (h : Closing.ofRemainder? t.rules (.after g.canFallBack t.role e) = some c) :
    Way g now (.ended number e) ((g.finish t).close t.visit now c)
  /-- The caller has left, so nobody is answered and nothing recorded. -/
  | abandoned {number : Nat} {e : Ending} {t : Task} (ht : g.task? number = some t)
    (hw : t.awaited = false)
    (h : Remainder.after g.canFallBack t.role e ≠ .secondary) :
    Way g now (.ended number e) (g.finish t, none)
  | left (number : Nat) :
    Way g now (.left number) (g.update number fun t => { t with awaited := false }, none)
  | drain : Way g now .drain ({ g with metrics.draining := true }, none)
  | resetLimiter : Way g now .resetLimiter ({ g with limiter := g.limiter.reset }, none)
  | resetTelemetry : Way g now .resetTelemetry ({ g with telemetry := .empty }, none)

/-- **Every event goes one of these ways.** -/
theorem step_way (g : Gateway) (now : Moment) (e : Event) : Way g now e (g.step now e) := by
  cases e with
  | arrived a =>
    show Way g now _ (g.arrive a now)
    rw [arrive_eq]
    cases h : g.screened a now with
    | sound input rules => exact .launched h
    | faulty f => exact .closed (congrArg Closing.ofFinding? h)
    | flawed diagnostics rules => exact .closed (congrArg Closing.ofFinding? h)
    | badContext f rules => exact .closed (congrArg Closing.ofFinding? h)
  | ended number e =>
    show Way g now _ (g.ended number e now)
    unfold ended
    cases ht : g.task? number with
    | none => exact .stray ht
    | some t =>
      show Way g now _ (g.resume t now (.after g.canFallBack t.role e))
      cases h : Remainder.after g.canFallBack t.role e with
      | secondary => exact .fellBack ht h
      | surface r =>
        cases hw : t.awaited with
        | true =>
          simp only [resume, hw, if_true]
          exact .finished ht hw (congrArg (Closing.ofRemainder? t.rules) h)
        | false =>
          simp only [resume, hw]
          exact .abandoned ht hw (by rw [h]; simp)
      | crash =>
        cases hw : t.awaited with
        | true =>
          simp only [resume, hw, if_true]
          exact .finished ht hw (congrArg (Closing.ofRemainder? t.rules) h)
        | false =>
          simp only [resume, hw]
          exact .abandoned ht hw (by rw [h]; simp)
  | left number => exact .left number
  | drain => exact .drain
  | resetLimiter => exact .resetLimiter
  | resetTelemetry => exact .resetTelemetry

/-- A refusal on arrival is for the fault that was found. -/
theorem Way.refused {g : Gateway} {now : Moment} {a : Arrival} {s : Gateway × Option Reaction}
    (h : Way g now (.arrived a) s) {n : Nat} {ans : Answer} (hr : s.2 = some (.answered n ans))
    (h200 : ans.status ≠ 200) :
    ∃ f, g.screened a now = .faulty f ∧ f.code.status = ans.status := by
  cases h with
  | @closed _ c h =>
    obtain ⟨-, rfl⟩ := Reaction.answered.inj (Option.some.inj hr)
    rw [Closing.status_answer] at h200 ⊢
    exact Closing.exists_faulty h h200
  | launched h => cases hr

end Gateway

end PolicyGate
