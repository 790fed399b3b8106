import PolicyGate.Proofs.Engine.Schedule

/-!
# The verdict of a watch

* `Complete` — a pipe was captured to its end, byte for byte.
* `InTime` — a status came, and no deadline before it.

**Theorem (`watch_classifies`).** Whatever the schedule, each pipe is captured up to its ceiling and
no further, and the failure is the right one: too much output if and only if a pipe brought in more
than its ceiling; none, or that of an exit, if and only if both pipes were captured completely and
the status came before the deadline. A schedule has at most `2 * cap + 3` events, so a watch comes
to an end without its deadline too.

A watch that its schedule has not ended yet counts as one that is still going at its deadline.
-/

namespace PolicyGate

open Host.Behaviour (readSize)

namespace Watch

variable {cap : Nat} {es : List ProcessEvent}

/-! ## The verdict -/

/-- A pipe was captured to its end. -/
def Complete (written : Pipe → List UInt8) (es : List ProcessEvent) (w : Watch) (pipe : Pipe) :
    Prop :=
  .closed pipe ∈ es ∧ (w.capture pipe).bytes.toList = written pipe

/-- A status came, and no deadline before it. -/
def InTime (status : ExitStatus) (es : List ProcessEvent) : Prop :=
  ∃ before after, es = before ++ .exited status :: after ∧ .deadline ∉ before

/-- Without an excess, a watch is settled by the event that ends it. -/
theorem Schedule.settled_iff (h : Schedule cap es) {s : Settled}
    (hs : s ≠ .stopped .outputTooLarge) :
    ((Watch.start cap).run es).settled = some s ↔ ∃ e ∈ es, e.settles? = some s := by
  have hf := h.follows
  constructor
  · intro hsettled
    obtain hgoing | ⟨before, e, rfl, -, -, hover | ⟨s', hs'⟩⟩ := h.cases_end
    · rw [hf.of_going hgoing] at hsettled
      cases hsettled
    · rw [hf.of_over hover] at hsettled
      exact absurd (Option.some.inj hsettled).symm hs
    · have hlast := hf.of_settles e (by simp) s' hs'
      rw [hlast] at hsettled
      exact ⟨e, by simp, hs'.trans hsettled⟩
  · rintro ⟨e, he, hes⟩
    exact hf.of_settles e he s hes

theorem Schedule.settled_tooLarge_iff (h : Schedule cap es) :
    ((Watch.start cap).run es).settled = some (.stopped .outputTooLarge) ↔
      ∃ pipe, cap < (delivered pipe es).length := by
  have hf := h.follows
  constructor
  · intro hsettled
    obtain hgoing | ⟨before, e, rfl, -, -, hover | ⟨s, hs⟩⟩ := h.cases_end
    · rw [hf.of_going hgoing] at hsettled
      cases hsettled
    · exact hover
    · rw [hf.of_settles e (by simp) s hs] at hsettled
      rw [Option.some.inj hsettled] at hs
      cases e <;> cases hs
  · exact hf.of_over

theorem Schedule.settled_none_iff (h : Schedule cap es) :
    ((Watch.start cap).run es).settled = none ↔ Going cap es := by
  have hf := h.follows
  constructor
  · intro hsettled
    obtain hgoing | ⟨before, e, rfl, -, -, hover | ⟨s, hs⟩⟩ := h.cases_end
    · exact hgoing
    · rw [hf.of_over hover] at hsettled
      cases hsettled
    · rw [hf.of_settles e (by simp) s hs] at hsettled
      cases hsettled
  · exact hf.of_going

/-- **A watch is settled by an exit if and only if both pipes are complete and it came in time.** -/
theorem Schedule.settled_exited_iff (h : Schedule cap es) {written : Pipe → List UInt8}
    (hw : Delivers written es) (status : ExitStatus) :
    ((Watch.start cap).run es).settled = some (.exited status) ↔
      (∀ pipe, Complete written es ((Watch.start cap).run es) pipe) ∧ InTime status es := by
  rw [h.settled_iff (by simp)]
  constructor
  · rintro ⟨e, he, hes⟩
    obtain rfl : e = .exited status := by
      cases e <;> simp [ProcessEvent.settles?] at hes
      rw [hes]
    have hf := h.follows
    obtain hgoing | ⟨before, e, rfl, hgoing, hdue, -⟩ := h.cases_end
    · have hnone := hgoing.settles?_eq_none _ he
      cases hnone
    obtain rfl : .exited status = e := by
      rcases List.mem_append.mp he with he | he
      · have hnone := hgoing.settles?_eq_none _ he
        cases hnone
      · exact List.mem_singleton.mp he
    refine ⟨?_, before, [], rfl, ?_⟩
    · intro pipe
      have hclosed : .closed pipe ∈ before ++ [.exited status] := by simp [hdue pipe]
      refine ⟨hclosed, ?_⟩
      have hle := hgoing.delivered_le pipe
      have hall : delivered pipe (before ++ [.exited status]) = delivered pipe before := by
        simp [delivered_snoc, ProcessEvent.bytes]
      rw [(hf.captured pipe).bytes_eq, ← hw.whole pipe hclosed, hall, List.take_of_length_le hle]
    · intro hdeadline
      have hnone := hgoing.settles?_eq_none _ hdeadline
      cases hnone
  · rintro ⟨-, before, after, rfl, -⟩
    exact ⟨.exited status, by simp, rfl⟩

/-! ## The failure of a run -/

/-- The failure that a watch settles for. -/
def verdict (policyCodes : List Int) : Option Settled → Option Failure
  | some (.exited status) => exitFailure policyCodes status
  | some (.stopped f) => some f
  | none => some .timeout

theorem failure_outcome (policyCodes : List Int) (w : Watch) :
    (w.outcome policyCodes).failure = verdict policyCodes w.settled := by
  unfold outcome verdict
  cases w.settled with
  | none => rfl
  | some s => cases s <;> rfl

theorem exitFailure_eq_none_iff (policyCodes : List Int) (status : ExitStatus) :
    exitFailure policyCodes status = none ↔ status.isSuccess = true := by
  unfold exitFailure
  by_cases h : status.isSuccess = true <;> simp [h]

/-- A code that the command lists blames the policy. -/
theorem exitFailure_eq_exit_iff (policyCodes : List Int) (status : ExitStatus) (code : Option Int)
    (policy : Bool) :
    exitFailure policyCodes status = some (.exit code policy) ↔ status.isSuccess = false ∧
      code = status.code? ∧ (policy = true ↔ ∃ n ∈ policyCodes, status = .code n) := by
  have hany : (status.code?.any (· ∈ policyCodes)) = true ↔
      ∃ n ∈ policyCodes, status = .code n := by
    cases status with
    | code n => simp [ExitStatus.code?]
    | signal => simp [ExitStatus.code?]
  unfold exitFailure
  by_cases h : status.isSuccess = true
  · simp [h]
  · rw [if_neg h, ← hany, ← Bool.eq_iff_iff, Option.some.injEq, Failure.exit.injEq]
    simp [h, eq_comm]

theorem exitFailure_eq_exit {policyCodes : List Int} {status : ExitStatus} {f : Failure}
    (h : exitFailure policyCodes status = some f) : ∃ code policy, f = .exit code policy := by
  unfold exitFailure at h
  split at h
  · cases h
  · exact ⟨_, _, (Option.some.inj h).symm⟩

/-- A failure that is none of an exit or the deadline is the one that the watch stopped with. -/
theorem verdict_eq_some_iff {policyCodes : List Int} {settled : Option Settled} {f : Failure}
    (hexit : ∀ code policy, f ≠ .exit code policy) (htimeout : f ≠ .timeout) :
    verdict policyCodes settled = some f ↔ settled = some (.stopped f) := by
  unfold verdict
  constructor
  · intro h
    split at h
    · obtain ⟨code, policy, hf⟩ := exitFailure_eq_exit h
      exact absurd hf (hexit code policy)
    · rw [Option.some.inj h]
    · exact absurd (Option.some.inj h).symm htimeout
  · rintro rfl
    rfl

theorem verdict_eq_none_iff {policyCodes : List Int} {settled : Option Settled} :
    verdict policyCodes settled = none ↔
      ∃ status : ExitStatus, status.isSuccess = true ∧ settled = some (.exited status) := by
  unfold verdict
  constructor
  · intro h
    split at h
    · next status => exact ⟨status, (exitFailure_eq_none_iff policyCodes status).mp h, rfl⟩
    · cases h
    · cases h
  · rintro ⟨status, hsuccess, rfl⟩
    exact (exitFailure_eq_none_iff policyCodes status).mpr hsuccess

theorem verdict_eq_exit_iff {policyCodes : List Int} {settled : Option Settled}
    (hsettled : ∀ code policy, settled ≠ some (.stopped (.exit code policy))) (code : Option Int)
    (policy : Bool) :
    verdict policyCodes settled = some (.exit code policy) ↔ ∃ status : ExitStatus,
      settled = some (.exited status) ∧ status.isSuccess = false ∧ code = status.code? ∧
        (policy = true ↔ ∃ n ∈ policyCodes, status = .code n) := by
  unfold verdict
  constructor
  · intro h
    split at h
    · next status => exact ⟨status, rfl, (exitFailure_eq_exit_iff ..).mp h⟩
    · rw [Option.some.inj h] at hsettled
      exact absurd rfl (hsettled code policy)
    · cases h
  · rintro ⟨status, rfl, h⟩
    exact (exitFailure_eq_exit_iff ..).mpr h

theorem verdict_eq_timeout_iff {policyCodes : List Int} {settled : Option Settled} :
    verdict policyCodes settled = some .timeout ↔
      settled = some (.stopped .timeout) ∨ settled = none := by
  unfold verdict
  constructor
  · intro h
    split at h
    · obtain ⟨code, policy, hf⟩ := exitFailure_eq_exit h
      cases hf
    · rw [Option.some.inj h]
      exact .inl rfl
    · exact .inr rfl
  · rintro (rfl | rfl) <;> rfl

/-! ## The verdict of a schedule -/

variable {written : Pipe → List UInt8}

/-- A watch is never stopped with an exit: an exit settles it in a way of its own. -/
theorem Schedule.settled_ne_exit (h : Schedule cap es) (code : Option Int) (policy : Bool) :
    ((Watch.start cap).run es).settled ≠ some (.stopped (.exit code policy)) := by
  intro hsettled
  obtain ⟨e, -, he⟩ := (h.settled_iff (by simp)).mp hsettled
  cases e <;> cases he

/-- Each pipe is captured up to its ceiling and no further. -/
theorem Schedule.captured_prefix (h : Schedule cap es) (hw : Delivers written es) (pipe : Pipe) :
    (((Watch.start cap).run es).capture pipe).bytes.toList <+: written pipe ∧
      (((Watch.start cap).run es).capture pipe).bytes.size ≤ cap := by
  have hc := h.follows.captured pipe
  refine ⟨?_, hc.size_le⟩
  rw [hc.bytes_eq]
  exact (List.take_prefix cap _).trans (hw.isPrefix pipe)

theorem Schedule.failure_tooLarge_iff (h : Schedule cap es) (policyCodes : List Int) :
    (((Watch.start cap).run es).outcome policyCodes).failure = some .outputTooLarge ↔
      ∃ pipe, cap < (delivered pipe es).length := by
  rw [failure_outcome, verdict_eq_some_iff (by simp) (by simp)]
  exact h.settled_tooLarge_iff

theorem Schedule.failure_none_iff (h : Schedule cap es) (hw : Delivers written es)
    (policyCodes : List Int) :
    let w := (Watch.start cap).run es
    (w.outcome policyCodes).failure = none ↔ (∀ pipe, Complete written es w pipe) ∧
      ∃ status : ExitStatus, status.isSuccess = true ∧ InTime status es := by
  intro w
  have hexited := h.settled_exited_iff hw
  rw [failure_outcome, verdict_eq_none_iff]
  constructor
  · rintro ⟨status, hsuccess, hsettled⟩
    obtain ⟨hcomplete, htime⟩ := (hexited status).mp hsettled
    exact ⟨hcomplete, status, hsuccess, htime⟩
  · rintro ⟨hcomplete, status, hsuccess, htime⟩
    exact ⟨status, hsuccess, (hexited status).mpr ⟨hcomplete, htime⟩⟩

theorem Schedule.failure_exit_iff (h : Schedule cap es) (hw : Delivers written es)
    (policyCodes : List Int) (code : Option Int) (policy : Bool) :
    let w := (Watch.start cap).run es
    (w.outcome policyCodes).failure = some (.exit code policy) ↔
      (∀ pipe, Complete written es w pipe) ∧ ∃ status : ExitStatus,
        status.isSuccess = false ∧ InTime status es ∧ code = status.code? ∧
          (policy = true ↔ ∃ n ∈ policyCodes, status = .code n) := by
  intro w
  have hexited := h.settled_exited_iff hw
  rw [failure_outcome, verdict_eq_exit_iff h.settled_ne_exit]
  constructor
  · rintro ⟨status, hsettled, hfails, hcode, hpolicy⟩
    obtain ⟨hcomplete, htime⟩ := (hexited status).mp hsettled
    exact ⟨hcomplete, status, hfails, htime, hcode, hpolicy⟩
  · rintro ⟨hcomplete, status, hfails, htime, hcode, hpolicy⟩
    exact ⟨status, (hexited status).mpr ⟨hcomplete, htime⟩, hfails, hcode, hpolicy⟩

theorem Schedule.failure_timeout_iff (h : Schedule cap es) (policyCodes : List Int) :
    (((Watch.start cap).run es).outcome policyCodes).failure = some .timeout ↔
      .deadline ∈ es ∨ Going cap es := by
  rw [failure_outcome, verdict_eq_timeout_iff, h.settled_none_iff, h.settled_iff (by simp)]
  refine or_congr_left ?_
  constructor
  · rintro ⟨e, he, hes⟩
    cases e <;> first | exact he | cases hes
  · intro he
    exact ⟨_, he, rfl⟩

theorem Schedule.failure_io_iff (h : Schedule cap es) (policyCodes : List Int) (reason : String) :
    (((Watch.start cap).run es).outcome policyCodes).failure = some (.io reason) ↔
      .readFailed reason ∈ es ∨ .waitFailed reason ∈ es := by
  rw [failure_outcome, verdict_eq_some_iff (by simp) (by simp), h.settled_iff (by simp)]
  constructor
  · rintro ⟨e, he, hes⟩
    cases e with
    | readFailed r =>
      obtain rfl : r = reason := by simpa [ProcessEvent.settles?] using hes
      exact .inl he
    | waitFailed r =>
      obtain rfl : r = reason := by simpa [ProcessEvent.settles?] using hes
      exact .inr he
    | read p chunk => cases hes
    | closed p => cases hes
    | deadline => cases hes
    | exited status => cases hes
  · rintro (he | he)
    · exact ⟨_, he, rfl⟩
    · exact ⟨_, he, rfl⟩

/-- **A watch classifies every run correctly, under every schedule, and comes to an end.** -/
theorem watch_classifies (cap : Nat) (policyCodes : List Int) (written : Pipe → List UInt8)
    (es : List ProcessEvent) (hs : Schedule cap es) (hw : Delivers written es) :
    let w := (start cap).run es
    let failure := (w.outcome policyCodes).failure
    let complete := ∀ pipe, Complete written es w pipe
    (∀ pipe, (w.capture pipe).bytes.toList <+: written pipe ∧
      (w.capture pipe).bytes.size ≤ cap) ∧
    (failure = some .outputTooLarge ↔ ∃ pipe, cap < (delivered pipe es).length) ∧
    (failure = none ↔ complete ∧ ∃ status, status.isSuccess = true ∧ InTime status es) ∧
    (∀ code policy, failure = some (.exit code policy) ↔ complete ∧ ∃ status,
      status.isSuccess = false ∧ InTime status es ∧ code = status.code? ∧
        (policy = true ↔ ∃ n ∈ policyCodes, status = .code n)) ∧
    (failure = some .timeout ↔ .deadline ∈ es ∨ Going cap es) ∧
    (∀ reason, failure = some (.io reason) ↔ .readFailed reason ∈ es ∨ .waitFailed reason ∈ es) ∧
    (w.settled = none ↔ Going cap es) ∧
    es.length ≤ 2 * cap + 3 ∧
    ∀ pipe, (delivered pipe es).length ≤ cap + readSize := by
  intro w failure complete
  refine ⟨hs.captured_prefix hw, hs.failure_tooLarge_iff policyCodes,
    hs.failure_none_iff hw policyCodes, hs.failure_exit_iff hw policyCodes,
    hs.failure_timeout_iff policyCodes, hs.failure_io_iff policyCodes, hs.settled_none_iff,
    hs.length_le, hs.delivered_le⟩

/-- Output up to the ceiling, the pipes closed in the other order, and an exit that blames the
policy; and a byte more, after which nothing else counts. -/
theorem verdicts_at_ceiling :
    let written : Pipe → List UInt8
      | .stdout => [1, 2, 3]
      | .stderr => []
    let full : List ProcessEvent := [.read .stdout [1, 2], .read .stdout [3], .closed .stderr,
      .closed .stdout, .exited (.code 7)]
    let excess : List ProcessEvent := [.read .stdout [1, 2], .read .stdout [3]]
    (Schedule 3 full ∧ Delivers written full ∧
        (((start 3).run full).outcome [7]).failure = some (.exit (some 7) true)) ∧
      Schedule 2 excess ∧ Delivers written excess ∧
        (((start 2).run excess).outcome [7]).failure = some .outputTooLarge := by
  intro written full excess
  have h₁ : Schedule 3 [.read .stdout [1, 2]] := .next .start (by decide) (by decide)
  have h₂ : Schedule 3 [.read .stdout [1, 2], .read .stdout [3]] :=
    .next h₁ (by decide) (by decide)
  have h₃ : Schedule 3 [.read .stdout [1, 2], .read .stdout [3], .closed .stderr] :=
    .next h₂ (by decide) (by decide)
  have h₄ : Schedule 3 [.read .stdout [1, 2], .read .stdout [3], .closed .stderr,
      .closed .stdout] := .next h₃ (by decide) (by decide)
  have hfull : Schedule 3 full := .next h₄ (by decide) (by decide)
  have hover : Schedule 2 excess :=
    .next (.next .start (by decide) (by decide)) (by decide) (by decide)
  have hwritten : Delivers written full := ⟨by decide, by decide⟩
  have hwritten' : Delivers written excess := ⟨by decide, by decide⟩
  refine ⟨⟨hfull, hwritten, ?_⟩, hover, hwritten', ?_⟩
  · obtain ⟨-, -, -, hexit, -⟩ := watch_classifies 3 [7] written full hfull hwritten
    rw [hexit]
    have htime : InTime (.code 7) full := by
      refine ⟨[.read .stdout [1, 2], .read .stdout [3], .closed .stderr, .closed .stdout], [], rfl,
        ?_⟩
      decide
    refine ⟨?_, .code 7, by decide, htime, rfl, by simp⟩
    unfold Complete
    decide
  · obtain ⟨-, htooLarge, -⟩ := watch_classifies 2 [7] written excess hover hwritten'
    exact htooLarge.mpr ⟨.stdout, by decide⟩

end Watch

end PolicyGate
