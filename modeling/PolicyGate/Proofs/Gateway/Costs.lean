import PolicyGate.Proofs.Gateway.Dossier
import PolicyGate.Proofs.Gateway.Inflight
import PolicyGate.Proofs.Gateway.Quota

/-!
# What a request costs, by the stage that it fails

A request costs its client a part of the quota once its body has been read, and it costs a slot,
which is given back, once the limiter has admitted it. So what it costs depends on how far it gets
and on nothing else.

**Theorem (`costs_by_stage`).** In every run, a request whose body does not fit changes neither the
limiter nor the slots and calls no engine. Nor does one that is answered 429, but that times which
are too old may be forgotten. One that is answered 503 is recorded once, for its client, and leaves
the slots alone. Every other request is recorded once, for its client, and once it is answered as
many slots are taken as the other requests have taken by themselves. Hence, with all requests in one
window, a request with a body that fits is answered 429 if and only if at least as many as allowed
have been charged to its client since the limiter was cleared.
-/

namespace PolicyGate

/-- The request for which a slot is moved. -/
def Move.number : Move → Nat
  | .take n | .give n => n

namespace Gateway

variable {g g' : Gateway} {now : Moment} {a : Arrival} {n : Nat} {ms : List Move}

/-! ## The slots of the other requests -/

/-- The slots that requests other than one have taken. -/
def slotsWithout (g : Gateway) (n : Nat) : Slots :=
  ⟨(g.underway.filter (· ≠ n)).length, g.slots.max⟩

/-- The moves of the others lead from their slots to their slots. -/
theorem Shift.replay_others (h : Shift g g' ms) (ho : Orderly g)
    (hmax : g'.slots.max = g.slots.max) (n : Nat) :
    (g.slotsWithout n).replay? (ms.filter (·.number ≠ n)) = some (g'.slotsWithout n) := by
  have hle : (g.slotsWithout n).current ≤ g.slots.current := by
    rw [ho.held]
    exact List.length_filter_le ..
  unfold slotsWithout at *
  rw [hmax]
  cases h with
  | still hu hs =>
    rw [hu]
    rfl
  | passed hfree hu hs ha =>
    rw [hu]
    by_cases hn : g.arrived = n
    · simp [Move.number, hn, Slots.replay?]
    · have hroom := Nat.lt_of_le_of_lt hle hfree
      simpa [Move.number, hn] using Slots.replay?_take_give hroom g.arrived
  | begun hfree hu hs ha =>
    rw [hu, List.filter_append]
    by_cases hn : g.arrived = n
    · simp [Move.number, hn, Slots.replay?]
    · have hroom := Nat.lt_of_le_of_lt hle hfree
      simp_all [Move.number, Slots.replay?, Slots.move?, Slots.acquire?]
  | @ended m hm hu hs =>
    rw [hu]
    by_cases hn : m = n
    · subst hn
      simp [Move.number, Slots.replay?]
    · have hmem : m ∈ g.underway.filter (· ≠ n) := List.mem_filter.mpr ⟨hm, by simpa using hn⟩
      have hpos := List.length_pos_of_mem hmem
      rw [List.filter_comm, length_filter_ne (ho.nodup.filter _) hmem]
      simp_all [Move.number, Slots.replay?, Slots.move?, Slots.release]

/-- **The moves of the other requests lead to the slots that these have taken.** -/
theorem replay_others (ho : Orderly g) (es : List (Moment × Event)) (n : Nat) :
    (g.slotsWithout n).replay? ((g.runMoves es).filter (·.number ≠ n)) =
      some ((g.run es).1.slotsWithout n) := by
  induction es generalizing g with
  | nil => rfl
  | cons e es ih =>
    obtain ⟨now, e⟩ := e
    have hw := step_way g now e
    rw [runMoves, List.filter_append, Slots.replay?_append,
      hw.shift.replay_others ho hw.settings.2.2 n]
    exact ih (hw.orderly ho)

/-- A request that is done has taken no slot. -/
theorem slotsWithout_of_done (ho : Orderly g) (hn : Done n g) : g.slotsWithout n = g.slots := by
  have hall : g.underway.filter (· ≠ n) = g.underway :=
    List.filter_eq_self.mpr fun m hm => decide_eq_true fun he => hn.2 (he ▸ hm)
  unfold slotsWithout
  rw [hall, ← ho.held]

/-! ## Requests in front of the slots -/

/-- An event moves no slot and leaves the tasks alone. -/
def Idle (g : Gateway) (now : Moment) (e : Event) : Prop :=
  g.moves now e = [] ∧ (g.step now e).1.slots = g.slots ∧ (g.step now e).1.tasks = g.tasks

/-- A request that does not get as far as the slots does not move any. -/
theorem moves_of_not_admits (h : ¬ Admits g now a) : g.moves now (.arrived a) = [] := by
  unfold moves
  simp only
  by_cases hfits : a.upload.Fits g.config.limits
  · rw [Upload.read_of_fits hfits]
    exact if_neg fun hc => h ⟨hfits, hc.1, acquire?_isSome.mp hc.2⟩
  · obtain ⟨f, hf⟩ := Upload.read_of_not_fits hfits
    rw [hf]

theorem closing_of_not_admits (h : ¬ Admits g now a) :
    ∃ c, Closing.ofFinding? (g.screened a now) = some c :=
  closing_of_not_passes fun _ hs => h hs.toAdmits

theorem idle_of_not_admits (h : ¬ Admits g now a) : g.Idle now (.arrived a) := by
  obtain ⟨c, hc⟩ := closing_of_not_admits h
  have hslots := slots_recorded (g.entered a now) (g.visit a now) now c
  have htasks := tasks_recorded (g.entered a now) (g.visit a now) now c
  rw [Idle, step_of_closing hc]
  exact ⟨moves_of_not_admits h, hslots, htasks⟩

/-- A request that is answered at once leaves slots and tasks as they were. -/
theorem Way.still_of_answered {s : Gateway × Option Reaction} (h : Way g now (.arrived a) s)
    {ans : Answer} (hr : s.2 = some (.answered n ans)) :
    s.1.slots = g.slots ∧ s.1.tasks = g.tasks := by
  cases h with
  | @closed _ c hc =>
    exact ⟨slots_recorded (g.entered a now) _ now c, tasks_recorded (g.entered a now) _ now c⟩
  | launched hs => cases hr

/-! ## What is seen of a request -/

variable {before after : List (Moment × Event)}

/-- Who is told to slow down has sent a body that fits, and the limiter has not admitted it. -/
theorem rateLimited_iff (ho : Orderly g) :
    (∃ ans, .answered (g.run before).1.arrived ans ∈
        (g.run (before ++ (now, .arrived a) :: after)).2 ∧ ans.status = 429) ↔
      a.upload.Fits (g.run before).1.config.limits ∧
        ((g.run before).1.limiter.accept a.client now).1 = false := by
  rw [← screened_rateLimited_iff]
  exact refused_iff ho .rateLimited (fun _ => Fault.eq_rateLimited_of_status) (by decide)
    (by decide)

/-- Who finds no free slot has been admitted by the limiter. -/
theorem admitted_of_busy (ho : Orderly g)
    (h : ∃ ans, .answered (g.run before).1.arrived ans ∈
      (g.run (before ++ (now, .arrived a) :: after)).2 ∧ ans.status = 503) :
    a.upload.Fits (g.run before).1.config.limits ∧
      ((g.run before).1.limiter.accept a.client now).1 = true ∧
      (g.run before).1.slots.max ≤ (g.run before).1.slots.current := by
  have hbusy : (g.run before).1.screened a now = .faulty .busy :=
    (refused_iff ho .busy (fun _ => Fault.eq_busy_of_status) (by decide) (by decide)).mp h
  cases stopped_of_faulty hbusy with
  | busy hfits hadmitted hfull => exact ⟨hfits, hadmitted, hfull⟩

/-- No engine is called for a request that does not get as far as the slots. -/
theorem uncalled_of_not_admits (ho : Orderly g) (h : ¬ Admits (g.run before).1 now a)
    (role : EngineRole) (input : EngineInput) :
    .called (g.run before).1.arrived role input ∉
      (g.run (before ++ (now, .arrived a) :: after)).2 := by
  intro hm
  obtain ⟨c, hclosing⟩ := closing_of_not_admits h
  obtain ⟨at', hd⟩ := Course.of_closing (course_of_request ho before now a after) hclosing
  have hcalls := calls_dossier g (before ++ (now, .arrived a) :: after) (g.run before).1.arrived
  rw [hd] at hcalls
  have hcall := List.filterMap_eq_nil_iff.mp hcalls.symm _ hm
  simp [Reaction.callFor?] at hcall

/-! ## The costs -/

/-- **A request costs what the stages that it has passed give out.** A request whose body does not
fit, one that is answered 429 and one that is answered 503 move no slot and call no engine. The
first does not even change the limiter, the second is not recorded, and every other request is
recorded once. Only arrivals and clearing change the limiter. Once a request is answered, the slots
are those that the others have taken. In a window, a client's quota is what has been charged to
it. -/
theorem costs_by_stage (config : Config) (canFallBack : Bool) (begin : Moment)
    (before : List (Moment × Event)) (now : Moment) (a : Arrival)
    (after : List (Moment × Event)) :
    let g₀ := start config canFallBack begin
    let es := before ++ (now, .arrived a) :: after
    let g := (g₀.run before).1
    let g' := (g.step now (.arrived a)).1
    let answered := fun status =>
      ∃ ans, .answered g.arrived ans ∈ (g₀.run es).2 ∧ ans.status = status
    let idle := g.Idle now (.arrived a) ∧
      ∀ role input, .called g.arrived role input ∉ (g₀.run es).2
    (¬ a.upload.Fits config.limits → g'.limiter = g.limiter ∧ idle) ∧
    (answered 429 → g.limiter.Records now none g'.limiter ∧ idle) ∧
    (answered 503 → g.limiter.Records now (some a.client) g'.limiter ∧ idle) ∧
    (a.upload.Fits config.limits → ¬ answered 429 →
      g.limiter.Records now (some a.client) g'.limiter) ∧
    (∀ s at' e, e.arrival? = none → e.clears = false → (step s at' e).1.limiter = s.limiter) ∧
    (∀ ans, (g.step now (.arrived a)).2 = some (.answered g.arrived ans) →
      g'.slots = g.slots ∧ g'.tasks = g.tasks) ∧
    (∀ ans, .answered g.arrived ans ∈ (g₀.run es).2 →
      (Slots.start config.admission.maxInflight).replay?
        ((g₀.runMoves es).filter (·.number ≠ g.arrived)) = some (g₀.run es).1.slots) ∧
    (answered 429 ↔ (g.step now (.arrived a)).2.bind Reaction.status? = some 429) ∧
    ∀ lo : Moment,
      (∀ at' b, (at', .arrived b) ∈ before ++ [(now, .arrived a)] →
        lo ≤ at' ∧ at' ≤ lo + config.rate.windowMs * 1000000) →
      a.upload.Fits config.limits →
      (answered 429 ↔ config.rate.maxRequests ≤
        (sinceCleared (g₀.trace before)).countP (charged config.limits a.client)) := by
  intro g₀ es g g' answered idle
  have ho₀ : Orderly g₀ := orderly_start config canFallBack begin
  have hconfig : g.config = config := (settings_run g₀ before).1
  have hd : g.limiter.Distinct := (metered_run config canFallBack begin before).distinct
  have hfit : a.upload.Fits g.config.limits ↔ a.upload.Fits config.limits := by rw [hconfig]
  have hrate : answered 429 ↔
      a.upload.Fits g.config.limits ∧ (g.limiter.accept a.client now).1 = false :=
    rateLimited_iff ho₀
  have hidle (h : ¬ Admits g now a) : idle :=
    ⟨idle_of_not_admits h, uncalled_of_not_admits ho₀ h⟩
  refine ⟨fun hfits => ?_, fun h => ?_, fun h => ?_, fun hfits h => ?_,
    fun s at' e => (step_way s at' e).limiter_other,
    fun ans => (step_way g now (.arrived a)).still_of_answered, fun ans hm => ?_,
    hrate.trans (status_arrived g now a).symm, fun lo hin hfits => ?_⟩
  · rw [← hfit] at hfits
    refine ⟨?_, hidle fun hin => hfits hin.fits⟩
    exact (step_way g now (.arrived a)).limiter.trans (asked_of_not_fits hfits)
  · obtain ⟨hfits, ha⟩ := hrate.mp h
    refine ⟨records_of_not_accept hd hfits ha, hidle fun hin => ?_⟩
    rw [hin.admitted] at ha
    cases ha
  · obtain ⟨hfits, ha, hfull⟩ := admitted_of_busy ho₀ h
    exact ⟨records_of_accept hd hfits ha, hidle fun hin => Nat.not_lt.mpr hfull hin.free⟩
  · rw [hrate, not_and, Bool.not_eq_false] at h
    exact records_of_accept hd (hfit.mpr hfits) (h (hfit.mpr hfits))
  · have hothers := replay_others ho₀ es g.arrived
    rw [slotsWithout_of_done (orderly_run ho₀ es) (done_of_mem_run ho₀ hm)] at hothers
    exact hothers
  · have haccept : (g.limiter.accept a.client now).1 = true ↔ _ :=
      accept_iff_charged config canFallBack begin lo a hin
    rw [hrate, and_iff_right (hfit.mpr hfits), ← Bool.not_eq_true, haccept, Nat.not_lt]

/-- Settings with one slot, and one request in a window. -/
def frugalConfig : Config := { sampleConfig with rate := { maxRequests := 1 } }

/-- While the only slot is taken another client comes three times, once with a body that breaks
off. -/
def frugalRun : List (Moment × Event) :=
  [(0, .arrived ⟨"r0", "a", .whole sampleBody⟩), (1, .arrived ⟨"r1", "b", .whole []⟩),
    (2, .arrived ⟨"r2", "b", ⟨[], true⟩⟩), (3, .arrived ⟨"r3", "b", .whole []⟩)]

/-- The request that finds no free slot uses up the quota, and the one that breaks off costs
nothing. So the last one is told to slow down. -/
theorem costs_of_frugalRun :
    let g₀ := start frugalConfig true 0
    let g := fun k => (g₀.run (frugalRun.take k)).1
    (g 1).limiter.Records 1 (some "b") (g 2).limiter ∧ (g 3).limiter = (g 2).limiter ∧
      (g 3).limiter.Records 3 none (g 4).limiter ∧
      ∃ ans, .answered 3 ans ∈ (g₀.run frugalRun).2 ∧ ans.status = 429 := by
  intro g₀ g
  have hseen : (g 3).arrived = 3 ∧ (Upload.whole []).Fits frugalConfig.limits ∧
      ¬ Upload.Fits ⟨[], true⟩ frugalConfig.limits ∧
      ((g 1).step 1 (.arrived ⟨"r1", "b", .whole []⟩)).2.bind Reaction.status? ≠ some 429 ∧
      (sinceCleared (g₀.trace (frugalRun.take 3))).countP
        (charged frugalConfig.limits "b") = 1 := by
    decide +kernel
  obtain ⟨hnumber, hfits, hbroken, hbusy, hcharged⟩ := hseen
  refine ⟨?_, ?_, ?_⟩
  · obtain ⟨-, -, -, hrecords, -, -, -, hslow, -⟩ := costs_by_stage frugalConfig true 0
      (frugalRun.take 1) 1 ⟨"r1", "b", .whole []⟩ (frugalRun.drop 2)
    exact hrecords hfits (mt hslow.mp hbusy)
  · obtain ⟨hnothing, -⟩ := costs_by_stage frugalConfig true 0
      (frugalRun.take 2) 2 ⟨"r2", "b", ⟨[], true⟩⟩ (frugalRun.drop 3)
    exact (hnothing hbroken).1
  · obtain ⟨-, hslowed, -, -, -, -, -, -, hquota⟩ := costs_by_stage frugalConfig true 0
      (frugalRun.take 3) 3 ⟨"r3", "b", .whole []⟩ []
    have hslow := (hquota 0 (fun at' b hm => ?_) hfits).mpr (Nat.le_of_eq hcharged.symm)
    · refine ⟨(hslowed hslow).1, ?_⟩
      rw [← hnumber]
      exact hslow
    · have hle : ∀ e ∈ frugalRun, e.1 ≤ 3 := by decide
      exact ⟨Nat.zero_le _, Nat.le_trans (hle _ hm) (by decide)⟩

end Gateway

end PolicyGate
