import Mathlib.Data.List.Nodup
import PolicyGate.Gateway.Response
import PolicyGate.Proofs.Gateway.Dossier

/-!
# Slots are neither lost nor given back twice

A slot is taken for a request behind the limiter and given back when the request is answered there
or its engine task ends. The *moves* of a run are all takings and givings in order, and replaying
them fails if a slot is taken where none is free or given back where none is taken.

**Theorem (`slots_follow_tasks`).** In every run the moves replay to the slots of the gateway. No
request takes more than one slot, and it has given it back unless its task is unfinished. So as many
slots are taken as tasks are unfinished, whoever has left, and none for a request that has been
answered. A request behind the limiter is answered 503 if and only if all slots are taken by such
tasks when it arrives, and the readiness endpoint answers so if and only if they are, or the gateway
drains.
-/

namespace PolicyGate

/-! ## Moves -/

/-- A slot is taken for a request, or given back. -/
inductive Move where
  | take (number : Nat)
  | give (number : Nat)
  deriving DecidableEq, Repr

/-- Makes a move, if there is a slot for it: a free one to take, or a taken one to give back. -/
def Slots.move? (s : Slots) : Move → Option Slots
  | .take _ => s.acquire?
  | .give _ => if s.current = 0 then none else some s.release

/-- Makes moves in order. -/
def Slots.replay? (s : Slots) (ms : List Move) : Option Slots := ms.foldlM Slots.move? s

theorem Slots.replay?_append (s : Slots) (ms ms' : List Move) :
    s.replay? (ms ++ ms') = (s.replay? ms).bind fun s => s.replay? ms' := List.foldlM_append

/-- Taking a free slot and giving it back changes nothing. -/
theorem Slots.replay?_take_give {s : Slots} (h : s.current < s.max) (n : Nat) :
    s.replay? [.take n, .give n] = some s := by
  simp [replay?, move?, acquire?, release, h]

namespace Gateway

/-- The moves of an event. A request takes a slot if its body can be read, its client is admitted
and a slot is free. It gives the slot back at once unless it is sound, and else when its task
ends. -/
def moves (g : Gateway) (now : Moment) : Event → List Move
  | .arrived a =>
    match a.upload.read g.config.limits with
    | .error _ => []
    | .ok body =>
      if (g.limiter.accept a.client now).1 ∧ (g.slots.acquire?).isSome then
        match Finding.ofBody g.config.limits body with
        | .sound _ _ => [.take g.arrived]
        | _ => [.take g.arrived, .give g.arrived]
      else []
  | .ended number e =>
    match g.task? number with
    | none => []
    | some t =>
      match Remainder.after g.canFallBack t.role e with
      | .secondary => []
      | _ => [.give number]
  | _ => []

/-- The moves of a run. -/
def runMoves (g : Gateway) : List (Moment × Event) → List Move
  | [] => []
  | (now, e) :: es => g.moves now e ++ runMoves (g.step now e).1 es

variable {g : Gateway} {now : Moment} {e : Event} {s : Gateway × Option Reaction} {n : Nat}

/-! ## The moves of each way -/

/-- Behind the limiter it is the slots that decide, and then the body. -/
theorem screened_behind_limiter {a : Arrival} {body : List UInt8}
    (hr : a.upload.read g.config.limits = .ok body)
    (ha : (g.limiter.accept a.client now).1 = true) :
    g.screened a now =
      if g.slots.isSaturated then .faulty .busy else .ofBody g.config.limits body := by
  unfold screened
  simp only [hr, ha, if_true]

theorem acquire?_isSome {s : Slots} : s.acquire?.isSome ↔ s.current < s.max := by
  unfold Slots.acquire?
  split <;> simp_all

/-- A request that is closed on arrival moves no slot, or takes a free one and gives it back. -/
theorem moves_closed {a : Arrival} {c : Closing}
    (h : Closing.ofFinding? (g.screened a now) = some c) :
    g.moves now (.arrived a) = [] ∨ g.slots.current < g.slots.max ∧
      g.moves now (.arrived a) = [.take g.arrived, .give g.arrived] := by
  unfold moves
  simp only
  cases hr : a.upload.read g.config.limits with
  | error f => exact .inl rfl
  | ok body =>
    simp only
    by_cases hc : (g.limiter.accept a.client now).1 = true ∧ g.slots.acquire?.isSome
    · have hs : g.slots.current < g.slots.max := acquire?_isSome.mp hc.2
      have hfree : g.slots.isSaturated = false := decide_eq_false (Nat.not_le.mpr hs)
      rw [screened_behind_limiter hr hc.1, hfree, if_neg Bool.false_ne_true] at h
      rw [if_pos hc]
      refine .inr ⟨hs, ?_⟩
      cases hf : Finding.ofBody g.config.limits body with
      | sound input rules => rw [hf] at h; cases h
      | _ => rfl
    · rw [if_neg hc]
      exact .inl rfl

/-- A sound request takes a slot. -/
theorem moves_launched {a : Arrival} {input : EngineInput} {rules : List Policy.Rule}
    (h : g.screened a now = .sound input rules) :
    g.moves now (.arrived a) = [.take g.arrived] := by
  have hs := free_of_sound h
  unfold moves screened at *
  simp only
  cases hr : a.upload.read g.config.limits with
  | error f => rw [hr] at h; cases h
  | ok body =>
    rw [hr] at h
    simp only at h ⊢
    split at h
    · next ha =>
      split at h
      · cases h
      · rw [if_pos ⟨ha, acquire?_isSome.mpr hs⟩, h]
    · cases h

theorem moves_stray {number : Nat} {e : Ending} (h : g.task? number = none) :
    g.moves now (.ended number e) = [] := by
  simp only [moves, h]

theorem moves_fellBack {number : Nat} {e : Ending} {t : Task} (ht : g.task? number = some t)
    (h : Remainder.after g.canFallBack t.role e = .secondary) :
    g.moves now (.ended number e) = [] := by
  simp only [moves, ht, h]

/-- The end of a task gives its slot back. -/
theorem moves_ended {number : Nat} {e : Ending} {t : Task} (ht : g.task? number = some t)
    (h : Remainder.after g.canFallBack t.role e ≠ .secondary) :
    g.moves now (.ended number e) = [.give t.visit.number] := by
  rw [(task?_eq_some ht).2]
  simp only [moves, ht]

/-- How an event shifts slots and tasks, with the moves that it makes. -/
inductive Shift (g g' : Gateway) : List Move → Prop
  | still (hu : g'.underway = g.underway) (hs : g'.slots = g.slots) : Shift g g' []
  /-- A request is closed behind the limiter. -/
  | passed (hfree : g.slots.current < g.slots.max) (hu : g'.underway = g.underway)
    (hs : g'.slots = g.slots) (ha : g.arrived < g'.arrived) :
    Shift g g' [.take g.arrived, .give g.arrived]
  | begun (hfree : g.slots.current < g.slots.max) (hu : g'.underway = g.underway ++ [g.arrived])
    (hs : g'.slots = g.occupy.slots) (ha : g.arrived < g'.arrived) : Shift g g' [.take g.arrived]
  | ended {m : Nat} (hm : m ∈ g.underway) (hu : g'.underway = g.underway.filter (· ≠ m))
    (hs : g'.slots = g.slots.release) : Shift g g' [.give m]

/-- **The moves of an event tell how it shifts slots and tasks.** -/
theorem Way.shift (h : Way g now e s) : Shift g s.1 (g.moves now e) := by
  cases h with
  | @closed a c h =>
    have hu := underway_recorded (g.entered a now) (g.visit a now) now c
    have hs := slots_recorded (g.entered a now) (g.visit a now) now c
    have ha := arrived_recorded (g.entered a now) (g.visit a now) now c
    rcases moves_closed h with hm | ⟨hfree, hm⟩
    · rw [hm]
      exact .still hu hs
    · rw [hm]
      exact .passed hfree hu hs (Nat.lt_of_lt_of_eq (Nat.lt_succ_self _) ha.symm)
  | @launched a input rules h =>
    rw [moves_launched h]
    exact .begun (free_of_sound h) (underway_launch ..) rfl (Nat.lt_succ_self _)
  | stray h =>
    rw [moves_stray h]
    exact .still rfl rfl
  | fellBack ht h =>
    rw [moves_fellBack ht h]
    exact .still (underway_update g _ fun _ => rfl) rfl
  | @finished number e t c ht hw h =>
    have hu := (underway_recorded (g.finish t) t.visit now c).trans (underway_finish g t)
    have hs := slots_recorded (g.finish t) t.visit now c
    rw [moves_ended ht (Closing.ne_secondary h)]
    exact .ended (mem_underway (task?_eq_some ht).1) hu hs
  | @abandoned number e t ht hw h =>
    rw [moves_ended ht h]
    exact .ended (mem_underway (task?_eq_some ht).1) (underway_finish g t) rfl
  | left number => exact .still (underway_update g number fun _ => rfl) rfl
  | _ => exact .still rfl rfl

/-! ## Replaying -/

variable {g' : Gateway} {ms : List Move}

/-- No move of an event fails, and they lead to the slots after it. -/
theorem Shift.replay (h : Shift g g' ms) (ho : Orderly g) :
    g.slots.replay? ms = some g'.slots := by
  cases h with
  | still hu hs =>
    rw [hs]
    rfl
  | passed hfree hu hs ha => rw [hs, Slots.replay?_take_give hfree]
  | begun hfree hu hs ha =>
    rw [hs]
    simp only [Slots.replay?, Slots.move?, Slots.acquire?, if_pos hfree, List.foldlM_cons,
      List.foldlM_nil]
    rfl
  | ended hm hu hs =>
    have hpos : 0 < g.slots.current := by
      rw [ho.held]
      exact List.length_pos_of_mem hm
    rw [hs]
    simp [Slots.replay?, Slots.move?, Nat.ne_of_gt hpos]

/-- **The moves of a run lead to the slots after it.** -/
theorem replay_run (h : Orderly g) (es : List (Moment × Event)) :
    g.slots.replay? (g.runMoves es) = some (g.run es).1.slots := by
  induction es generalizing g with
  | nil => rfl
  | cons e es ih =>
    obtain ⟨now, e⟩ := e
    have hw := step_way g now e
    rw [runMoves, Slots.replay?_append, hw.shift.replay h]
    exact ih (hw.orderly h)

/-! ## The balance of a request -/

/-- A slot is held for as long as the task is unfinished. -/
theorem Shift.balance (h : Shift g g' ms) (ho : Orderly g) (n : Nat) :
    g.underway.count n + ms.count (.take n) = ms.count (.give n) + g'.underway.count n := by
  cases h with
  | still hu hs =>
    rw [hu]
    exact Nat.add_comm ..
  | passed hfree hu hs ha =>
    rw [hu, Nat.add_comm]
    by_cases hn : g.arrived = n <;> simp [hn]
  | begun hfree hu hs ha =>
    rw [hu, List.count_append]
    by_cases hn : g.arrived = n <;> simp [hn]
  | @ended m hm hu hs =>
    rw [hu]
    by_cases hn : m = n
    · subst hn
      have hnone : (g.underway.filter (· ≠ m)).count m = 0 :=
        List.count_eq_zero.mpr fun hf => by simp at hf
      rw [List.count_eq_one_of_mem ho.nodup hm, hnone]
      simp
    · rw [List.count_filter (by simpa using Ne.symm hn)]
      simp [hn]

/-- **Who takes a slot has given it back or has a task.** -/
theorem balance_run (h : Orderly g) (es : List (Moment × Event)) (n : Nat) :
    g.underway.count n + (g.runMoves es).count (.take n) =
      (g.runMoves es).count (.give n) + (g.run es).1.underway.count n := by
  induction es generalizing g with
  | nil => exact Nat.add_comm ..
  | cons e es ih =>
    obtain ⟨now, e⟩ := e
    have hw := step_way g now e
    have hfirst := hw.shift.balance h n
    have hrest := ih (hw.orderly h)
    show _ = _ + ((g.step now e).1.run es).1.underway.count n
    rw [runMoves, List.count_append, List.count_append]
    omega

/-- Only the arriving request takes a slot, and only one. -/
theorem Shift.takes (h : Shift g g' ms) (n : Nat) :
    ms.count (.take n) = 0 ∨ ms.count (.take n) = 1 ∧ n = g.arrived ∧ g.arrived < g'.arrived := by
  by_cases hn : n = g.arrived
  · subst hn
    cases h with
    | passed hfree hu hs ha => exact .inr ⟨by simp, rfl, ha⟩
    | begun hfree hu hs ha => exact .inr ⟨by simp, rfl, ha⟩
    | _ => exact .inl (by simp)
  · left
    cases h <;> simp [Ne.symm hn]

/-- **Nobody takes a second slot.** -/
theorem takes_run (g : Gateway) (es : List (Moment × Event)) (n : Nat) :
    (g.runMoves es).count (.take n) ≤ if n < g.arrived then 0 else 1 := by
  induction es generalizing g with
  | nil => exact Nat.zero_le _
  | cons e es ih =>
    obtain ⟨now, e⟩ := e
    have hw := step_way g now e
    have hle := hw.arrived_le
    have hrest := ih (g.step now e).1
    rw [runMoves, List.count_append]
    rcases hw.shift.takes n with hz | ⟨hone, rfl, hlt⟩
    · split at hrest <;> split <;> omega
    · rw [if_pos hlt] at hrest
      rw [if_neg (Nat.lt_irrefl _)]
      omega

/-! ## Who is told that the gateway is busy -/

theorem ofBody_ne_busy (limits : Limits) (body : List UInt8) :
    Finding.ofBody limits body ≠ .faulty .busy := by
  intro h
  rcases Finding.ofBody_faulty h with ⟨_, hf⟩ | ⟨_, hf⟩ <;> cases hf

/-- Behind the limiter, exactly the requests that find all slots taken are too much. -/
theorem screened_busy_iff {a : Arrival} {body : List UInt8}
    (hr : a.upload.read g.config.limits = .ok body)
    (ha : (g.limiter.accept a.client now).1 = true) :
    g.screened a now = .faulty .busy ↔ g.slots.max ≤ g.slots.current := by
  rw [screened_behind_limiter hr ha]
  unfold Slots.isSaturated
  by_cases hs : g.slots.max ≤ g.slots.current
  · simp [hs]
  · simp [hs, ofBody_ne_busy]

/-- **Behind the limiter, a request is answered 503 exactly if all slots are taken.** -/
theorem busy_iff (h : Orderly g) {before after : List (Moment × Event)} {a : Arrival}
    {body : List UInt8} :
    let g' := (g.run before).1
    a.upload.read g'.config.limits = .ok body → (g'.limiter.accept a.client now).1 = true →
    ((∃ ans, .answered g'.arrived ans ∈ (g.run (before ++ (now, .arrived a) :: after)).2 ∧
      ans.status = 503) ↔ g'.slots.max ≤ g'.slots.current) := by
  intro g' hr ha
  rw [← screened_busy_iff hr ha]
  exact refused_iff h .busy (fun _ => Fault.eq_busy_of_status) (by decide) (by decide)

/-! ## Draining -/

/-- Once the gateway drains it does so for ever. -/
theorem Way.draining (h : Way g now e s) :
    s.1.isDraining = true ↔ g.isDraining = true ∨ e = .drain := by
  have recorded (g : Gateway) (v : Visit) (c : Closing) :
      (g.recorded v now c).isDraining = g.isDraining := by
    obtain ⟨t, m, he, hm⟩ := recorded_eq g v now c
    rw [he]
    exact hm
  cases h with
  | @closed a c h =>
    show ((g.entered a now).recorded _ now c).isDraining = true ↔ _
    rw [recorded]
    simp [isDraining, entered]
  | @finished number e t c ht hw h =>
    show ((g.finish t).recorded _ now c).isDraining = true ↔ _
    rw [recorded]
    simp [isDraining, finish, release]
  | drain => simp [isDraining]
  | launched h => simp [isDraining, entered, occupy, launch]
  | fellBack ht h => simp [isDraining, update]
  | left number => simp [isDraining, update]
  | abandoned ht hw h => simp [isDraining, finish, release]
  | _ => simp [isDraining]

theorem draining_run (g : Gateway) (es : List (Moment × Event)) :
    (g.run es).1.isDraining = true ↔ g.isDraining = true ∨ ∃ now, (now, .drain) ∈ es := by
  induction es generalizing g with
  | nil => simp [run]
  | cons e es ih =>
    obtain ⟨now, e⟩ := e
    show ((g.step now e).1.run es).1.isDraining = true ↔ _
    rw [ih, (step_way g now e).draining, or_assoc]
    refine or_congr Iff.rfl ⟨?_, ?_⟩
    · rintro (rfl | ⟨m, hm⟩)
      · exact ⟨now, List.mem_cons_self⟩
      · exact ⟨m, List.mem_cons_of_mem _ hm⟩
    · rintro ⟨m, hm⟩
      rcases List.mem_cons.mp hm with he | hm
      · exact .inl (Prod.mk.inj he).2.symm
      · exact .inr ⟨m, hm⟩

/-- A readiness endpoint answers 503 exactly if the gateway drains or all slots are taken. -/
theorem respond?_readiness {q : Request} (hq : Route.of q.method q.target = .endpoint .readiness)
    (g : Gateway) (now : Moment) :
    ∃ r, g.respond? now q = some r ∧
      (r.status = 503 ↔ g.isDraining = true ∨ g.slots.max ≤ g.slots.current) := by
  have hready : g.isReady = true ↔ ¬(g.isDraining = true ∨ g.slots.max ≤ g.slots.current) := by
    simp [isReady, Slots.isSaturated]
  have hstatus : (if g.isReady then 200 else 503) = 503 ↔
      g.isDraining = true ∨ g.slots.max ≤ g.slots.current := by
    by_cases h : g.isReady = true
    · simp [h, hready.mp h]
    · simp [h, not_not.mp (mt hready.mpr h)]
  unfold respond?
  rw [hq]
  refine ⟨_, rfl, ?_⟩
  by_cases hm : q.method = "HEAD"
  · simp only [if_pos hm]
    exact hstatus
  · simp only [if_neg hm]
    exact hstatus

/-! ## The slots of a run -/

/-- **Slots follow the engine tasks that are not finished.** -/
theorem slots_follow_tasks (config : Config) (canFallBack : Bool) (begin : Moment)
    (es : List (Moment × Event)) :
    let g₀ := start config canFallBack begin
    let g := (g₀.run es).1
    let tasks := unfinished (g₀.trace es)
    let maxInflight := config.admission.maxInflight
    tasks.Nodup ∧ g.slots.current = tasks.length ∧ tasks.length ≤ maxInflight ∧
      (Slots.start maxInflight).replay? (g₀.runMoves es) = some g.slots ∧
      (∀ n, (g₀.runMoves es).count (.take n) ≤ 1 ∧
        (g₀.runMoves es).count (.take n) =
          (g₀.runMoves es).count (.give n) + if n ∈ tasks then 1 else 0) ∧
      (∀ n a, .answered n a ∈ (g₀.run es).2 → n ∉ tasks) ∧
      (∀ before (now : Moment) (a : Arrival) body after,
        es = before ++ (now, .arrived a) :: after →
        let g' := (g₀.run before).1
        a.upload.read config.limits = .ok body → (g'.limiter.accept a.client now).1 = true →
        ((∃ ans, .answered g'.arrived ans ∈ (g₀.run es).2 ∧ ans.status = 503) ↔
          (unfinished (g₀.trace before)).length = maxInflight)) ∧
      ∀ now q, Route.of q.method q.target = .endpoint .readiness →
        ∃ r, g.respond? now q = some r ∧
          (r.status = 503 ↔ (∃ m, (m, .drain) ∈ es) ∨ tasks.length = maxInflight) := by
  intro g₀ g tasks maxInflight
  have ho₀ : Orderly g₀ := orderly_start config canFallBack begin
  -- What holds at the end of any run, and so also before an arrival.
  have full (es : List (Moment × Event)) :
      (g₀.run es).1.slots.max ≤ (g₀.run es).1.slots.current ↔
        (unfinished (g₀.trace es)).length = maxInflight := by
    have ho := orderly_run ho₀ es
    have hmax : (g₀.run es).1.slots.max = maxInflight := (settings_run g₀ es).2.2
    have hfits := ho.fits
    rw [unfinished_trace, ← ho.held, hmax]
    rw [hmax] at hfits
    omega
  have ho : Orderly g := orderly_run ho₀ es
  have htasks : tasks = g.underway := unfinished_trace config canFallBack begin es
  have hmax : g.slots.max = maxInflight := (settings_run g₀ es).2.2
  refine ⟨htasks ▸ ho.nodup, ?_, ?_, replay_run ho₀ es, fun n => ⟨?_, ?_⟩, fun n a ha => ?_, ?_,
    fun now q hq => ?_⟩
  · rw [htasks, ho.held]
  · rw [htasks, ← ho.held, ← hmax]
    exact ho.fits
  · exact Nat.le_trans (takes_run g₀ es n) (by split <;> omega)
  · have hb := balance_run ho₀ es n
    rw [htasks, ← ho.nodup.count, ← hb]
    exact (Nat.zero_add _).symm
  · rw [htasks]
    exact (done_of_mem_run ho₀ ha).2
  · rintro before now a body after rfl g' hr ha
    have hconfig : g'.config = config := (settings_run g₀ before).1
    rw [← full before]
    exact busy_iff ho₀ (hconfig ▸ hr) ha
  · obtain ⟨r, hr, hst⟩ := respond?_readiness hq g now
    have hopen : ¬g₀.isDraining = true := Bool.false_ne_true
    exact ⟨r, hr, by rw [hst, full es, draining_run, or_iff_right hopen]⟩

/-- The request that finds the only slot taken is told so, and the drained gateway is not ready. -/
theorem slots_of_sampleRun :
    let g₀ := start sampleConfig true 0
    (∃ ans, .answered 1 ans ∈ (g₀.run sampleRun).2 ∧ ans.status = 503) ∧
      ∃ r, (g₀.run sampleRun).1.respond? 9 ⟨"GET", "/readyz", [], .whole []⟩ = some r ∧
        r.status = 503 := by
  obtain ⟨-, -, -, -, -, -, hbusy, hready⟩ := slots_follow_tasks sampleConfig true 0 sampleRun
  constructor
  · have harrived : ((start sampleConfig true 0).run (sampleRun.take 1)).1.arrived = 1 := by
      decide +kernel
    rw [← harrived]
    exact (hbusy (sampleRun.take 1) 1 ⟨"r1", "b", .whole []⟩ [] (sampleRun.drop 2) rfl rfl
      (by decide +kernel)).mpr (by decide +kernel)
  · obtain ⟨r, hr, hst⟩ := hready 9 ⟨"GET", "/readyz", [], .whole []⟩ (by decide)
    exact ⟨r, hr, hst.mpr (.inl ⟨8, by simp [sampleRun]⟩)⟩

end Gateway

end PolicyGate
