import PolicyGate.Proofs.Gateway.Way

/-!
# Runs seen from outside

Of a run one sees the events and the reactions to them, its *trace*. From the trace alone one can
tell which requests have an engine task that has not ended (`unfinished`): the call of a primary
engine begins the task, and the end of an engine ends it unless the secondary is called then.

* `underway_run` — the tasks of a gateway are the unfinished ones of its trace.
* `Orderly` — no two tasks have the same number, and every task holds one slot. Every event keeps
  this (`Way.orderly`).
* `Done` and `Settled` — a request whose task is gone, or whose caller is, stays so, and it is not
  answered any more (`settled_run`).
-/

namespace PolicyGate

/-- The request that an event brings. -/
def Event.arrival? : Event → Option Arrival
  | .arrived a => some a
  | _ => none

namespace Gateway

variable {g : Gateway} {now : Moment} {e : Event} {s : Gateway × Option Reaction} {n : Nat}

/-! ## Runs -/

theorem run_cons (g : Gateway) (now : Moment) (e : Event) (es : List (Moment × Event)) :
    g.run ((now, e) :: es) =
      (((g.step now e).1.run es).1, (g.step now e).2.toList ++ ((g.step now e).1.run es).2) := rfl

theorem run_append (g : Gateway) (es es' : List (Moment × Event)) :
    g.run (es ++ es') = (((g.run es).1.run es').1, (g.run es).2 ++ ((g.run es).1.run es').2) := by
  induction es generalizing g with
  | nil => rfl
  | cons e es ih =>
    obtain ⟨now, e⟩ := e
    rw [List.cons_append, run_cons, run_cons, ih, List.append_assoc]

/-- What every event keeps, every run keeps. -/
theorem run_keeps {P : Gateway → Prop} (hstep : ∀ g now e, P g → P (step g now e).1) (h : P g)
    (es : List (Moment × Event)) : P (g.run es).1 := by
  induction es generalizing g with
  | nil => exact h
  | cons e es ih => exact ih (hstep g e.1 e.2 h)

/-- An event and the reaction to it. -/
abbrev Seen := Event × Option Reaction

/-- What is seen of a run. -/
def trace (g : Gateway) : List (Moment × Event) → List Seen
  | [] => []
  | (now, e) :: es => (e, (g.step now e).2) :: trace (g.step now e).1 es

theorem trace_append (g : Gateway) (es es' : List (Moment × Event)) :
    g.trace (es ++ es') = g.trace es ++ (g.run es).1.trace es' := by
  induction es generalizing g with
  | nil => rfl
  | cons e es ih =>
    obtain ⟨now, e⟩ := e
    rw [List.cons_append, trace, trace, ih, run_cons, List.cons_append]

theorem reactions_trace (g : Gateway) (es : List (Moment × Event)) :
    (g.run es).2 = (g.trace es).filterMap Prod.snd := by
  induction es generalizing g with
  | nil => rfl
  | cons e es ih =>
    rw [run_cons, trace, ih]
    cases (g.step e.1 e.2).2 <;> simp

/-! ## Tasks seen from outside -/

/-- Goes on with the numbers of the unfinished tasks. -/
def follow (numbers : List Nat) : Seen → List Nat
  | (_, some (.called n .primary _)) => numbers ++ [n]
  | (_, some (.called _ .secondary _)) => numbers
  | (.ended n _, _) => numbers.filter (· ≠ n)
  | _ => numbers

/-- The requests with an engine task that has begun and not ended. -/
def unfinished (trace : List Seen) : List Nat := trace.foldl follow []

/-- The requests that have a task. -/
def underway (g : Gateway) : List Nat := g.tasks.map fun t => t.visit.number

theorem task?_eq_some {t : Task} (h : g.task? n = some t) : t ∈ g.tasks ∧ t.visit.number = n :=
  ⟨List.mem_of_find?_eq_some h, by simpa using List.find?_some h⟩

theorem task?_eq_none (h : g.task? n = none) : n ∉ g.underway := by
  intro hn
  obtain ⟨t, ht, hnum⟩ := List.mem_map.mp hn
  simpa [hnum] using List.find?_eq_none.mp h t ht

theorem mem_underway {t : Task} (h : t ∈ g.tasks) : t.visit.number ∈ g.underway :=
  List.mem_map_of_mem h

theorem underway_update (g : Gateway) (number : Nat) {f : Task → Task}
    (hf : ∀ t, (f t).visit = t.visit) : (g.update number f).underway = g.underway := by
  unfold underway update
  rw [List.map_map]
  refine List.map_congr_left fun t _ => ?_
  simp only [Function.comp_apply]
  split
  · rw [hf]
  · rfl

theorem underway_finish (g : Gateway) (t : Task) :
    (g.finish t).underway = g.underway.filter (· ≠ t.visit.number) := by
  unfold underway finish release
  rw [List.filter_map]
  rfl

theorem tasks_recorded (g : Gateway) (v : Visit) (now : Moment) (c : Closing) :
    (g.recorded v now c).tasks = g.tasks := by
  obtain ⟨t, m, he, -⟩ := recorded_eq g v now c
  rw [he]

theorem underway_recorded (g : Gateway) (v : Visit) (now : Moment) (c : Closing) :
    (g.recorded v now c).underway = g.underway :=
  congrArg (List.map _) (tasks_recorded g v now c)

theorem underway_launch (g : Gateway) (input : EngineInput) (rules : List Policy.Rule)
    (v : Visit) : (g.launch input rules v).1.underway = g.underway ++ [v.number] :=
  List.map_append

theorem slots_recorded (g : Gateway) (v : Visit) (now : Moment) (c : Closing) :
    (g.recorded v now c).slots = g.slots := by
  obtain ⟨t, m, he, -⟩ := recorded_eq g v now c
  rw [he]

theorem arrived_recorded (g : Gateway) (v : Visit) (now : Moment) (c : Closing) :
    (g.recorded v now c).arrived = g.arrived := by
  obtain ⟨t, m, he, -⟩ := recorded_eq g v now c
  rw [he]

theorem settings_recorded (g : Gateway) (v : Visit) (now : Moment) (c : Closing) :
    (g.recorded v now c).config = g.config ∧ (g.recorded v now c).canFallBack = g.canFallBack := by
  obtain ⟨t, m, he, -⟩ := recorded_eq g v now c
  rw [he]
  exact ⟨rfl, rfl⟩

/-- The settings never change. -/
theorem Way.settings (h : Way g now e s) :
    s.1.config = g.config ∧ s.1.canFallBack = g.canFallBack ∧ s.1.slots.max = g.slots.max := by
  cases h with
  | @closed a c h =>
    obtain ⟨hc, hf⟩ := settings_recorded (g.entered a now) (g.visit a now) now c
    have hs := congrArg Slots.max (slots_recorded (g.entered a now) (g.visit a now) now c)
    exact ⟨hc, hf, hs⟩
  | @finished number e t c ht hw h =>
    obtain ⟨hc, hf⟩ := settings_recorded (g.finish t) t.visit now c
    have hs := congrArg Slots.max (slots_recorded (g.finish t) t.visit now c)
    exact ⟨hc, hf, hs⟩
  | _ => exact ⟨rfl, rfl, rfl⟩

theorem settings_run (g : Gateway) (es : List (Moment × Event)) :
    (g.run es).1.config = g.config ∧ (g.run es).1.canFallBack = g.canFallBack ∧
      (g.run es).1.slots.max = g.slots.max := by
  refine run_keeps (P := fun g' => g'.config = g.config ∧ g'.canFallBack = g.canFallBack ∧
    g'.slots.max = g.slots.max) (fun g' now e h => ?_) ⟨rfl, rfl, rfl⟩ es
  obtain ⟨h1, h2, h3⟩ := (step_way g' now e).settings
  exact ⟨h1.trans h.1, h2.trans h.2.1, h3.trans h.2.2⟩

/-- One event changes the tasks as one can see from outside. -/
theorem Way.underway (h : Way g now e s) : s.1.underway = follow g.underway (e, s.2) := by
  cases h with
  | @closed a c h => exact underway_recorded (g.entered a now) _ now c
  | @launched a input rules h => exact underway_launch (g.entered a now).occupy input rules _
  | @stray number e h =>
    refine (List.filter_eq_self.mpr fun n hn => ?_).symm
    have hne : n ≠ number := fun he => task?_eq_none h (he ▸ hn)
    exact decide_eq_true hne
  | fellBack ht h => exact underway_update g _ fun _ => rfl
  | @finished number e t c ht hw h =>
    rw [← (task?_eq_some ht).2]
    exact (underway_recorded (g.finish t) _ now c).trans (underway_finish g t)
  | abandoned ht hw h =>
    rw [← (task?_eq_some ht).2]
    exact underway_finish g _
  | left number => exact underway_update g number fun _ => rfl
  | drain => rfl
  | resetLimiter => rfl
  | resetTelemetry => rfl

theorem underway_run (g : Gateway) (es : List (Moment × Event)) :
    (g.run es).1.underway = (g.trace es).foldl follow g.underway := by
  induction es generalizing g with
  | nil => rfl
  | cons e es ih =>
    obtain ⟨now, e⟩ := e
    rw [run_cons, trace, ih, List.foldl_cons, (step_way g now e).underway]

/-! ## Every task holds one slot -/

/-- No task is doubled, and the tasks hold the slots. -/
structure Orderly (g : Gateway) : Prop where
  nodup : g.underway.Nodup
  known : ∀ n ∈ g.underway, n < g.arrived
  held : g.slots.current = g.underway.length
  fits : g.slots.current ≤ g.slots.max

theorem orderly_start (config : Config) (canFallBack : Bool) (now : Moment) :
    Orderly (start config canFallBack now) :=
  ⟨List.nodup_nil, fun _ h => absurd h List.not_mem_nil, rfl, Nat.zero_le _⟩

theorem Orderly.congr {g' : Gateway} (h : Orderly g) (hu : g'.underway = g.underway)
    (hs : g'.slots = g.slots) (ha : g.arrived ≤ g'.arrived) : Orderly g' where
  nodup := hu ▸ h.nodup
  known n hn := Nat.lt_of_lt_of_le (h.known n (hu ▸ hn)) ha
  held := by rw [hu, hs, h.held]
  fits := hs ▸ h.fits

/-- A number that is there once is taken out. -/
theorem length_filter_ne {numbers : List Nat} (h : numbers.Nodup) (hn : n ∈ numbers) :
    (numbers.filter (· ≠ n)).length = numbers.length - 1 := by
  rw [← List.length_erase_of_mem hn, h.erase_eq_filter]
  refine congrArg List.length (List.filter_congr fun m _ => ?_)
  rw [Bool.eq_iff_iff, decide_eq_true_iff, bne_iff_ne]

theorem Orderly.finish (h : Orderly g) {t : Task} (ht : t ∈ g.tasks) : Orderly (g.finish t) := by
  have hmem := mem_underway ht
  refine ⟨?_, fun n hn => ?_, ?_, ?_⟩
  · rw [underway_finish]
    exact h.nodup.filter _
  · rw [underway_finish] at hn
    exact h.known n (List.mem_filter.mp hn).1
  · rw [underway_finish, length_filter_ne h.nodup hmem, ← h.held]
    rfl
  · exact Nat.le_trans (Nat.sub_le ..) h.fits

theorem Orderly.entered (h : Orderly g) (a : Arrival) (now : Moment) : Orderly (g.entered a now) :=
  ⟨h.nodup, fun n hn => Nat.lt_succ_of_lt (h.known n hn), h.held, h.fits⟩

theorem Orderly.recorded (h : Orderly g) (v : Visit) (now : Moment) (c : Closing) :
    Orderly (g.recorded v now c) :=
  h.congr (underway_recorded g v now c) (slots_recorded g v now c)
    (Nat.le_of_eq (arrived_recorded g v now c).symm)

/-- Only when a slot is free is a request found sound. -/
theorem free_of_sound {a : Arrival} {input : EngineInput} {rules : List Policy.Rule}
    (h : g.screened a now = .sound input rules) : g.slots.current < g.slots.max := by
  unfold screened at h
  split at h
  · cases h
  · split at h
    · split at h
      · cases h
      · next hfree => simpa [Slots.isSaturated] using hfree
    · cases h

/-- **Every event keeps the tasks in order.** -/
theorem Way.orderly (h : Way g now e s) (ho : Orderly g) : Orderly s.1 := by
  cases h with
  | @closed a c h => exact (ho.entered a now).recorded (g.visit a now) now c
  | @launched a input rules h =>
    have hu : ((g.entered a now).occupy.launch input rules (g.visit a now)).1.underway =
        g.underway ++ [g.arrived] := underway_launch (g.entered a now).occupy input rules _
    have hfree := free_of_sound h
    refine ⟨?_, fun n hn => ?_, ?_, hfree⟩
    · rw [hu, List.nodup_append]
      refine ⟨ho.nodup, by simp, fun n hn n' hn' => ?_⟩
      have := ho.known n hn
      obtain rfl := List.mem_singleton.mp hn'
      exact Nat.ne_of_lt this
    · rw [hu] at hn
      rcases List.mem_append.mp hn with hn | hn
      · exact Nat.lt_succ_of_lt (ho.known n hn)
      · exact Nat.lt_succ_of_le (Nat.le_of_eq (List.mem_singleton.mp hn))
    · rw [hu, List.length_append, List.length_singleton, ← ho.held]
      rfl
  | stray h => exact ho
  | fellBack ht h => exact ho.congr (underway_update g _ fun _ => rfl) rfl (Nat.le_refl _)
  | @finished number e t c ht hw h =>
    exact (ho.finish (task?_eq_some ht).1).recorded t.visit now c
  | abandoned ht hw h => exact ho.finish (task?_eq_some ht).1
  | left number => exact ho.congr (underway_update g number fun _ => rfl) rfl (Nat.le_refl _)
  | drain => exact ho.congr rfl rfl (Nat.le_refl _)
  | resetLimiter => exact ho.congr rfl rfl (Nat.le_refl _)
  | resetTelemetry => exact ho.congr rfl rfl (Nat.le_refl _)

theorem orderly_run (h : Orderly g) (es : List (Moment × Event)) : Orderly (g.run es).1 :=
  run_keeps (fun g now e ho => (step_way g now e).orderly ho) h es

/-! ## Requests that are done -/

/-- A request has arrived and has no task any more. -/
def Done (n : Nat) (g : Gateway) : Prop := n < g.arrived ∧ n ∉ g.underway

/-- A request has arrived and nobody waits for its answer. -/
def Settled (n : Nat) (g : Gateway) : Prop :=
  n < g.arrived ∧ ∀ t ∈ g.tasks, t.visit.number = n → t.awaited = false

/-- Requests are numbered as they arrive. -/
theorem Way.arrived_eq (h : Way g now e s) :
    s.1.arrived = g.arrived + if e.arrival?.isSome then 1 else 0 := by
  cases h with
  | closed h => exact arrived_recorded (g.entered _ now) _ now _
  | @finished number x t c ht hw h => exact arrived_recorded (g.finish t) _ now c
  | _ => rfl

theorem Way.arrived_le (h : Way g now e s) : g.arrived ≤ s.1.arrived := by
  rw [h.arrived_eq]
  exact Nat.le_add_right ..

theorem arrived_step (g : Gateway) (a : Arrival) (now : Moment) :
    (g.step now (.arrived a)).1.arrived = g.arrived + 1 := (step_way g now _).arrived_eq

theorem arrived_run (g : Gateway) (es : List (Moment × Event)) :
    (g.run es).1.arrived = g.arrived + es.countP fun e => e.2.arrival?.isSome := by
  induction es generalizing g with
  | nil => rfl
  | cons e es ih =>
    obtain ⟨now, e⟩ := e
    show ((g.step now e).1.run es).1.arrived = _
    rw [ih, (step_way g now e).arrived_eq, List.countP_cons, Nat.add_right_comm,
      Nat.add_assoc]

/-- Every number is that of a request that has arrived. -/
theorem exists_arrival {es : List (Moment × Event)} (hn : g.arrived ≤ n)
    (hlt : n < (g.run es).1.arrived) :
    ∃ before now a after, es = before ++ (now, .arrived a) :: after ∧
      (g.run before).1.arrived = n := by
  induction es generalizing g with
  | nil => exact absurd hlt (Nat.not_lt.mpr hn)
  | cons e es ih =>
    obtain ⟨now, e⟩ := e
    by_cases hfirst : n < (g.step now e).1.arrived
    · have harrived := (step_way g now e).arrived_eq
      cases e with
      | arrived a =>
        refine ⟨[], now, a, es, rfl, ?_⟩
        simp only [Event.arrival?, Option.isSome_some, if_true] at harrived
        show g.arrived = n
        omega
      | _ => exact absurd hfirst (Nat.not_lt.mpr (harrived.symm ▸ hn))
    · obtain ⟨before, later, a, after, rfl, hnum⟩ := ih (Nat.not_lt.mp hfirst) hlt
      exact ⟨(now, e) :: before, later, a, after, rfl, hnum⟩

/-- The call of a primary engine is for the request that arrives. -/
theorem Way.called_primary (h : Way g now e s) {input : EngineInput}
    (hr : s.2 = some (.called n .primary input)) : n = g.arrived := by
  cases h with
  | launched h =>
    obtain ⟨rfl, -, -⟩ := Reaction.called.inj (Option.some.inj hr)
    rfl
  | closed h => cases hr
  | finished ht hw h => cases hr
  | fellBack ht h => cases hr
  | _ => cases hr

/-- A request that is done stays so. -/
theorem Way.done (h : Way g now e s) (hn : Done n g) : Done n s.1 := by
  refine ⟨Nat.lt_of_lt_of_le hn.1 h.arrived_le, ?_⟩
  rw [h.underway]
  unfold follow
  split
  · next m input hr =>
    rw [h.called_primary (Prod.mk.inj hr).2, List.mem_append, List.mem_singleton]
    rintro (hm | rfl)
    · exact hn.2 hm
    · exact Nat.lt_irrefl _ hn.1
  · exact hn.2
  · exact fun hm => hn.2 (List.mem_filter.mp hm).1
  · exact hn.2

/-- A task has become another one of the same request, for which nobody new waits. -/
def Task.Becomes (u t : Task) : Prop := u.visit = t.visit ∧ (u.awaited = false → t.awaited = false)

/-- The tasks after an event are one that begins and what the ones before have become. -/
theorem Way.task_of_mem (h : Way g now e s) {t : Task} (ht : t ∈ s.1.tasks) :
    t.visit.number = g.arrived ∨ ∃ u ∈ g.tasks, Task.Becomes u t := by
  have same (h : t ∈ g.tasks) : t.visit.number = g.arrived ∨ ∃ u ∈ g.tasks, Task.Becomes u t :=
    .inr ⟨t, h, rfl, id⟩
  cases h with
  | @closed a c h =>
    have he := tasks_recorded (g.entered a now) (g.visit a now) now c
    exact same (he ▸ ht)
  | @launched a input rules h =>
    rcases List.mem_append.mp ht with ht | ht
    · exact same ht
    · rw [List.mem_singleton.mp ht]
      exact .inl rfl
  | @finished number e u c hu hw h =>
    have he := tasks_recorded (g.finish u) u.visit now c
    exact same (List.mem_filter.mp (he ▸ ht)).1
  | abandoned hu hw h => exact same (List.mem_filter.mp ht).1
  | fellBack hu h =>
    obtain ⟨u, hu, rfl⟩ := List.mem_map.mp ht
    refine .inr ⟨u, hu, ?_⟩
    split
    · exact ⟨rfl, id⟩
    · exact ⟨rfl, id⟩
  | left number =>
    obtain ⟨u, hu, rfl⟩ := List.mem_map.mp ht
    refine .inr ⟨u, hu, ?_⟩
    split
    · exact ⟨rfl, fun _ => rfl⟩
    · exact ⟨rfl, id⟩
  | _ => exact same ht

/-- A request that is settled stays so and is not answered. -/
theorem Way.settled (h : Way g now e s) (hn : Settled n g) :
    Settled n s.1 ∧ ∀ a, s.2 ≠ some (.answered n a) := by
  refine ⟨⟨Nat.lt_of_lt_of_le hn.1 h.arrived_le, fun t ht hnum => ?_⟩, fun a ha => ?_⟩
  · rcases h.task_of_mem ht with hnew | ⟨u, hu, hv, hkeep⟩
    · exact absurd hn.1 (by rw [← hnum, hnew]; exact Nat.lt_irrefl _)
    · exact hkeep (hn.2 u hu (by rw [hv, hnum]))
  · cases h with
    | closed h =>
      obtain ⟨rfl, -⟩ := Reaction.answered.inj (Option.some.inj ha)
      exact Nat.lt_irrefl _ hn.1
    | finished ht hw h =>
      obtain ⟨rfl, -⟩ := Reaction.answered.inj (Option.some.inj ha)
      rw [hn.2 _ (task?_eq_some ht).1 rfl] at hw
      cases hw
    | _ => cases ha

/-- A request that has been answered is done. -/
theorem Way.done_of_answered (h : Way g now e s) (ho : Orderly g) {a : Answer}
    (hr : s.2 = some (.answered n a)) : Done n s.1 := by
  cases h with
  | @closed a' c h =>
    obtain ⟨rfl, -⟩ := Reaction.answered.inj (Option.some.inj hr)
    have hu : ((g.entered a' now).recorded (g.visit a' now) now c).underway = g.underway :=
      underway_recorded ..
    refine ⟨?_, fun hm => Nat.lt_irrefl _ (ho.known _ (hu ▸ hm))⟩
    show g.arrived < ((g.entered a' now).recorded (g.visit a' now) now c).arrived
    rw [arrived_recorded]
    exact Nat.lt_succ_self _
  | @finished number e t c ht hw h =>
    obtain ⟨rfl, -⟩ := Reaction.answered.inj (Option.some.inj hr)
    have hu : ((g.finish t).recorded t.visit now c).underway =
        g.underway.filter (· ≠ t.visit.number) :=
      (underway_recorded ..).trans (underway_finish g t)
    refine ⟨?_, fun hm => ?_⟩
    · show t.visit.number < ((g.finish t).recorded t.visit now c).arrived
      rw [arrived_recorded]
      exact ho.known _ (mem_underway (task?_eq_some ht).1)
    · have hm' := hu ▸ hm
      simp at hm'
  | _ => cases hr

theorem done_run (h : Done n g) (es : List (Moment × Event)) : Done n (g.run es).1 :=
  run_keeps (fun g now e hd => (step_way g now e).done hd) h es

theorem settled_run (h : Settled n g) (es : List (Moment × Event)) (a : Answer) :
    .answered n a ∉ (g.run es).2 := by
  induction es generalizing g with
  | nil => exact List.not_mem_nil
  | cons e es ih =>
    obtain ⟨now, e⟩ := e
    obtain ⟨hs, hr⟩ := (step_way g now e).settled h
    rw [run_cons, List.mem_append, Option.mem_toList]
    rintro (hm | hm)
    · exact hr a hm
    · exact ih hs hm

/-- **Whoever has been answered in a run is done.** -/
theorem done_of_mem_run (h : Orderly g) {es : List (Moment × Event)} {a : Answer}
    (ha : .answered n a ∈ (g.run es).2) : Done n (g.run es).1 := by
  induction es generalizing g with
  | nil => exact absurd ha List.not_mem_nil
  | cons e es ih =>
    obtain ⟨now, e⟩ := e
    have hw := step_way g now e
    rw [run_cons, List.mem_append, Option.mem_toList] at ha
    rcases ha with ha | ha
    · exact done_run (hw.done_of_answered h ha) es
    · exact ih (hw.orderly h) ha

theorem settled_left (h : Orderly g) (hn : n ∈ g.underway) (now : Moment) :
    Settled n (g.step now (.left n)).1 := by
  refine ⟨h.known n hn, fun t ht hnum => ?_⟩
  obtain ⟨u, -, rfl⟩ := List.mem_map.mp ht
  split at hnum
  · next hu => rw [if_pos hu]
  · next hu => exact absurd hnum hu

/-- **A request whose caller leaves while its task runs is never answered.** -/
theorem left_run (h : Orderly g) {before after : List (Moment × Event)}
    (hn : n ∈ (g.run before).1.underway) (a : Answer) :
    .answered n a ∉ (g.run (before ++ (now, .left n) :: after)).2 := by
  rw [run_append, run_cons, List.mem_append, List.mem_append]
  rintro (hm | hm | hm)
  · exact (done_of_mem_run h hm).2 hn
  · exact absurd hm List.not_mem_nil
  · exact settled_run (settled_left (orderly_run h before) hn now) after a hm

theorem unfinished_trace (config : Config) (canFallBack : Bool) (now : Moment)
    (es : List (Moment × Event)) :
    unfinished ((start config canFallBack now).trace es) =
      ((start config canFallBack now).run es).1.underway :=
  (underway_run (start config canFallBack now) es).symm

/-! ## A run -/

/-- A body with a policy that is sound. -/
def sampleBody : List UInt8 :=
  Utf8.encode "[\"INTENT:a\\nACTOR:a\\nCONTEXT:a\\nRULE:a\\nCONSTRAINT:a\\nIMPACT:a\\nTRACE:a\"]"

/-- Settings with one slot. -/
def sampleConfig : Config := { admission := { maxInflight := 1 } }

/-- A caller leaves, another finds the only slot taken, an engine breaks down and one is stood in
for, and the gateway drains. -/
def sampleRun : List (Moment × Event) :=
  [(0, .arrived ⟨"r0", "a", .whole sampleBody⟩), (1, .arrived ⟨"r1", "b", .whole []⟩), (2, .left 0),
    (3, .ended 0 .crashed), (4, .arrived ⟨"r2", "b", .whole sampleBody⟩),
    (5, .ended 2 (.outcome (.failed .timeout))), (6, .ended 2 (.outcome ⟨"", "", [], none⟩)),
    (7, .arrived ⟨"r3", "b", .whole []⟩), (8, .drain)]

end Gateway

end PolicyGate
