import PolicyGate.Proofs.Gateway.Trace
import PolicyGate.Proofs.Observe.Tally

/-!
# The accounts of a gateway balance

Every answer is recorded in three places: the telemetry, the counters by label and the durations.
The ledger of a run is the list of its *closings*, one for each answer, and the accounts are what
one counts in the ledger (`Booked`). They then agree with each other and with the answers, because
every closing is of one kind.

**Theorem (`accounts_balance`).** In every run without a reset of the telemetry, the totals add up
to the answers, the refusals to the three reasons and to the answers 413, 429 and 503, the errors to
the answers 500 and the failed durations, the parse errors to the durations of flawed policies and
contexts, and the engine runs to the requests without the parse errors. A request whose caller has
left is in none of them.
-/

namespace PolicyGate

/-! ## What a closing counts as -/

def Closing.rejection? : Closing → Option Rejection
  | .fault f => f.rejection?
  | _ => none

def Closing.conclusion? : Closing → Option Conclusion
  | .fault f => if f.rejection?.isSome then none else some .failed
  | .flawed _ _ => some .lintErrors
  | .badContext _ _ => some .invalidContext
  | .ran _ _ => some .executed

def Closing.run? : Closing → Option (EngineTag × Bool)
  | .ran r _ => some (r.engine, r.error)
  | _ => none

/-- Whether the policy or its context was found wrong. -/
def Closing.isParseError : Closing → Bool
  | .flawed _ _ | .badContext _ _ => true
  | _ => false

/-! ## What a closing adds to the accounts -/

namespace Gateway

variable (g : Gateway) (v : Visit) (now : Moment) (c : Closing)

theorem requests_recorded : (g.recorded v now c).telemetry.requests =
    if c.status = 200 then Telemetry.plus g.telemetry.requests 1 else g.telemetry.requests := by
  cases c with
  | fault f => cases f <;> rfl
  | _ => rfl

theorem errors_recorded : (g.recorded v now c).telemetry.errors =
    if c.status = 500 then Telemetry.plus g.telemetry.errors 1 else g.telemetry.errors := by
  cases c with
  | fault f => cases f <;> rfl
  | _ => rfl

theorem rateLimited_recorded : (g.recorded v now c).telemetry.rateLimited =
    if c.rejection?.isSome then Telemetry.plus g.telemetry.rateLimited 1
    else g.telemetry.rateLimited := by
  cases c with
  | fault f => cases f <;> rfl
  | _ => rfl

theorem parseErrors_recorded : (g.recorded v now c).telemetry.parseErrors =
    if c.isParseError then Telemetry.plus g.telemetry.parseErrors 1
    else g.telemetry.parseErrors := by
  cases c with
  | fault f => cases f <;> rfl
  | _ => rfl

theorem rejections_recorded (r : Rejection) :
    (g.recorded v now c).metrics.rejections.get r.labels =
      if c.rejection? = some r then g.metrics.rejections.get r.labels + 1
      else g.metrics.rejections.get r.labels := by
  cases c with
  | fault f =>
    show (g.recordFault f v now).metrics.rejections.get r.labels =
      if f.rejection? = some r then _ else _
    unfold recordFault
    cases f.rejection? with
    | none => rfl
    | some r' =>
      show (g.metrics.rejections.increment r'.labels).get r.labels = _
      simp only [Counters.get_increment, Rejection.sort_labels, Option.some.injEq, eq_comm]
  | _ => rfl

theorem engineRuns_recorded (engine : EngineTag) (error : Bool) :
    (g.recorded v now c).metrics.engineRuns.get (engineLabels engine error) =
      if c.run? = some (engine, error) then g.metrics.engineRuns.get (engineLabels engine error) + 1
      else g.metrics.engineRuns.get (engineLabels engine error) := by
  cases c with
  | fault f => cases f <;> rfl
  | ran r rules =>
    show (g.metrics.engineRuns.increment (engineLabels r.engine r.error)).get _ = _
    simp only [Counters.get_increment, sort_engineLabels, Closing.run?, Option.some.injEq,
      Prod.mk.injEq, eq_comm]
  | _ => rfl

theorem observations_recorded (k : Conclusion) :
    (g.recorded v now c).metrics.durations.observations k.labels =
      if c.conclusion? = some k then g.metrics.durations.observations k.labels + 1
      else g.metrics.durations.observations k.labels := by
  have filed (k' : Conclusion) (d : Nat) :
      (g.metrics.durations.observe k'.labels d).observations k.labels =
        if some k' = some k then g.metrics.durations.observations k.labels + 1
        else g.metrics.durations.observations k.labels := by
    simp only [Histograms.observations_observe, Conclusion.sort_labels, Option.some.injEq, eq_comm]
  cases c with
  | fault f =>
    show (g.recordFault f v now).metrics.durations.observations k.labels =
      if (if f.rejection?.isSome then none else some .failed) = some k then _ else _
    unfold recordFault
    cases f.rejection? with
    | none => exact filed .failed _
    | some r => rfl
  | flawed ds rules => exact filed .lintErrors _
  | badContext f rules => exact filed .invalidContext _
  | ran r rules => exact filed .executed _

end Gateway

/-! ## The ledger -/

/-- The accounts of a gateway are what one counts in a ledger. Totals stop at the largest number,
and counters wrap around. -/
structure Booked (cs : List Closing) (g : Gateway) : Prop where
  requests : g.telemetry.requests = min (cs.countP fun c => c.status = 200) Telemetry.largest
  errors : g.telemetry.errors = min (cs.countP fun c => c.status = 500) Telemetry.largest
  rateLimited : g.telemetry.rateLimited =
    min (cs.countP fun c => c.rejection?.isSome) Telemetry.largest
  parseErrors : g.telemetry.parseErrors = min (cs.countP Closing.isParseError) Telemetry.largest
  rejections : ∀ r : Rejection, g.metrics.rejections.get r.labels =
    .ofNat (cs.countP fun c => c.rejection? = some r)
  engineRuns : ∀ engine error, g.metrics.engineRuns.get (engineLabels engine error) =
    .ofNat (cs.countP fun c => c.run? = some (engine, error))
  durations : ∀ k : Conclusion, g.metrics.durations.observations k.labels =
    .ofNat (cs.countP fun c => c.conclusion? = some k)

theorem booked_start (config : Config) (canFallBack : Bool) (now : Moment) :
    Booked [] (Gateway.start config canFallBack now) :=
  ⟨rfl, rfl, rfl, rfl, fun _ => rfl, fun _ _ => rfl, fun _ => rfl⟩

theorem Booked.congr {cs : List Closing} {g g' : Gateway} (h : Booked cs g)
    (ht : g'.telemetry = g.telemetry) (hm : g'.metrics = g.metrics) : Booked cs g' := by
  obtain ⟨h1, h2, h3, h4, h5, h6, h7⟩ := h
  exact ⟨ht ▸ h1, ht ▸ h2, ht ▸ h3, ht ▸ h4, hm ▸ h5, hm ▸ h6, hm ▸ h7⟩

theorem countP_snoc {α : Type} (p : α → Bool) (xs : List α) (x : α) :
    (xs ++ [x]).countP p = if p x then xs.countP p + 1 else xs.countP p := by
  rw [List.countP_append, List.countP_singleton]
  split <;> rfl

theorem total_snoc {total : Nat} {cs : List Closing} {p : Closing → Bool}
    (h : total = min (cs.countP p) Telemetry.largest) (c : Closing) :
    (if p c then Telemetry.plus total 1 else total) =
      min ((cs ++ [c]).countP p) Telemetry.largest := by
  rw [countP_snoc]
  split
  · rw [h]
    unfold Telemetry.plus
    omega
  · exact h

theorem count_snoc {count : UInt64} {cs : List Closing} {p : Closing → Bool}
    (h : count = .ofNat (cs.countP p)) (c : Closing) :
    (if p c then count + 1 else count) = .ofNat ((cs ++ [c]).countP p) := by
  rw [countP_snoc]
  split
  · rw [h, UInt64.ofNat_add]
    rfl
  · exact h

/-- **An answer adds its closing to the ledger.** -/
theorem Booked.recorded {cs : List Closing} {g : Gateway} (h : Booked cs g) (v : Visit)
    (now : Moment) (c : Closing) : Booked (cs ++ [c]) (g.recorded v now c) where
  requests := by simpa [g.requests_recorded] using total_snoc h.requests c
  errors := by simpa [g.errors_recorded] using total_snoc h.errors c
  rateLimited := by simpa [g.rateLimited_recorded] using total_snoc h.rateLimited c
  parseErrors := by simpa [g.parseErrors_recorded] using total_snoc h.parseErrors c
  rejections r := by simpa [g.rejections_recorded] using count_snoc (h.rejections r) c
  engineRuns e b := by simpa [g.engineRuns_recorded] using count_snoc (h.engineRuns e b) c
  durations k := by simpa [g.observations_recorded] using count_snoc (h.durations k) c

/-! ## Adding up -/

/-- Counting what is of one of two kinds. -/
theorem countP_split {α : Type} {p q r : α → Bool}
    (h : ∀ x, (p x).toNat = (q x).toNat + (r x).toNat) (xs : List α) :
    xs.countP p = xs.countP q + xs.countP r := by
  induction xs with
  | nil => rfl
  | cons x xs ih =>
    have one (b : Bool) : (if b = true then 1 else 0) = b.toNat := by cases b <;> rfl
    have hx := h x
    simp only [List.countP_cons, one]
    omega

section

variable (cs : List Closing)

/-- A closing is a request, an error or a refusal. -/
theorem length_ledger : cs.length =
    (cs.countP fun c => c.status = 200) + (cs.countP fun c => c.status = 500) +
      cs.countP fun c => c.rejection?.isSome := by
  rw [← countP_split (p := fun c => c.status = 200 ∨ c.status = 500),
    ← countP_split (p := fun _ => true), List.countP_true]
  all_goals
    rintro (f | _ | _ | _)
    · cases f <;> rfl
    all_goals rfl

/-- A refusal has one of three reasons. -/
theorem refusals_ledger : (cs.countP fun c => c.rejection?.isSome) =
    (cs.countP fun c => c.rejection? = some .payloadTooLarge) +
      (cs.countP fun c => c.rejection? = some .rateLimited) +
      cs.countP fun c => c.rejection? = some .busy := by
  rw [← countP_split (p := fun c => c.rejection? = some .payloadTooLarge ∨
      c.rejection? = some .rateLimited),
    ← countP_split (p := fun c => c.rejection?.isSome)]
  all_goals
    intro c
    cases c.rejection? with
    | none => rfl
    | some r => cases r <;> rfl

/-- A request is a parse error or an execution. -/
theorem requests_ledger : (cs.countP fun c => c.status = 200) =
    cs.countP Closing.isParseError + cs.countP fun c => c.conclusion? = some .executed := by
  refine countP_split ?_ cs
  rintro (f | _ | _ | _)
  · cases f <;> rfl
  all_goals rfl

theorem parseErrors_ledger : cs.countP Closing.isParseError =
    (cs.countP fun c => c.conclusion? = some .lintErrors) +
      cs.countP fun c => c.conclusion? = some .invalidContext := by
  refine countP_split ?_ cs
  rintro (f | _ | _ | _)
  · cases f <;> rfl
  all_goals rfl

/-- An execution surfaces one of three engines, with an error or without. -/
theorem executions_ledger : (cs.countP fun c => c.conclusion? = some .executed) =
    (cs.countP fun c => c.run?.map Prod.fst = some .primary) +
      (cs.countP fun c => c.run?.map Prod.fst = some .secondary) +
      cs.countP fun c => c.run?.map Prod.fst = some .none := by
  rw [← countP_split (p := fun c => c.run?.map Prod.fst = some .primary ∨
      c.run?.map Prod.fst = some .secondary),
    ← countP_split (p := fun c => c.conclusion? = some .executed)]
  all_goals
    rintro (f | _ | _ | r)
    · cases f <;> rfl
    · rfl
    · rfl
    · obtain ⟨_, _, _, engine, _⟩ := r
      cases engine <;> rfl

theorem runs_ledger (engine : EngineTag) :
    (cs.countP fun c => c.run?.map Prod.fst = some engine) =
      (cs.countP fun c => c.run? = some (engine, false)) +
        cs.countP fun c => c.run? = some (engine, true) := by
  refine countP_split (fun c => ?_) cs
  cases c.run? with
  | none => rfl
  | some k =>
    obtain ⟨engine', error⟩ := k
    by_cases h : engine' = engine <;> cases error <;> simp [h]

theorem refused_eq (c : Closing) :
    c.rejection?.isSome = decide (c.status ∈ [413, 429, 503]) := by
  rcases c with f | _ | _ | _
  · cases f <;> rfl
  all_goals rfl

theorem failed_eq (c : Closing) :
    decide (c.conclusion? = some .failed) = decide (c.status = 500) := by
  rcases c with f | _ | _ | _
  · cases f <;> rfl
  all_goals rfl

end

/-! ## Runs -/

/-- The answer that a reaction is. -/
def Reaction.answer? : Reaction → Option Answer
  | .answered _ a => some a
  | .called .. => none

namespace Gateway

variable {g : Gateway} {now : Moment} {e : Event} {s : Gateway × Option Reaction}
variable {cs : List Closing}

/-- **An event adds to the ledger exactly if it answers a request.** -/
theorem Way.booked (h : Way g now e s) (hb : Booked cs g) (he : e ≠ .resetTelemetry) :
    ∃ new : Option Closing, Booked (cs ++ new.toList) s.1 ∧
      (s.2.bind Reaction.answer?).map Answer.status = new.map Closing.status := by
  have quiet {g' : Gateway} (ht : g'.telemetry = g.telemetry) (hm : g'.metrics = g.metrics) :
      Booked (cs ++ (none : Option Closing).toList) g' := by
    rw [Option.toList_none, List.append_nil]
    exact hb.congr ht hm
  cases h with
  | @closed a c h =>
    have hentered : Booked cs (g.entered a now) := hb.congr rfl rfl
    refine ⟨some c, hentered.recorded _ now c, ?_⟩
    exact congrArg some (c.status_answer _ now)
  | @finished number e t c ht hw h =>
    have hfinish : Booked cs (g.finish t) := hb.congr rfl rfl
    refine ⟨some c, hfinish.recorded _ now c, ?_⟩
    exact congrArg some (c.status_answer _ now)
  | drain =>
    refine ⟨none, ?_, rfl⟩
    rw [Option.toList_none, List.append_nil]
    exact ⟨hb.1, hb.2, hb.3, hb.4, hb.5, hb.6, hb.7⟩
  | resetTelemetry => exact absurd rfl he
  | _ => exact ⟨none, quiet rfl rfl, rfl⟩

/-- The answers among some reactions. -/
def answers (reactions : List Reaction) : List Answer := reactions.filterMap Reaction.answer?

theorem answers_append (rs rs' : List Reaction) : answers (rs ++ rs') = answers rs ++ answers rs' :=
  List.filterMap_append

theorem answers_toList (r : Option Reaction) :
    answers r.toList = (r.bind Reaction.answer?).toList := by
  cases r with
  | none => rfl
  | some r => cases h : r.answer? <;> simp [answers, h]

/-- **A run adds one closing for each answer.** -/
theorem booked_run (hb : Booked cs g) {es : List (Moment × Event)}
    (he : ∀ e ∈ es, e.2 ≠ .resetTelemetry) :
    ∃ new, Booked (cs ++ new) (g.run es).1 ∧
      (answers (g.run es).2).map Answer.status = new.map Closing.status ∧
      new.length ≤ es.length := by
  induction es generalizing g cs with
  | nil => exact ⟨[], by rwa [List.append_nil], rfl, Nat.le_refl _⟩
  | cons e es ih =>
    obtain ⟨now, e⟩ := e
    obtain ⟨new, hnew, hs⟩ := (step_way g now e).booked hb (he _ List.mem_cons_self)
    obtain ⟨rest, hrest, hss, hlen⟩ := ih hnew fun e hm => he e (List.mem_cons_of_mem _ hm)
    refine ⟨new.toList ++ rest, by rwa [← List.append_assoc], ?_, ?_⟩
    · have hfirst : (answers (g.step now e).2.toList).map Answer.status =
          new.toList.map Closing.status := by
        rw [answers_toList, ← Option.toList_map, hs, Option.toList_map]
      rw [run_cons, answers_append, List.map_append, List.map_append, hfirst, hss]
    · have hone : new.toList.length ≤ 1 := Option.length_toList_le
      rw [List.length_append, List.length_cons]
      omega

end Gateway

/-! ## The accounts -/

namespace Metrics

/-- How many requests were rejected for a reason. -/
def rejected (m : Metrics) (r : Rejection) : Nat := (m.rejections.get r.labels).toNat

/-- How many runs surfaced an engine, with an error or without. -/
def surfaced (m : Metrics) (engine : EngineTag) (error : Bool) : Nat :=
  (m.engineRuns.get (engineLabels engine error)).toNat

/-- How many runs surfaced anything. -/
def runs (m : Metrics) : Nat :=
  (m.surfaced .primary false + m.surfaced .primary true) +
    (m.surfaced .secondary false + m.surfaced .secondary true) +
    (m.surfaced .none false + m.surfaced .none true)

/-- How many durations were observed of requests that ended in a way. -/
def observed (m : Metrics) (k : Conclusion) : Nat := (m.durations.observations k.labels).toNat

end Metrics

/-- So short a ledger stops no total. -/
theorem min_countP {cs : List Closing} (h : cs.length < Width.of64) (p : Closing → Bool) :
    min (cs.countP p) Telemetry.largest = cs.countP p := by
  have hle : cs.countP p ≤ cs.length := List.countP_le_length
  unfold Telemetry.largest
  omega

/-- So short a ledger wraps no counter. -/
theorem toNat_countP {cs : List Closing} (h : cs.length < Width.of64) (p : Closing → Bool) :
    (UInt64.ofNat (cs.countP p)).toNat = cs.countP p := by
  have hlt : cs.countP p < Width.of64 := Nat.lt_of_le_of_lt List.countP_le_length h
  exact UInt64.toNat_ofNat_of_lt hlt

theorem Booked.rejected {cs : List Closing} {g : Gateway} (h : Booked cs g)
    (hcs : cs.length < Width.of64) (k : Rejection) :
    g.metrics.rejected k = cs.countP fun c => c.rejection? = some k := by
  unfold Metrics.rejected
  rw [h.rejections, toNat_countP hcs]

theorem Booked.observed {cs : List Closing} {g : Gateway} (h : Booked cs g)
    (hcs : cs.length < Width.of64) (k : Conclusion) :
    g.metrics.observed k = cs.countP fun c => c.conclusion? = some k := by
  unfold Metrics.observed
  rw [h.durations, toNat_countP hcs]

/-- The runs of all engines are the executions. -/
theorem Booked.runs {cs : List Closing} {g : Gateway} (h : Booked cs g)
    (hcs : cs.length < Width.of64) :
    g.metrics.runs = cs.countP fun c => c.conclusion? = some .executed := by
  unfold Metrics.runs Metrics.surfaced
  simp only [h.engineRuns, toNat_countP hcs, ← runs_ledger]
  exact (executions_ledger cs).symm

theorem countP_answers {cs : List Closing} {as : List Answer}
    (h : as.map Answer.status = cs.map Closing.status) (p : Nat → Bool) :
    (as.countP fun a => p a.status) = cs.countP fun c => p c.status := by
  have hc := congrArg (List.countP p) h
  rwa [List.countP_map, List.countP_map] at hc

/-- **The accounts of a gateway balance.** -/
theorem accounts_balance (config : Config) (canFallBack : Bool) (start : Moment)
    (es : List (Moment × Event)) (hreset : ∀ e ∈ es, e.2 ≠ .resetTelemetry)
    (hlen : es.length < Width.of64) :
    let r := (Gateway.start config canFallBack start).run es
    let t := r.1.telemetry
    let m := r.1.metrics
    let answers := Gateway.answers r.2
    t.requests + t.errors + t.rateLimited = answers.length ∧
      t.rateLimited =
        m.rejected .payloadTooLarge + m.rejected .rateLimited + m.rejected .busy ∧
      t.rateLimited = (answers.countP fun a => a.status ∈ [413, 429, 503]) ∧
      t.errors = (answers.countP fun a => a.status = 500) ∧
      t.errors = m.observed .failed ∧
      t.parseErrors = m.observed .lintErrors + m.observed .invalidContext ∧
      t.requests = t.parseErrors + m.runs ∧
      m.runs = m.observed .executed ∧
      ∀ before now n after, es = before ++ (now, .left n) :: after →
        n ∈ Gateway.unfinished ((Gateway.start config canFallBack start).trace before) →
        ∀ a, .answered n a ∉ r.2 := by
  intro r t m answers
  obtain ⟨cs, hb, hs, hle⟩ := Gateway.booked_run (booked_start config canFallBack start) hreset
  rw [List.nil_append] at hb
  have hcs : cs.length < Width.of64 := Nat.lt_of_le_of_lt hle hlen
  have hrequests : t.requests = _ := hb.requests.trans (min_countP hcs _)
  have herrors : t.errors = _ := hb.errors.trans (min_countP hcs _)
  have hrefusals : t.rateLimited = _ := hb.rateLimited.trans (min_countP hcs _)
  have hparse : t.parseErrors = _ := hb.parseErrors.trans (min_countP hcs _)
  have hanswers : answers.length = cs.length := by
    simpa only [List.length_map] using congrArg List.length hs
  refine ⟨?_, ?_, ?_, ?_, ?_, ?_, ?_, ?_, ?_⟩
  · rw [hrequests, herrors, hrefusals, hanswers]
    exact (length_ledger cs).symm
  · rw [hrefusals, hb.rejected hcs, hb.rejected hcs, hb.rejected hcs]
    exact refusals_ledger cs
  · rw [hrefusals, countP_answers hs fun n => n ∈ [413, 429, 503]]
    exact List.countP_congr fun c _ => by rw [refused_eq]
  · rw [herrors, countP_answers hs fun n => n = 500]
  · rw [herrors, hb.observed hcs]
    exact List.countP_congr fun c _ => by rw [failed_eq]
  · rw [hparse, hb.observed hcs, hb.observed hcs]
    exact parseErrors_ledger cs
  · rw [hrequests, hparse, hb.runs hcs]
    exact requests_ledger cs
  · rw [hb.runs hcs, hb.observed hcs]
  · rintro before now n after rfl hn a
    rw [Gateway.unfinished_trace] at hn
    exact Gateway.left_run (Gateway.orderly_start ..) hn a

/-- Of four requests two end as such and one is refused. The one whose caller left is nowhere. -/
theorem accounts_of_sampleRun :
    let r := (Gateway.start Gateway.sampleConfig true 0).run Gateway.sampleRun
    (Gateway.answers r.2).length = 3 ∧ r.1.metrics.runs = 1 ∧
      r.1.metrics.observed .executed = 1 ∧ ∀ a, .answered 0 a ∉ r.2 := by
  intro r
  obtain ⟨hall, -, -, -, -, -, hrequests, hexecuted, hleft⟩ :=
    accounts_balance Gateway.sampleConfig true 0 Gateway.sampleRun (by simp [Gateway.sampleRun])
      (by decide)
  have htotals : r.1.telemetry.requests = 2 ∧ r.1.telemetry.parseErrors = 1 := by decide +kernel
  have hruns : r.1.metrics.runs = 1 := by
    have h : r.1.telemetry.requests = r.1.telemetry.parseErrors + r.1.metrics.runs := hrequests
    rw [htotals.1, htotals.2] at h
    exact (Nat.add_left_cancel h).symm
  refine ⟨hall.symm.trans (by decide +kernel), hruns, hexecuted.symm.trans hruns, ?_⟩
  exact hleft (Gateway.sampleRun.take 2) 2 0 (Gateway.sampleRun.drop 3) rfl (by decide +kernel)

end PolicyGate
