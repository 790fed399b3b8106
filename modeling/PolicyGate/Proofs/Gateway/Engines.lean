import PolicyGate.Proofs.Gateway.Dossier
import PolicyGate.Proofs.Gateway.Ledger
import PolicyGate.Proofs.Gateway.Stages

/-!
# Which engines are called, and how often

Engines are called by events of their own, in between those of other requests, and go on when the
caller has left. From the trace one can still tell what a request has caused: its calls are the
attempts in its dossier.

**Theorem (`calls_exactly_once`).** In every run a request that passes all stages calls the primary
engine once, with the code and the context as they were decoded, and no other request calls any. The
secondary is called once, with the same, if and only if it may stand in and the primary has broken.
When all engines have given an outcome, the request is answered with the result that these give,
unless its caller has left, and is counted once, by the engine and by whether it failed.
-/

namespace PolicyGate

/-! ## The calls of a course -/

variable {canFallBack : Bool} {v : Visit} {found : Finding} {d : Dossier} {task : Option Task}

theorem Remainder.after_eq_secondary {o : Outcome} :
    Remainder.after canFallBack .primary (.outcome o) = .secondary ↔
      canFallBack = true ∧ o.Broke := by
  obtain ⟨hb, hf, h⟩ | ⟨hb, hf, h⟩ | ⟨hb, h⟩ := Remainder.after_primary canFallBack o
  · exact iff_of_true h ⟨hf, hb⟩
  · rw [h, hf]
    exact iff_of_false nofun fun h => Bool.false_ne_true h.1
  · rw [h]
    exact iff_of_false nofun fun h => hb h.2

/-- The primary is called once, and then perhaps the secondary, with the same input. -/
theorem Course.calls_sound {input : EngineInput} {rules : List Policy.Rule}
    (h : Course canFallBack v (.sound input rules) d task) :
    (d.attempts.map (fun t => (t.role, t.input)) = [(.primary, input)] ∨
      d.attempts.map (fun t => (t.role, t.input)) = [(.primary, input), (.secondary, input)]) ∧
    ((.secondary, input) ∈ d.attempts.map (fun t => (t.role, t.input)) ↔
      canFallBack = true ∧ ∃ o, ⟨.primary, input, some (.outcome o)⟩ ∈ d.attempts ∧ o.Broke) := by
  obtain ⟨role, earlier, ending, htried, hattempts, hlast⟩ := h.attempts_sound
  rw [hattempts]
  cases htried with
  | nothing =>
    refine ⟨.inl rfl, iff_of_false (by simp) ?_⟩
    rintro ⟨hf, o, ho, hb⟩
    obtain rfl : some (.outcome o) = ending := by simpa using ho
    exact hlast _ rfl (Remainder.after_eq_secondary.mpr ⟨hf, hb⟩)
  | @primary o h =>
    obtain ⟨hf, hb⟩ := Remainder.after_eq_secondary.mp h
    exact ⟨.inr rfl, iff_of_true (by simp) ⟨hf, o, by simp, hb⟩⟩

/-! ## Which run is counted -/

theorem not_surfaces_nil (r : EngineResult) : ¬ Surfaces [] r := nofun

/-- After a breakdown nothing is surfaced. -/
theorem Tried.not_surfaces_crashed {input : EngineInput} {role : EngineRole}
    {earlier : List Attempt} (h : Tried canFallBack input role earlier) (r : EngineResult) :
    ¬ Surfaces (earlier ++ [⟨role, input, some .crashed⟩]) r := by
  cases h <;> exact nofun

/-- The result of the attempts is what the request is closed with. -/
theorem Tried.closing_of_surfaces {input : EngineInput} {role : EngineRole}
    {earlier : List Attempt} {x : Ending} {rules : List Policy.Rule} {c : Closing}
    {r : EngineResult} (h : Tried canFallBack input role earlier)
    (hc : Closing.ofRemainder? rules (.after canFallBack role x) = some c)
    (hs : Surfaces (earlier ++ [⟨role, input, some x⟩]) r) : c = .ran r rules := by
  cases hrem : Remainder.after canFallBack role x with
  | secondary => exact absurd hrem (Closing.ne_secondary hc)
  | crash =>
    obtain rfl := Remainder.after_eq_crash.mp hrem
    exact absurd hs (h.not_surfaces_crashed r)
  | surface r' =>
    rw [hrem] at hc
    obtain rfl := Option.some.inj hc
    rw [hs.unique (h.surfaces hrem)]

namespace Gateway

variable {g : Gateway} {now : Moment} {e : Event} {s : Gateway × Option Reaction} {n : Nat}

/-- Nobody is answered with a result who has not arrived before. -/
theorem Way.closing_surfaced (h : Way g now e s) (ho : Orderly g) {ans : Answer} {r : EngineResult}
    (hnew : g.arrived ≤ n → d.attempts = [])
    (hold : n < g.arrived → ∃ v found, v.number = n ∧ Course g.canFallBack v found d (g.task? n))
    (hr : s.2 = some (.answered n ans)) (hs : Surfaces (d.follow n (e, s.2)).attempts r) :
    ∃ (t : Task) (rules : List Policy.Rule),
      s.1 = (g.finish t).recorded t.visit now (.ran r rules) := by
  cases h with
  | @closed a c h =>
    obtain ⟨rfl, -⟩ := Reaction.answered.inj (Option.some.inj hr)
    have hs : Surfaces (d.react g.arrived (.answered g.arrived _)).attempts r := hs
    rw [Dossier.react, if_pos rfl] at hs
    exact absurd (hnew (Nat.le_refl _) ▸ hs) (not_surfaces_nil r)
  | @finished m x t c ht hw h =>
    obtain ⟨rfl, -⟩ := Reaction.answered.inj (Option.some.inj hr)
    obtain ⟨hmem, hnum⟩ := task?_eq_some ht
    obtain ⟨v, found, hv, hc⟩ := hold (ho.known _ (mem_underway hmem))
    rw [hnum] at hv hc hs
    subst hv
    rw [ht] at hc
    cases hc with
    | @running input rules role earlier left htried =>
      have hs : Surfaces ((Dossier.happen v.number _ (.ended v.number x)).react v.number
        (.answered v.number _)).attempts r := hs
      rw [htried.happen_ended, Dossier.react, if_pos rfl] at hs
      obtain rfl := htried.closing_of_surfaces h hs
      exact ⟨⟨v, input, rules, role, !left⟩, rules, rfl⟩
  | _ => cases hr

/-- **A result that is surfaced is counted once, by its engine and by whether it failed.** -/
theorem counted_once (ho : Orderly g) (h₀ : g.arrived = 0) {before : List (Moment × Event)}
    {ans : Answer} {r : EngineResult}
    (hr : ((g.run before).1.step now e).2 = some (.answered n ans))
    (hs : Surfaces (dossier n (g.trace (before ++ [(now, e)]))).attempts r)
    (engine : EngineTag) (error : Bool) :
    let g' := (g.run before).1
    (g'.step now e).1.metrics.engineRuns.get (engineLabels engine error) =
      if (r.engine, r.error) = (engine, error) then
        g'.metrics.engineRuns.get (engineLabels engine error) + 1
      else g'.metrics.engineRuns.get (engineLabels engine error) := by
  intro g'
  have hnew (hn : g'.arrived ≤ n) : (dossier n (g.trace before)).attempts = [] := by
    rw [dossier_of_arrived_le ho hn]
    rfl
  have hold (hn : n < g'.arrived) : ∃ v found, v.number = n ∧
      Course g'.canFallBack v found (dossier n (g.trace before)) (g'.task? n) := by
    obtain ⟨earlier, moment, a, later, rfl, rfl⟩ := exists_arrival (h₀ ▸ Nat.zero_le n) hn
    rw [(settings_run g _).2.1]
    exact ⟨_, _, rfl, course_of_request ho earlier moment a later⟩
  have htrace : dossier n (g.trace (before ++ [(now, e)])) =
      (dossier n (g.trace before)).follow n (e, (g'.step now e).2) := by
    unfold dossier
    rw [trace_append, List.foldl_append]
    rfl
  rw [htrace] at hs
  obtain ⟨t, rules, hstep⟩ :=
    (step_way g' now e).closing_surfaced (orderly_run ho before) hnew hold hr hs
  rw [hstep, engineRuns_recorded]
  simp only [Closing.run?, Option.some.injEq]
  rfl

/-- What does not pass all stages calls no engine. -/
theorem attempts_ne_nil_iff {a : Arrival}
    (hc : Course canFallBack (g.visit a now) (g.screened a now) d task) :
    d.attempts ≠ [] ↔ ∃ s, g.Passes now a s := by
  constructor
  · intro h
    by_cases hpasses : ∃ s, g.Passes now a s
    · exact hpasses
    · obtain ⟨c, hfound⟩ := closing_of_not_passes fun s hs => hpasses ⟨s, hs⟩
      obtain ⟨answered, rfl⟩ := hc.of_closing hfound
      exact absurd rfl h
  · rintro ⟨s, hs⟩
    rw [hs.screened] at hc
    obtain ⟨role, earlier, ending, -, hattempts, -⟩ := hc.attempts_sound
    rw [hattempts]
    exact List.append_ne_nil_of_right_ne_nil _ (List.cons_ne_nil _ _)

/-! ## All calls -/

/-- **Who passes all stages calls the primary engine once, and the secondary at most once after
it.** -/
theorem calls_exactly_once (config : Config) (hasSecondary disabled : Bool) (begin : Moment)
    (es : List (Moment × Event)) :
    let g₀ := start config (PolicyGate.canFallBack hasSecondary disabled) begin
    (∀ n role input, .called n role input ∈ (g₀.run es).2 → ∃ before now a after,
      es = before ++ (now, .arrived a) :: after ∧ (g₀.run before).1.arrived = n) ∧
    (∀ before now a after, es = before ++ (now, .arrived a) :: after →
      let g := (g₀.run before).1
      let d := dossier g.arrived (g₀.trace es)
      let calls := (g₀.run es).2.filterMap (Reaction.callFor? g.arrived)
      calls = d.attempts.map (fun t => (t.role, t.input)) ∧
      (calls ≠ [] ↔ ∃ s, g.Passes now a s) ∧
      ∀ s, g.Passes now a s →
        let input : EngineInput :=
          ⟨s.rawCode.getD "", s.rawContext.filter fun c => !Text.allBlank c⟩
        (calls = [(.primary, input)] ∨ calls = [(.primary, input), (.secondary, input)]) ∧
        ((.secondary, input) ∈ calls ↔ hasSecondary = true ∧ disabled = false ∧
          ∃ o, ⟨.primary, input, some (.outcome o)⟩ ∈ d.attempts ∧ o.Broke) ∧
        ((∀ t ∈ d.attempts, ∃ o, t.ending = some (.outcome o)) →
          ∃ r ms, Surfaces d.attempts r ∧ d.answers = if d.left then [] else
            [⟨none, .executed a.requestId ms (Policy.rules s.code.toList) r⟩])) ∧
    ∀ before now e after, es = before ++ (now, e) :: after →
      let g := (g₀.run before).1
      let g' := (g.step now e).1
      ∀ n ans r, (g.step now e).2 = some (.answered n ans) →
        Surfaces (dossier n (g₀.trace (before ++ [(now, e)]))).attempts r →
        ∀ engine error, g'.metrics.engineRuns.get (engineLabels engine error) =
          if (r.engine, r.error) = (engine, error) then
            g.metrics.engineRuns.get (engineLabels engine error) + 1
          else g.metrics.engineRuns.get (engineLabels engine error) := by
  intro g₀
  have ho₀ : Orderly g₀ := orderly_start ..
  refine ⟨fun n role input h => arrival_of_reaction ho₀ rfl h, ?_, ?_⟩
  · rintro before now a after rfl g d calls
    have hc : Course _ (g.visit a now) (g.screened a now) d _ :=
      course_of_request ho₀ before now a after
    have hcalls : calls = d.attempts.map fun t => (t.role, t.input) :=
      (calls_dossier g₀ _ g.arrived).symm
    refine ⟨hcalls, ?_, fun s hs => ?_⟩
    · rw [← attempts_ne_nil_iff hc, hcalls]
      exact not_congr List.map_eq_nil_iff
    · rw [hs.screened] at hc
      obtain ⟨hone, hsecond⟩ := hc.calls_sound
      have hfall : PolicyGate.canFallBack hasSecondary disabled = true ↔
          hasSecondary = true ∧ disabled = false := by
        cases hasSecondary <;> cases disabled <;> decide
      rw [← hcalls] at hone hsecond
      refine ⟨hone, ?_, fun hall => ?_⟩
      · rw [← and_assoc, ← hfall]
        exact hsecond
      · obtain ⟨r, answered, hr, hans⟩ := hc.surfaced hall
        exact ⟨r, _, hr, hans⟩
  · rintro before now e after rfl g g' n ans r hr hs engine error
    exact counted_once ho₀ rfl hr hs engine error

/-- The engine of the third request times out, and the secondary is called once in its place. Its
result is counted as a success of the secondary. -/
theorem calls_of_sampleRun :
    let g₀ := start sampleConfig (PolicyGate.canFallBack true false) 0
    let input : EngineInput := ⟨sampleSubmission.code, none⟩
    let last : Event := .ended 2 (.outcome ⟨"", "", [], none⟩)
    let count := fun (g : Gateway) => g.metrics.engineRuns.get (engineLabels .secondary false)
    (g₀.run sampleRun).2.filterMap (Reaction.callFor? 2) =
        [(.primary, input), (.secondary, input)] ∧
      count ((g₀.run (sampleRun.take 6)).1.step 6 last).1 =
        count (g₀.run (sampleRun.take 6)).1 + 1 := by
  intro g₀ input last count
  have hstart : start sampleConfig (PolicyGate.canFallBack true false) 0 = g₀ := rfl
  obtain ⟨-, hcalls, hcounted⟩ := calls_exactly_once sampleConfig true false 0 sampleRun
  rw [hstart] at hcalls hcounted
  constructor
  · have hseen : (g₀.run (sampleRun.take 4)).1.arrived = 2 ∧
        ⟨.primary, input, some (.outcome (.failed .timeout))⟩ ∈
          (dossier 2 (g₀.trace sampleRun)).attempts := by
      decide +kernel
    obtain ⟨hnumber, htimeout⟩ := hseen
    obtain ⟨-, -, hpasses⟩ :=
      hcalls (sampleRun.take 4) 4 ⟨"r2", "b", .whole sampleBody⟩ (sampleRun.drop 5) rfl
    obtain ⟨hone, hsecond, -⟩ := hpasses sampleSubmission passes_sampleSubmission
    rw [hnumber] at hone hsecond
    have hmem := hsecond.mpr ⟨rfl, rfl, _, htimeout, .timeout, rfl, nofun⟩
    rcases hone with h | h
    · rw [h] at hmem
      simp at hmem
    · exact h
  · have hseen : (((g₀.run (sampleRun.take 6)).1.step 6 last).2.bind
        (Reaction.answerTo? 2)).isSome ∧
        (dossier 2 (g₀.trace (sampleRun.take 6 ++ [(6, last)]))).attempts =
          [⟨.primary, input, some (.outcome (.failed .timeout))⟩,
            ⟨.secondary, input, some (.outcome ⟨"", "", [], none⟩)⟩] := by
      decide +kernel
    obtain ⟨hanswered, hattempts⟩ := hseen
    obtain ⟨ans, hans⟩ := Option.isSome_iff_exists.mp hanswered
    obtain ⟨reaction, hr, ha⟩ := Option.bind_eq_some_iff.mp hans
    rw [Reaction.answerTo?_eq_some.mp ha] at hr
    have hsurfaces : Surfaces (dossier 2 (g₀.trace (sampleRun.take 6 ++ [(6, last)]))).attempts
        ⟨"", "", [], .secondary, false⟩ := by
      rw [hattempts]
      exact .secondary
    have hcount := hcounted (sampleRun.take 6) 6 last (sampleRun.drop 7) rfl 2 ans
      ⟨"", "", [], .secondary, false⟩ hr hsurfaces .secondary false
    rw [if_pos rfl] at hcount
    exact hcount

end Gateway

end PolicyGate
