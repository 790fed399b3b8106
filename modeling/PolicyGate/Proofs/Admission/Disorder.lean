import Mathlib.Data.List.DropRight
import PolicyGate.Proofs.Admission.History

/-!
# A limiter whose calls come out of order

A request reads the clock before it reaches its client's times, so calls can reach a limiter in
another order than their times. Pruning then goes by the times of calls that come too early, and
what it drops may still lie in the window of a call that comes late.

* `overtakers` — the calls later than a moment that were made before the last admission of a client
  in some interval.
* `LateBy` — no call comes after one that is later by more than the given lateness.

**Theorem (`admitted_of_disorder`).** In every run, a closed window of a client holds at most the
allowed number of admitted requests, once more for each call that overtakes it. In particular no
window holds more than allowed if no call comes late, and if calls come late by at most `d`, then no
interval shorter than the window by `d` does. No client ever has more times than allowed.

The allowed number itself is not a bound: `overtaken_window_overfull` is a run in which one call
overtakes another by the smallest time there is.

The proof is an induction over the calls with the invariant `Tallies`: what is missing from the
client's times is at most the allowed number for each call later than the window. A call that is not
later drops no time of the interval, and a later one drops at most all that are left.
-/

namespace PolicyGate.Limiter

/-! ## Overtaking -/

/-- Whether an entry admits a client at a time in a closed interval. -/
def Entry.falls (client : String) (lo hi : Int) (e : Entry) : Bool :=
  (Entry.admission? client e).any fun t => lo ≤ t ∧ t ≤ hi

/-- Whether a call is later than a moment. -/
def Call.isAfter (moment : Int) (c : Call) : Bool := c.time?.any fun t => moment < t

/-- How many calls since the last reset are later than a moment. -/
def laterThan (moment : Int) (log : List Entry) : Nat :=
  (sinceReset log).countP fun e => e.1.isAfter moment

/-- How many calls later than a moment were made since the last reset and before the last admission
of a client in a closed interval. -/
def overtakers (client : String) (lo hi moment : Int) (log : List Entry) : Nat :=
  ((sinceReset log).rdropWhile fun e => !e.falls client lo hi).countP fun e =>
    e.1.isAfter moment

/-- No call comes after one that is later by more than the lateness. -/
def LateBy (lateness : Nat) (calls : List Call) : Prop :=
  (calls.filterMap Call.time?).Pairwise fun t t' : Int => t ≤ t' + lateness

instance (lateness : Nat) (calls : List Call) : Decidable (LateBy lateness calls) :=
  inferInstanceAs (Decidable (List.Pairwise _ _))

variable {window maxRequests : Nat} {l : Limiter} {log : List Entry}
  {client : String} {lo hi moment now : Int}

/-! ## One more entry -/

/-- A call that is no reset adds its admission to the history, if it is one. -/
theorem history_snoc {e : Entry} (he : e.1 ≠ .reset) (client : String) (log : List Entry) :
    history client (log ++ [e]) =
      history client log ++ (Entry.admission? client e).toList := by
  unfold history
  rw [sinceReset_snoc, if_neg he, List.filterMap_append]
  cases h : Entry.admission? client e <;> simp [h]

/-- An admission counts in the intervals that it falls into. -/
theorem within_admission (client : String) (lo hi : Int) (e : Entry) :
    within lo hi (Entry.admission? client e).toList =
      if e.falls client lo hi = true then 1 else 0 := by
  unfold within Entry.falls
  cases Entry.admission? client e with
  | none => simp
  | some t => by_cases ht : lo ≤ t ∧ t ≤ hi <;> simp [ht]

theorem laterThan_snoc {e : Entry} (he : e.1 ≠ .reset) (moment : Int) (log : List Entry) :
    laterThan moment (log ++ [e]) =
      laterThan moment log + if e.1.isAfter moment = true then 1 else 0 := by
  unfold laterThan
  rw [sinceReset_snoc, if_neg he, List.countP_append, List.countP_singleton]

theorem time_of_falls {e : Entry} (h : e.falls client lo hi = true) :
    ∃ t, e.1.time? = some t ∧ lo ≤ t ∧ t ≤ hi := by
  obtain ⟨c, yes⟩ := e
  cases c with
  | ask client' t =>
    cases yes with
    | false => simp [Entry.falls, Entry.admission?] at h
    | true =>
      have ht : client' = client ∧ lo ≤ t ∧ t ≤ hi := by
        simpa [Entry.falls, Entry.admission?, Option.any_eq_true] using h
      exact ⟨t, rfl, ht.2⟩
  | sweep t => simp [Entry.falls, Entry.admission?] at h
  | reset => simp [Entry.falls, Entry.admission?] at h

/-- Up to an admission in the interval, every later call overtakes. -/
theorem overtakers_of_falls {e : Entry} (h : e.falls client lo hi = true) (moment : Int)
    (log : List Entry) :
    overtakers client lo hi moment (log ++ [e]) = laterThan moment (log ++ [e]) := by
  have he : e.1 ≠ .reset := by
    intro hreset
    obtain ⟨t, ht, -⟩ := time_of_falls h
    rw [hreset] at ht
    cases ht
  unfold overtakers laterThan
  rw [sinceReset_snoc, if_neg he, List.rdropWhile_concat_neg]
  simp [h]

/-- What comes behind the last admission in the interval overtakes nothing. -/
theorem overtakers_of_not_falls {e : Entry} (he : e.1 ≠ .reset)
    (h : e.falls client lo hi = false) (moment : Int) (log : List Entry) :
    overtakers client lo hi moment (log ++ [e]) = overtakers client lo hi moment log := by
  unfold overtakers
  rw [sinceReset_snoc, if_neg he, List.rdropWhile_concat_pos]
  simp [h]

/-! ## What shedding costs an interval -/

/-- A call that is at most a window later than the interval starts drops nothing of it. -/
theorem Sheds.within_eq {times kept : List Int} (h : Sheds window now times kept) (lo hi : Int)
    (hn : now ≤ lo + window) : within lo hi kept = within lo hi times := by
  obtain ⟨gone, rfl, hgone⟩ := h
  have hnone : within lo hi gone = 0 := by
    unfold within
    rw [List.countP_eq_zero]
    intro t ht
    have := hgone t ht
    simp only [decide_eq_true_eq]
    omega
  rw [within_append, hnone, Nat.zero_add]

/-! ## The tally of an interval -/

/-- What a limiter still knows of the admissions of a client in an interval. -/
structure Tallies (window maxRequests : Nat) (client : String) (lo hi : Int) (log : List Entry)
    (l : Limiter) : Prop where
  window_eq : l.window = window
  maxRequests_eq : l.maxRequests = maxRequests
  distinct : l.Distinct
  /-- No client has more times than allowed. -/
  full : l.Full
  /-- Each call later than a window from the start of the interval took at most all there were. -/
  known : within lo hi (history client log) ≤
    maxRequests * laterThan (lo + window) log + within lo hi (l.times client)

theorem tallies_start (window maxRequests maxTracked : Nat) (client : String) (lo hi : Int) :
    Tallies window maxRequests client lo hi [] (start window maxRequests maxTracked) where
  window_eq := rfl
  maxRequests_eq := rfl
  distinct := distinct_start ..
  full := full_start window maxRequests maxTracked
  known := Nat.zero_le _

/-- All that the limiter knows of the interval is at most the allowed number. -/
theorem Tallies.within_times_le (h : Tallies window maxRequests client lo hi log l) :
    within lo hi (l.times client) ≤ maxRequests := by
  have hfull := h.full client
  rw [h.maxRequests_eq] at hfull
  exact Nat.le_trans List.countP_le_length hfull

/-- An entry of a call at some time keeps the tally if the limiter took over its admission and then
only shed times. -/
theorem Tallies.snoc (h : Tallies window maxRequests client lo hi log l)
    (hhi : hi ≤ lo + window) {c : Call} {yes : Bool} {l' : Limiter} (hc : c.time? = some now)
    (hw : l'.window = window) (hm : l'.maxRequests = maxRequests) (hd : l'.Distinct)
    (hf : l'.Full)
    (hs : Sheds window now (l.times client ++ (Entry.admission? client (c, yes)).toList)
      (l'.times client)) :
    Tallies window maxRequests client lo hi (log ++ [(c, yes)]) l' := by
  have he : ((c, yes) : Entry).1 ≠ .reset := by
    rintro rfl
    simp [Call.time?] at hc
  refine ⟨hw, hm, hd, hf, ?_⟩
  have hknown := h.known
  rw [history_snoc he, within_append, laterThan_snoc he]
  by_cases hn : now ≤ lo + window
  · -- Nothing of the interval is dropped, so the entry counts alike on both sides.
    have hearly : c.isAfter (lo + window) = false := by
      simp [Call.isAfter, hc, hn]
    have hkept := hs.within_eq lo hi hn
    rw [within_append] at hkept
    simp only [hearly, Bool.false_eq_true, if_false, Nat.add_zero]
    omega
  · -- All that was known may be dropped, but the entry itself is no admission in the interval.
    have hlate : c.isAfter (lo + window) = true := by
      simp [Call.isAfter, hc]
      omega
    have hout : within lo hi (Entry.admission? client (c, yes)).toList = 0 := by
      rw [within_admission, if_neg]
      intro hfalls
      obtain ⟨t, ht, -, hle⟩ := time_of_falls hfalls
      obtain rfl : now = t := Option.some.inj (hc.symm.trans ht)
      omega
    have hroom := h.within_times_le
    simp only [hlate, if_true, Nat.mul_add, Nat.mul_one]
    omega

theorem Tallies.take (h : Tallies window maxRequests client lo hi log l)
    (hhi : hi ≤ lo + window) (c : Call) :
    Tallies window maxRequests client lo hi (log ++ [(c, (l.take c).1)]) (l.take c).2 := by
  cases c with
  | ask client' now =>
    have hset := accept_settings l client' now
    have hs := sheds_accept h.distinct client' now client
    rw [h.window_eq] at hs
    refine h.snoc hhi rfl (hset.1.trans h.window_eq) (hset.2.trans h.maxRequests_eq)
      (h.distinct.accept client' now) (h.full.accept h.distinct client' now) ?_
    rw [take_ask]
    have hadmission : (Entry.admission? client
        (.ask client' now, (l.accept client' now).1)).toList =
          if client = client' ∧ (l.accept client' now).1 = true then [now] else [] := by
      by_cases hc : client = client'
      · subst hc
        cases (l.accept client now).1 <;> simp [Entry.admission?]
      · cases (l.accept client' now).1 <;> simp [Entry.admission?, hc, Ne.symm hc]
    rw [hadmission]
    exact hs
  | sweep now =>
    have hs := sheds_sweep h.distinct now client
    rw [h.window_eq] at hs
    refine h.snoc hhi rfl h.window_eq h.maxRequests_eq (h.distinct.sweep now)
      (h.full.sweep h.distinct now) ?_
    show Sheds window now _ ((l.sweep now).times client)
    simpa [Entry.admission?] using hs
  | reset =>
    refine ⟨h.window_eq, h.maxRequests_eq, h.distinct.reset, full_reset l, ?_⟩
    rw [history_reset]
    exact Nat.zero_le _

/-! ## Runs -/

theorem tallies_run (window maxRequests maxTracked : Nat) (client : String) (lo hi : Int)
    (hhi : hi ≤ lo + window) (calls : List Call) :
    Tallies window maxRequests client lo hi (run (start window maxRequests maxTracked) calls).1
      (run (start window maxRequests maxTracked) calls).2 := by
  induction calls using List.reverseRecOn with
  | nil => exact tallies_start ..
  | append_singleton calls c ih =>
    rw [run_snoc]
    exact ih.take hhi c

/-- **An interval no longer than the window holds at most the allowed number of admissions, once
more for each call that overtakes it.** -/
theorem within_le_overtakers (window maxRequests maxTracked : Nat) (client : String) (lo hi : Int)
    (hhi : hi ≤ lo + window) (calls : List Call) :
    within lo hi (history client (run (start window maxRequests maxTracked) calls).1) ≤
      maxRequests * (overtakers client lo hi (lo + window)
        (run (start window maxRequests maxTracked) calls).1 + 1) := by
  induction calls using List.reverseRecOn with
  | nil => exact Nat.zero_le _
  | append_singleton calls c ih =>
    have htally := (tallies_run window maxRequests maxTracked client lo hi hhi calls).take hhi c
    have hroom := htally.within_times_le
    have hknown := htally.known
    rw [run_snoc]
    dsimp only
    generalize ((run (start window maxRequests maxTracked) calls).2.take c).1 = yes at hknown ⊢
    by_cases hreset : c = .reset
    · subst hreset
      rw [history_reset]
      exact Nat.zero_le _
    have he : ((c, yes) : Entry).1 ≠ .reset := hreset
    cases hfalls : Entry.falls client lo hi (c, yes) with
    | true =>
      rw [overtakers_of_falls hfalls, Nat.mul_add, Nat.mul_one]
      omega
    | false =>
      rw [history_snoc he, within_append, within_admission, hfalls,
        overtakers_of_not_falls he hfalls]
      exact ih

/-! ## Bounded lateness -/

theorem LateBy.sublist {lateness : Nat} {calls calls' : List Call} (h : LateBy lateness calls)
    (hs : calls'.Sublist calls) : LateBy lateness calls' :=
  List.Pairwise.sublist (hs.filterMap _) h

theorem sinceReset_sublist (log : List Entry) : (sinceReset log).Sublist log := by
  unfold sinceReset
  rw [← List.reverse_sublist, List.reverse_reverse]
  exact List.takeWhile_sublist _

/-- A call that is followed by an admission in an interval is not much later than the interval. -/
theorem overtakers_eq_zero {lateness : Nat} (h : LateBy lateness (log.map Prod.fst))
    (hm : hi + lateness ≤ moment) (client : String) (lo : Int) :
    overtakers client lo hi moment log = 0 := by
  unfold overtakers
  generalize hup : (sinceReset log).rdropWhile (fun e => !e.falls client lo hi) = upTo
  have hsub : upTo.Sublist log := by
    rw [← hup]
    exact (List.rdropWhile_prefix _ _).sublist.trans (sinceReset_sublist log)
  have hlate : LateBy lateness (upTo.map Prod.fst) := h.sublist (hsub.map _)
  rcases List.eq_nil_or_concat upTo with rfl | ⟨before, e, rfl⟩
  · rfl
  rw [List.concat_eq_append] at hup hlate ⊢
  have hfalls : e.falls client lo hi = true := by
    have hlast := List.rdropWhile_last_not (fun e : Entry => !e.falls client lo hi) (sinceReset log)
      (by rw [hup]; simp)
    simpa [hup] using hlast
  obtain ⟨t, ht, -, hle⟩ := time_of_falls hfalls
  rw [List.countP_eq_zero]
  intro e' he' hafter
  obtain ⟨t', ht', hlt⟩ : ∃ t', e'.1.time? = some t' ∧ moment < t' := by
    simpa [Call.isAfter, Option.any_eq_true] using hafter
  rcases List.mem_append.mp he' with he' | he'
  · unfold LateBy at hlate
    rw [List.map_append, List.filterMap_append, List.pairwise_append] at hlate
    have hbefore : t' ∈ (before.map Prod.fst).filterMap Call.time? :=
      List.mem_filterMap.mpr ⟨e'.1, List.mem_map_of_mem he', ht'⟩
    have := hlate.2.2 t' hbefore t (by simp [ht])
    omega
  · obtain rfl := List.mem_singleton.mp he'
    have := Option.some.inj (ht.symm.trans ht')
    omega

/-! ## The bound -/

/-- **How much a limiter admits when its calls come out of order.** No client has more times than
allowed. A closed window holds at most the allowed number of a client's admissions, once more for
each call that overtakes it. And if no call is late by more than some lateness, windows shorter by
this lateness hold at most the allowed number. -/
theorem admitted_of_disorder (window maxRequests maxTracked : Nat) (calls : List Call) :
    let r := run (start window maxRequests maxTracked) calls
    (∀ client, (r.2.times client).length ≤ maxRequests) ∧
    (∀ client lo, within lo (lo + window) (history client r.1) ≤
      maxRequests * (overtakers client lo (lo + window) (lo + window) r.1 + 1)) ∧
    ∀ lateness length, LateBy lateness calls → length + lateness ≤ window →
      ∀ client lo, within lo (lo + length) (history client r.1) ≤ maxRequests := by
  intro r
  refine ⟨?_, ?_, ?_⟩
  · intro client
    have htally := tallies_run window maxRequests maxTracked client 0 0 (by omega) calls
    rw [← htally.maxRequests_eq]
    exact htally.full client
  · intro client lo
    exact within_le_overtakers window maxRequests maxTracked client lo _ (Int.le_refl _) calls
  · intro lateness length hlate hlength client lo
    have hbound := within_le_overtakers window maxRequests maxTracked client lo (lo + length)
      (by omega) calls
    rw [← calls_run (start window maxRequests maxTracked) calls] at hlate
    rwa [overtakers_eq_zero hlate (by omega), Nat.zero_add, Nat.mul_one] at hbound

/-- A request that read the clock right before another one and comes right after it: the other one
drops two times from which a window with both reaches the late one. -/
theorem overtaken_window_overfull :
    ¬ ∀ (window maxRequests maxTracked : Nat) (calls : List Call), 1 ≤ maxRequests →
      (∀ c ∈ calls, ∃ client now, c = .ask client now) →
      ∀ client lo, within lo (lo + window)
        (history client (run (start window maxRequests maxTracked) calls).1) ≤ maxRequests := by
  intro h
  have hfull := h 100 2 10 [.ask "a" 1000, .ask "a" 1000, .ask "a" 1101, .ask "a" 1100]
    (by decide) (by simp) "a" 1000
  exact absurd hfull (by decide)

/-- With requests that are late by at most thirty, a window shorter by thirty stays within the two
requests allowed; a client of whom a sweep forgot all gets the allowed number twice. -/
theorem admitted_of_late_requests :
    let late : List Call :=
      [.ask "a" 1000, .ask "a" 1030, .ask "a" 1000, .ask "a" 1101, .ask "a" 1071]
    let swept : List Call :=
      [.ask "a" 1000, .ask "a" 1000, .ask "b" 1101, .ask "a" 1000, .ask "a" 1000]
    (LateBy 30 late ∧ ∀ lo, within lo (lo + 70) (history "a" (run (start 100 2 1) late).1) ≤ 2) ∧
      within 1000 1100 (history "a" (run (start 100 2 1) swept).1) = 4 ∧
      2 * (overtakers "a" 1000 1100 1100 (run (start 100 2 1) swept).1 + 1) = 4 := by
  intro late swept
  have hlate : LateBy 30 late := by decide
  refine ⟨⟨hlate, ?_⟩, by decide, by decide⟩
  intro lo
  exact (admitted_of_disorder 100 2 1 late).2.2 30 70 hlate (by decide) "a" lo

end PolicyGate.Limiter
