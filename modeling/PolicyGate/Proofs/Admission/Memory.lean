import PolicyGate.Proofs.Admission.History

/-!
# What a limiter keeps in memory

A limiter keeps times of its clients, and forgets clients only when it sweeps. It sweeps by itself
when it is asked, tracks too many clients and has not done so for a window.

* `triggers` — asking makes the limiter sweep.
* `Holding` — every tracked client has a time with some property.
* `Tracks` — no tracked client is without times, and none has only times that were too old at the
  last of the sweeps that were triggered.

**Theorem (`memory_bounded_by_traffic`).** In a run whose times do not decrease, each tracked client
has at least one time and at most the allowed number. Triggered sweeps are a window apart, resets
aside. And if more clients are tracked than wanted after a request, each of them had a request
admitted in the last two windows.

A sweep leaves only clients with a time in its window, and later requests bring only times that are
newer. So the times are as recent as the last triggered sweep, and after a request that leaves too
many clients this one is less than a window old (`swept_of_crowded`).
-/

namespace PolicyGate.Limiter

variable {window maxRequests maxTracked : Nat} {l : Limiter} {log : List Entry} {now : Int}
  {client : String} {p : Int → Prop}

/-- Whether asking makes the limiter sweep. -/
def triggers (l : Limiter) (client : String) (now : Int) : Bool :=
  l.maxTracked < (l.untidied client now).tracked && l.sweepDue now

theorem accept_of_triggers (h : l.triggers client now = true) :
    (l.accept client now).2 = { (l.untidied client now).sweep now with lastSweep := some now } :=
  if_pos h

theorem accept_of_not_triggers (h : l.triggers client now = false) :
    (l.accept client now).2 = l.untidied client now := by
  refine if_neg ?_
  rw [Bool.not_eq_true]
  exact h

/-! ## Times of every tracked client -/

/-- Every tracked client has a time with some property. -/
def Holding (p : Int → Prop) (l : Limiter) : Prop := ∀ b ∈ l.buckets, ∃ t ∈ b.2, p t

/-- What pruning leaves begins in the window. -/
theorem exists_mem_prune {times : List Int} (h : prune window now times ≠ []) :
    ∃ t ∈ prune window now times, now - window ≤ t := by
  refine ⟨_, List.head_mem h, ?_⟩
  have hhead := List.head_dropWhile_not (fun t : Int => decide (t < now - window)) h
  simpa [prune] using hhead

/-- Who asks has a time in the window afterwards, admitted or not. -/
theorem exists_mem_timesAsked (hN : 0 < l.maxRequests) :
    ∃ t ∈ l.timesAsked client now, now - l.window ≤ t := by
  unfold timesAsked
  split
  · exact ⟨now, List.mem_append_right _ (List.mem_singleton_self _), by omega⟩
  · next hno =>
    have hfull : ¬ (prune l.window now (l.times client)).length < l.maxRequests :=
      fun h => hno (decide_eq_true h)
    exact exists_mem_prune (List.ne_nil_of_length_pos (by omega))

theorem mem_put {client : String} {times : List Int} {buckets : List (String × List Int)}
    {b : String × List Int} (h : b ∈ put client times buckets) :
    b = (client, times) ∨ b ∈ buckets := by
  induction buckets with
  | nil => exact .inl (List.mem_singleton.mp h)
  | cons row rest ih =>
    obtain ⟨c, ts⟩ := row
    rw [put] at h
    split at h
    · next hc =>
      rcases List.mem_cons.mp h with rfl | h
      · exact .inl (hc ▸ rfl)
      · exact .inr (List.mem_cons_of_mem _ h)
    · rcases List.mem_cons.mp h with rfl | h
      · exact .inr List.mem_cons_self
      · exact (ih h).imp_right (List.mem_cons_of_mem _)

/-- A sweep leaves only clients with a time in the window. -/
theorem holding_sweep (hp : ∀ t, now - l.window ≤ t → p t) : (l.sweep now).Holding p := by
  intro b hb
  obtain ⟨hb, hsome⟩ := List.mem_filter.mp hb
  obtain ⟨old, -, rfl⟩ := List.mem_map.mp hb
  obtain ⟨t, ht, hle⟩ := exists_mem_prune (by simpa using hsome)
  exact ⟨t, ht, hp t hle⟩

theorem Holding.untidied (h : l.Holding p) (hN : 0 < l.maxRequests)
    (hp : ∀ t, now - l.window ≤ t → p t) : (l.untidied client now).Holding p := by
  intro b hb
  rcases mem_put hb with rfl | hb
  · obtain ⟨t, ht, hle⟩ := exists_mem_timesAsked hN
    exact ⟨t, ht, hp t hle⟩
  · exact h b hb

/-- **A property of all times in the window is kept by asking.** -/
theorem Holding.accept (h : l.Holding p) (hN : 0 < l.maxRequests)
    (hp : ∀ t, now - l.window ≤ t → p t) : (l.accept client now).2.Holding p := by
  cases ht : l.triggers client now with
  | true =>
    rw [accept_of_triggers ht]
    exact holding_sweep hp
  | false =>
    rw [accept_of_not_triggers ht]
    exact h.untidied hN hp

/-! ## When a sweep is due -/

theorem sweepDue_iff {last : Int} (h : l.lastSweep = some last) :
    l.sweepDue now = true ↔ l.window ≤ (now - last).toNat := by
  unfold sweepDue
  rw [h]
  exact decide_eq_true_iff

/-- After a request that leaves too many clients, the last triggered sweep is less than a window
old. -/
theorem swept_of_crowded (hw : 0 < l.window)
    (h : (l.accept client now).2.maxTracked < (l.accept client now).2.tracked) :
    ∃ last, (l.accept client now).2.lastSweep = some last ∧ now - last < l.window := by
  cases ht : l.triggers client now with
  | true =>
    rw [accept_of_triggers ht]
    exact ⟨now, rfl, by omega⟩
  | false =>
    rw [accept_of_not_triggers ht] at h ⊢
    have hcrowd : l.maxTracked < (l.untidied client now).tracked := h
    have hdue : ¬ l.sweepDue now = true := by
      intro hdue
      simp [triggers, hcrowd, hdue] at ht
    cases hlast : l.lastSweep with
    | none =>
      refine absurd ?_ hdue
      unfold sweepDue
      rw [hlast]
      rfl
    | some last =>
      rw [sweepDue_iff hlast] at hdue
      exact ⟨last, hlast, by omega⟩

/-! ## Runs -/

/-- What a limiter keeps at a time. -/
structure Tracks (window maxRequests maxTracked : Nat) (l : Limiter) (now : Int) : Prop where
  window_eq : l.window = window
  maxRequests_eq : l.maxRequests = maxRequests
  maxTracked_eq : l.maxTracked = maxTracked
  distinct : l.Distinct
  full : l.Full
  /-- No tracked client is without times. -/
  nonempty : l.Holding fun _ => True
  swept_le : ∀ last, l.lastSweep = some last → last ≤ now
  /-- No tracked client has only times that were too old at the last triggered sweep. -/
  recent : ∀ last, l.lastSweep = some last → l.Holding fun t => last - window ≤ t

theorem tracks_start (window maxRequests maxTracked : Nat) (now : Int) :
    Tracks window maxRequests maxTracked (start window maxRequests maxTracked) now where
  window_eq := rfl
  maxRequests_eq := rfl
  maxTracked_eq := rfl
  distinct := distinct_start ..
  full := full_start window maxRequests maxTracked
  nonempty _ h := absurd h List.not_mem_nil
  swept_le _ h := absurd h nofun
  recent _ h := absurd h nofun

theorem Tracks.later (h : Tracks window maxRequests maxTracked l now) {now' : Int}
    (hn : now ≤ now') : Tracks window maxRequests maxTracked l now' :=
  { h with swept_le := fun last hlast => Int.le_trans (h.swept_le last hlast) hn }

theorem Tracks.ask (h : Tracks window maxRequests maxTracked l now) (hN : 0 < maxRequests)
    (client : String) : Tracks window maxRequests maxTracked (l.accept client now).2 now := by
  have hset := accept_settings l client now
  have hroom : 0 < l.maxRequests := h.maxRequests_eq.symm ▸ hN
  have hmax : (l.accept client now).2.maxTracked = l.maxTracked := by
    rw [accept_snd]
    unfold tidy
    split <;> rfl
  have hswept : ∀ last, (l.accept client now).2.lastSweep = some last →
      last ≤ now ∧ (l.accept client now).2.Holding fun t => last - window ≤ t := by
    intro last hlast
    cases ht : l.triggers client now with
    | true =>
      rw [accept_of_triggers ht] at hlast ⊢
      obtain rfl := Option.some.inj hlast
      exact ⟨Int.le_refl _, holding_sweep fun t ht => h.window_eq ▸ ht⟩
    | false =>
      rw [accept_of_not_triggers ht] at hlast ⊢
      have hle := h.swept_le last hlast
      refine ⟨hle, (h.recent last hlast).untidied hroom fun t ht => ?_⟩
      have hwindow := h.window_eq
      omega
  exact ⟨hset.1.trans h.window_eq, hset.2.trans h.maxRequests_eq, hmax.trans h.maxTracked_eq,
    h.distinct.accept client now, h.full.accept h.distinct client now,
    h.nonempty.accept hroom fun _ _ => trivial, fun last hlast => (hswept last hlast).1,
    fun last hlast => (hswept last hlast).2⟩

theorem Tracks.sweep (h : Tracks window maxRequests maxTracked l now) :
    Tracks window maxRequests maxTracked (l.sweep now) now where
  window_eq := h.window_eq
  maxRequests_eq := h.maxRequests_eq
  maxTracked_eq := h.maxTracked_eq
  distinct := h.distinct.sweep now
  full := h.full.sweep h.distinct now
  nonempty := holding_sweep fun _ _ => trivial
  swept_le := h.swept_le
  recent last hlast := by
    refine holding_sweep fun t ht => ?_
    have hle := h.swept_le last hlast
    have hwindow := h.window_eq
    omega

theorem Tracks.reset (h : Tracks window maxRequests maxTracked l now) :
    Tracks window maxRequests maxTracked l.reset now where
  window_eq := h.window_eq
  maxRequests_eq := h.maxRequests_eq
  maxTracked_eq := h.maxTracked_eq
  distinct := h.distinct.reset
  full := full_reset l
  nonempty _ hb := absurd hb List.not_mem_nil
  swept_le _ hlast := absurd hlast nofun
  recent _ hlast := absurd hlast nofun

theorem Tracks.take (h : Tracks window maxRequests maxTracked l now) (hN : 0 < maxRequests)
    (c : Call) (hc : ∀ t ∈ c.time?, t = now) :
    Tracks window maxRequests maxTracked (l.take c).2 now := by
  cases c with
  | ask client t =>
    obtain rfl := hc t rfl
    exact h.ask hN client
  | sweep t =>
    obtain rfl := hc t rfl
    exact h.sweep
  | reset => exact h.reset

/-- **A limiter tracks its clients like this at any time.** -/
theorem tracks_run (maxTracked : Nat) (hN : 0 < maxRequests) {calls : List Call}
    (ht : Timely calls) {now : Int} (hn : ∀ t ∈ calls.filterMap Call.time?, t ≤ now) :
    Tracks window maxRequests maxTracked (run (start window maxRequests maxTracked) calls).2
      now :=
  timely_run (P := fun _ => Tracks window maxRequests maxTracked)
    (tracks_start window maxRequests maxTracked) (fun _ _ _ _ h hn => h.later hn)
    (fun _ _ _ c h hc => h.take hN c hc) ht hn

/-! ## Triggered sweeps -/

theorem limiter_run_append (l : Limiter) (calls calls' : List Call) :
    (run l (calls ++ calls')).2 = (run (run l calls).2 calls').2 := by
  induction calls' using List.reverseRecOn with
  | nil => rw [List.append_nil]; rfl
  | append_singleton calls' c ih => rw [← List.append_assoc, run_snoc, run_snoc, ih]

/-- A sweep that was triggered is remembered, or a later one is, until there is a reset. -/
theorem lastSweep_run {since : Int} (h : ∃ last, l.lastSweep = some last ∧ since ≤ last)
    {calls : List Call} (hreset : .reset ∉ calls)
    (hafter : ∀ t ∈ calls.filterMap Call.time?, since ≤ t) :
    ∃ last, (run l calls).2.lastSweep = some last ∧ since ≤ last := by
  induction calls using List.reverseRecOn with
  | nil => exact h
  | append_singleton calls c ih =>
    rw [run_snoc]
    obtain ⟨last, hlast, hle⟩ := ih (fun hm => hreset (List.mem_append_left _ hm))
      fun t hm => hafter t (by rw [List.filterMap_append]; exact List.mem_append_left _ hm)
    cases c with
    | ask client now =>
      show ∃ last, ((run l calls).2.accept client now).2.lastSweep = some last ∧ _
      cases ht : (run l calls).2.triggers client now with
      | true =>
        rw [accept_of_triggers ht]
        exact ⟨now, rfl, hafter now (by simp [Call.time?])⟩
      | false =>
        rw [accept_of_not_triggers ht]
        exact ⟨last, hlast, hle⟩
    | sweep now => exact ⟨last, hlast, hle⟩
    | reset => simp at hreset

/-- **Triggered sweeps are a window apart.** -/
theorem window_le_of_triggers {since : Int} (hw : 0 < l.window)
    (h : ∃ last, l.lastSweep = some last ∧ since ≤ last) (ht : l.triggers client now = true) :
    l.window ≤ now - since := by
  obtain ⟨last, hlast, hle⟩ := h
  have hdue := (sweepDue_iff hlast).mp (Bool.and_eq_true_iff.mp ht).2
  omega

/-! ## The bound -/

theorem times_of_mem (h : l.Distinct) {b : String × List Int} (hb : b ∈ l.buckets) :
    l.times b.1 = b.2 := by
  obtain ⟨before, after, he⟩ := List.append_of_mem hb
  have hnew : ∀ b' ∈ before, (b.1 != b'.1) = true := by
    intro b' hb'
    unfold Distinct at h
    rw [he, List.map_append, List.map_cons] at h
    have hne := (List.nodup_append.mp h).2.2 b'.1 (List.mem_map_of_mem hb') b.1 List.mem_cons_self
    simpa using Ne.symm hne
  have hlookup : l.buckets.lookup b.1 = some b.2 :=
    List.lookup_eq_some_iff.mpr ⟨before, after, he, hnew⟩
  unfold times
  rw [hlookup]
  rfl

theorem buckets_of_run (maxTracked : Nat) (hN : 0 < maxRequests) {calls : List Call}
    (ht : Timely calls) {b : String × List Int}
    (hb : b ∈ (run (start window maxRequests maxTracked) calls).2.buckets) :
    b.2 ≠ [] ∧ b.2.length ≤ maxRequests := by
  obtain ⟨now, hn⟩ := exists_latest (calls.filterMap Call.time?)
  have h : Tracks window maxRequests maxTracked _ now := tracks_run maxTracked hN ht hn
  obtain ⟨t, hmem, -⟩ := h.nonempty b hb
  refine ⟨List.ne_nil_of_mem hmem, ?_⟩
  rw [← times_of_mem h.distinct hb]
  exact Nat.le_trans (h.full b.1) (Nat.le_of_eq h.maxRequests_eq)

/-- Sweeps that are triggered one after the other, without a reset between them. -/
theorem window_le_of_run (hw : 0 < window) (hN : 0 < maxRequests) {before between : List Call}
    {client₁ client₂ : String} {now₁ now₂ : Int}
    (ht : Timely (before ++ .ask client₁ now₁ :: between)) (hreset : .reset ∉ between)
    (h₁ : (run (start window maxRequests maxTracked) before).2.triggers client₁ now₁ = true)
    (h₂ : (run (start window maxRequests maxTracked)
      (before ++ .ask client₁ now₁ :: between)).2.triggers client₂ now₂ = true) :
    window ≤ now₂ - now₁ := by
  have hlater : ∀ t ∈ between.filterMap Call.time?, now₁ ≤ t := by
    intro t hm
    unfold Timely at ht
    rw [List.filterMap_append, List.pairwise_append] at ht
    exact List.rel_of_pairwise_cons ht.2.1 hm
  have hswept : ∃ last, ((run (start window maxRequests maxTracked) before).2.accept client₁
      now₁).2.lastSweep = some last ∧ now₁ ≤ last := by
    rw [accept_of_triggers h₁]
    exact ⟨now₁, rfl, Int.le_refl _⟩
  obtain ⟨now, hn⟩ := exists_latest
    ((before ++ .ask client₁ now₁ :: between).filterMap Call.time?)
  have h : Tracks window maxRequests maxTracked _ now := tracks_run maxTracked hN ht hn
  have hwindow := h.window_eq
  have hrun : (run (start window maxRequests maxTracked)
      (before ++ .ask client₁ now₁ :: between)).2 =
      (run ((run (start window maxRequests maxTracked) before).2.accept client₁ now₁).2
        between).2 := by
    rw [List.append_cons, limiter_run_append, run_snoc]
    rfl
  rw [hrun] at h₂ hwindow
  rw [← hwindow]
  exact window_le_of_triggers (hwindow.symm ▸ hw) (lastSweep_run hswept hreset hlater) h₂

/-- Too many clients are left only if the last triggered sweep is less than a window old. -/
theorem recent_of_crowded (hw : 0 < window) (hN : 0 < maxRequests) {before : List Call}
    (ht : Timely (before ++ [.ask client now])) :
    let r := run (start window maxRequests maxTracked) (before ++ [.ask client now])
    maxTracked < r.2.tracked →
      ∀ c ∈ r.2.buckets.map Prod.fst, ∃ t ∈ history c r.1, now - 2 * window < t := by
  intro r hcrowd c hc
  obtain ⟨hbefore, hle⟩ := (timely_snoc before _).mp ht
  have hnow : ∀ t ∈ before.filterMap Call.time?, t ≤ now := fun t hm => hle t hm now rfl
  have hall : ∀ t ∈ (before ++ [Call.ask client now]).filterMap Call.time?, t ≤ now := by
    intro t hm
    rw [List.filterMap_append] at hm
    rcases List.mem_append.mp hm with hm | hm
    · exact hnow t hm
    · exact Int.le_of_eq (by simpa [Call.time?] using hm)
  have h : Tracks window maxRequests maxTracked r.2 now := tracks_run maxTracked hN ht hall
  have hfollows : Follows window maxRequests r.1 r.2 now :=
    follows_run window maxRequests maxTracked ht hall
  obtain ⟨last, hlast, hyoung⟩ : ∃ last, r.2.lastSweep = some last ∧ now - last < window := by
    let l := (run (start window maxRequests maxTracked) before).2
    have hr : r.2 = (l.accept client now).2 := by
      show (run _ (before ++ [.ask client now])).2 = _
      rw [run_snoc]
      rfl
    have hwindow : l.window = window := (tracks_run maxTracked hN hbefore hnow).window_eq
    rw [← hwindow, hr]
    refine swept_of_crowded (hwindow.symm ▸ hw) ?_
    rw [← hr, h.maxTracked_eq]
    exact hcrowd
  obtain ⟨b, hb, rfl⟩ := List.mem_map.mp hc
  obtain ⟨t, hmem, hrecent⟩ := h.recent last hlast b hb
  rw [← times_of_mem h.distinct hb] at hmem
  obtain ⟨gone, hhistory, -⟩ := hfollows.sheds b.1
  refine ⟨t, ?_, by omega⟩
  rw [hhistory]
  exact List.mem_append_right _ hmem

/-- **Memory is bounded by recent traffic.** -/
theorem memory_bounded_by_traffic (window maxRequests maxTracked : Nat) (hw : 0 < window)
    (hN : 0 < maxRequests) (calls : List Call) (ht : Timely calls) :
    let after := run (start window maxRequests maxTracked)
    (∀ b ∈ (after calls).2.buckets, b.2 ≠ [] ∧ b.2.length ≤ maxRequests) ∧
    (∀ before client₁ now₁ between client₂ now₂ rest,
      calls = before ++ .ask client₁ now₁ :: (between ++ .ask client₂ now₂ :: rest) →
      .reset ∉ between → (after before).2.triggers client₁ now₁ = true →
      (after (before ++ .ask client₁ now₁ :: between)).2.triggers client₂ now₂ = true →
      window ≤ now₂ - now₁) ∧
    ∀ before client now rest, calls = before ++ .ask client now :: rest →
      let r := after (before ++ [.ask client now])
      maxTracked < r.2.tracked →
        ∀ c ∈ r.2.buckets.map Prod.fst, ∃ t ∈ history c r.1, now - 2 * window < t := by
  intro after
  have upto {before rest : List Call} (he : calls = before ++ rest) : Timely before :=
    ht.sublist (he ▸ List.sublist_append_left before rest)
  refine ⟨fun b hb => buckets_of_run maxTracked hN ht hb, ?_, ?_⟩
  · intro before client₁ now₁ between client₂ now₂ rest he hreset h₁ h₂
    rw [← List.cons_append, ← List.append_assoc] at he
    exact window_le_of_run hw hN (upto he) hreset h₁ h₂
  · intro before client now rest he
    rw [List.append_cons] at he
    exact recent_of_crowded hw hN (upto he)

/-- The first sweep leaves a client who was admitted a whole window before. It is still tracked when
the next sweep is almost due, a window later. -/
theorem memory_before_sweep :
    let calls : List Call := [.ask "a" 0, .ask "b" 100, .ask "c" 199, .ask "c" 200]
    let after := run (start 100 1 1)
    (Timely calls ∧ (after [.ask "a" 0]).2.triggers "b" 100 = true ∧
      (after [.ask "a" 0, .ask "b" 100, .ask "c" 199]).2.triggers "c" 200 = true ∧
      1 < (after [.ask "a" 0, .ask "b" 100, .ask "c" 199]).2.tracked) ∧
    (∀ b ∈ (after calls).2.buckets, b.2 ≠ [] ∧ b.2.length ≤ 1) ∧ (100 : Int) ≤ 200 - 100 ∧
      ∃ t ∈ history "a" (after [.ask "a" 0, .ask "b" 100, .ask "c" 199]).1, -1 < t := by
  intro calls after
  have hrun : Timely calls ∧ (after [.ask "a" 0]).2.triggers "b" 100 = true ∧
      (after [.ask "a" 0, .ask "b" 100, .ask "c" 199]).2.triggers "c" 200 = true ∧
      1 < (after [.ask "a" 0, .ask "b" 100, .ask "c" 199]).2.tracked := by
    decide
  obtain ⟨hbuckets, hapart, hcrowd⟩ :=
    memory_bounded_by_traffic 100 1 1 (by decide) (by decide) calls hrun.1
  refine ⟨hrun, hbuckets, ?_, ?_⟩
  · exact hapart [.ask "a" 0] "b" 100 [.ask "c" 199] "c" 200 [] rfl (by decide) hrun.2.1 hrun.2.2.1
  · exact hcrowd [.ask "a" 0, .ask "b" 100] "c" 199 [.ask "c" 200] rfl hrun.2.2.2 "a" (by decide)

end PolicyGate.Limiter
