import Mathlib.Data.List.Induction
import PolicyGate.Proofs.Admission.Bucket
import PolicyGate.Proofs.Gateway.Stages

/-!
# What a client has used of its quota

The limiter is asked for a request when its body has been read and before a slot is taken. So an
admitted request is charged to its client whatever becomes of it, one that finds no free slot and
one that makes no sense among them, and a request that cannot be read is charged to nobody.

* `limiterAfter` — only arrivals and clearing change the limiter.
* `charged` — whether a request is charged to a client, as one sees it from outside: its body fits
  and it is not told to slow down.
* `Remembers` — the limiter remembers one time for each request charged since it was cleared. Every
  event keeps this for as long as nothing gets too old (`remembers_step`).

**Theorem (`accept_iff_charged`).** With all requests in one window, the limiter admits a client if
and only if fewer requests than allowed have been charged to it since the limiter was cleared.
-/

namespace PolicyGate

/-- Whether an event clears the limiter. -/
def Event.clears : Event → Bool
  | .resetLimiter => true
  | _ => false

/-- The HTTP status of an answer. -/
def Reaction.status? : Reaction → Option Nat
  | .answered _ a => some a.status
  | .called .. => none

namespace Gateway

variable {g : Gateway} {now : Moment} {e : Event} {s : Gateway × Option Reaction} {a : Arrival}

/-! ## The limiter after an event -/

theorem limiter_recorded (g : Gateway) (v : Visit) (now : Moment) (c : Closing) :
    (g.recorded v now c).limiter = g.limiter := by
  obtain ⟨t, m, he, -⟩ := recorded_eq g v now c
  rw [he]

/-- The limiter after an event. -/
def limiterAfter (g : Gateway) (now : Moment) : Event → Limiter
  | .arrived a => g.asked a now
  | .resetLimiter => g.limiter.reset
  | _ => g.limiter

theorem Way.limiter (h : Way g now e s) : s.1.limiter = g.limiterAfter now e := by
  cases h with
  | @closed a c h => exact limiter_recorded (g.entered a now) _ now c
  | @finished number e t c ht hw h => exact limiter_recorded (g.finish t) t.visit now c
  | _ => rfl

theorem Way.limiter_other (h : Way g now e s) (he : e.arrival? = none) (hc : e.clears = false) :
    s.1.limiter = g.limiter := by
  rw [h.limiter]
  cases e with
  | arrived a => cases he
  | resetLimiter => cases hc
  | _ => rfl

theorem asked_of_fits (h : a.upload.Fits g.config.limits) :
    g.asked a now = (g.limiter.accept a.client now).2 := by
  unfold asked
  rw [Upload.read_of_fits h]

theorem asked_of_not_fits (h : ¬ a.upload.Fits g.config.limits) : g.asked a now = g.limiter := by
  obtain ⟨f, hf⟩ := Upload.read_of_not_fits h
  unfold asked
  rw [hf]

/-- A limiter with the settings of a gateway, that tracks no client twice. -/
structure Metered (config : Config) (l : Limiter) : Prop where
  window_eq : l.window = config.rate.windowMs * 1000000
  maxRequests_eq : l.maxRequests = config.rate.maxRequests
  distinct : l.Distinct

theorem Way.metered {config : Config} (h : Way g now e s) (hm : Metered config g.limiter) :
    Metered config s.1.limiter := by
  rw [h.limiter]
  cases e with
  | arrived a =>
    by_cases hfits : a.upload.Fits g.config.limits
    · have hset := Limiter.accept_settings g.limiter a.client now
      rw [limiterAfter, asked_of_fits hfits]
      exact ⟨hset.1.trans hm.window_eq, hset.2.trans hm.maxRequests_eq, hm.distinct.accept _ _⟩
    · rw [limiterAfter, asked_of_not_fits hfits]
      exact hm
  | resetLimiter => exact ⟨hm.window_eq, hm.maxRequests_eq, hm.distinct.reset⟩
  | _ => exact hm

theorem metered_run (config : Config) (canFallBack : Bool) (begin : Moment)
    (es : List (Moment × Event)) :
    Metered config ((start config canFallBack begin).run es).1.limiter :=
  run_keeps (P := fun g => Metered config g.limiter) (fun g now e => (step_way g now e).metered)
    ⟨rfl, rfl, Limiter.distinct_start ..⟩ es

/-- A request that is admitted is recorded for its client. -/
theorem records_of_accept (hd : g.limiter.Distinct) (hfits : a.upload.Fits g.config.limits)
    (ha : (g.limiter.accept a.client now).1 = true) :
    g.limiter.Records now (some a.client) (g.step now (.arrived a)).1.limiter := by
  have h := Limiter.records_accept hd a.client now
  rw [if_pos ha] at h
  rwa [(step_way g now (.arrived a)).limiter, limiterAfter, asked_of_fits hfits]

/-- A request that is not admitted is not recorded for anybody. -/
theorem records_of_not_accept (hd : g.limiter.Distinct) (hfits : a.upload.Fits g.config.limits)
    (ha : (g.limiter.accept a.client now).1 = false) :
    g.limiter.Records now none (g.step now (.arrived a)).1.limiter := by
  have h := Limiter.records_accept hd a.client now
  rw [if_neg (ha.symm ▸ Bool.false_ne_true)] at h
  rwa [(step_way g now (.arrived a)).limiter, limiterAfter, asked_of_fits hfits]

/-! ## Who is told to slow down -/

/-- Only the limiter answers 429, and only a request with a body that fits. -/
theorem screened_rateLimited_iff :
    g.screened a now = .faulty .rateLimited ↔
      a.upload.Fits g.config.limits ∧ (g.limiter.accept a.client now).1 = false := by
  constructor
  · intro h
    cases stopped_of_faulty h with
    | rate hfits h => exact ⟨hfits, h⟩
  · exact fun h => (Stopped.rate h.1 h.2).screened

/-- One sees from the reaction whether a request has been told to slow down. -/
theorem status_arrived (g : Gateway) (now : Moment) (a : Arrival) :
    (g.step now (.arrived a)).2.bind Reaction.status? = some 429 ↔
      a.upload.Fits g.config.limits ∧ (g.limiter.accept a.client now).1 = false := by
  rw [← screened_rateLimited_iff]
  constructor
  · intro h
    obtain ⟨r, hr, hst⟩ := Option.bind_eq_some_iff.mp h
    cases r with
    | called n role input => cases hst
    | answered n ans =>
      have hst : ans.status = 429 := Option.some.inj hst
      obtain ⟨f, hs, hf⟩ := (step_way g now _).refused hr (by rw [hst]; decide)
      rw [hs, Fault.eq_rateLimited_of_status (hf.trans hst)]
  · intro h
    rw [step_of_closing (congrArg Closing.ofFinding? h)]
    rfl

/-! ## Requests that are charged -/

/-- What was seen since the limiter was cleared. -/
def sinceCleared (trace : List Seen) : List Seen :=
  (trace.reverse.takeWhile fun seen => !seen.1.clears).reverse

/-- Whether what is seen is a request that is charged to a client: its body fits and it is not told
to slow down. -/
def charged (limits : Limits) (client : String) : Seen → Bool
  | (.arrived a, r) =>
    a.client = client ∧ a.upload.Fits limits ∧ r.bind Reaction.status? ≠ some 429
  | _ => false

theorem sinceCleared_snoc {trace : List Seen} {seen : Seen} (h : seen.1.clears = false) :
    sinceCleared (trace ++ [seen]) = sinceCleared trace ++ [seen] := by
  simp [sinceCleared, h]

theorem sinceCleared_clears {trace : List Seen} {seen : Seen} (h : seen.1.clears = true) :
    sinceCleared (trace ++ [seen]) = [] := by
  simp [sinceCleared, h]

/-- A limiter that has seen no time before `lo` remembers one for each request that was charged. -/
structure Remembers (lo : Moment) (trace : List Seen) (g : Gateway) : Prop where
  length_times : ∀ c, (g.limiter.times c).length =
    (sinceCleared trace).countP (charged g.config.limits c)
  le_of_mem : ∀ c, ∀ t ∈ g.limiter.times c, (lo : Int) ≤ t

theorem remembers_start (config : Config) (canFallBack : Bool) (begin lo : Moment) :
    Remembers lo [] (start config canFallBack begin) :=
  ⟨fun _ => rfl, fun _ _ h => absurd h List.not_mem_nil⟩

/-- What is charged to nobody leaves the memory alone. -/
theorem Remembers.snoc_of_not_charged {lo : Moment} {trace : List Seen} {g' : Gateway} {seen : Seen}
    (h : Remembers lo trace g) (hconfig : g'.config = g.config) (hlimiter : g'.limiter = g.limiter)
    (hclears : seen.1.clears = false) (hcharged : ∀ c, charged g.config.limits c seen = false) :
    Remembers lo (trace ++ [seen]) g' := by
  refine ⟨fun c => ?_, fun c => ?_⟩
  · rw [sinceCleared_snoc hclears, List.countP_append, hconfig, hlimiter, h.length_times c]
    simp [hcharged c]
  · rw [hlimiter]
    exact h.le_of_mem c

/-- Who is admitted is charged, and who is not is not. -/
theorem charged_arrived (hfits : a.upload.Fits g.config.limits) (c : String) :
    charged g.config.limits c (.arrived a, (g.step now (.arrived a)).2) = true ↔
      (if (g.limiter.accept a.client now).1 = true then some a.client else none) = some c := by
  have hst := status_arrived g now a
  unfold charged
  cases ha : (g.limiter.accept a.client now).1 with
  | true => simp [hfits, hst, ha]
  | false => simp [hfits, hst, ha]

/-- **Every event in the window keeps the memory.** -/
theorem remembers_step {lo : Moment} {trace : List Seen} (hd : g.limiter.Distinct)
    (hr : Remembers lo trace g)
    (hin : e.arrival?.isSome → lo ≤ now ∧ now ≤ lo + g.limiter.window) :
    Remembers lo (trace ++ [(e, (g.step now e).2)]) (g.step now e).1 := by
  have hconfig := (step_way g now e).settings.1
  have hlimiter := (step_way g now e).limiter
  cases e with
  | arrived a =>
    by_cases hfits : a.upload.Fits g.config.limits
    case neg =>
      refine hr.snoc_of_not_charged hconfig ?_ rfl fun c => ?_
      · exact hlimiter.trans (asked_of_not_fits hfits)
      · exact decide_eq_false fun h => hfits h.2.1
    rw [limiterAfter, asked_of_fits hfits] at hlimiter
    have hlo : (lo : Int) ≤ now := Int.ofNat_le.mpr (hin rfl).1
    have hhi : (now : Int) ≤ lo + g.limiter.window := Int.ofNat_le.mpr (hin rfl).2
    have hyoung (c : String) : ∀ t ∈ g.limiter.times c, (now : Int) - g.limiter.window ≤ t := by
      intro t ht
      have := hr.le_of_mem c t ht
      omega
    have htimes (c : String) := (Limiter.records_accept hd a.client now).times_eq (hyoung c)
    refine ⟨fun c => ?_, fun c t ht => ?_⟩
    · rw [sinceCleared_snoc rfl, List.countP_append, hconfig, hlimiter, htimes c,
        List.length_append, hr.length_times c, List.countP_singleton, apply_ite List.length]
      simp only [charged_arrived hfits c]
      rfl
    · rw [hlimiter, htimes c] at ht
      rcases List.mem_append.mp ht with ht | ht
      · exact hr.le_of_mem c t ht
      · rwa [List.mem_singleton.mp (List.mem_ite_nil_right.mp ht).2]
  | resetLimiter =>
    refine ⟨fun c => ?_, fun c => ?_⟩
    · rw [sinceCleared_clears rfl, hlimiter]
      rfl
    · rw [hlimiter]
      exact fun t ht => absurd ht List.not_mem_nil
  | _ => exact hr.snoc_of_not_charged hconfig hlimiter rfl fun _ => rfl

/-- **A run in the window is remembered.** -/
theorem remembers_run (config : Config) (canFallBack : Bool) (begin lo : Moment)
    {es : List (Moment × Event)}
    (hin : ∀ at' b, (at', .arrived b) ∈ es →
      lo ≤ at' ∧ at' ≤ lo + config.rate.windowMs * 1000000) :
    Remembers lo ((start config canFallBack begin).trace es)
      ((start config canFallBack begin).run es).1 := by
  induction es using List.reverseRecOn with
  | nil => exact remembers_start ..
  | append_singleton es e ih =>
    obtain ⟨now, e⟩ := e
    have hm := metered_run config canFallBack begin es
    rw [trace_append, run_append]
    refine remembers_step hm.distinct (ih fun at' b hb => hin at' b (List.mem_append_left _ hb)) ?_
    intro he
    rw [hm.window_eq]
    cases e with
    | arrived a => exact hin now a (List.mem_append_right _ (List.mem_singleton_self _))
    | _ => cases he

/-- **In a window, the limiter admits a client if the requests charged to it are not too many.** -/
theorem accept_iff_charged (config : Config) (canFallBack : Bool) (begin lo : Moment)
    {es : List (Moment × Event)} (a : Arrival)
    (hin : ∀ at' b, (at', .arrived b) ∈ es ++ [(now, .arrived a)] →
      lo ≤ at' ∧ at' ≤ lo + config.rate.windowMs * 1000000) :
    let g₀ := start config canFallBack begin
    ((g₀.run es).1.limiter.accept a.client now).1 = true ↔
      (sinceCleared (g₀.trace es)).countP (charged config.limits a.client) <
        config.rate.maxRequests := by
  intro g₀
  have hm := metered_run config canFallBack begin es
  have hr : Remembers lo (g₀.trace es) (g₀.run es).1 :=
    remembers_run config canFallBack begin lo fun at' b hb => hin at' b (List.mem_append_left _ hb)
  have hconfig : (g₀.run es).1.config = config := (settings_run g₀ es).1
  have hlast := hin now a (List.mem_append_right _ (List.mem_singleton_self _))
  have hhi : (now : Int) ≤ lo + (config.rate.windowMs * 1000000 : Nat) := Int.ofNat_le.mpr hlast.2
  rw [Limiter.accept_iff_length, hr.length_times, hm.maxRequests_eq, hconfig]
  intro t ht
  have := hr.le_of_mem _ t ht
  rw [hm.window_eq]
  omega

end Gateway

end PolicyGate
