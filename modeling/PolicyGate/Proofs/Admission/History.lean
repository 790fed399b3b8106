import Mathlib.Data.List.Induction
import PolicyGate.Proofs.Admission.Bucket

/-!
# A limiter decides by its history

A limiter forgets: it prunes times that are too old, and it sweeps clients of whom nothing is left,
whoever asks. None of this shows. Its calls are *asking* for a request, *sweeping* and *resetting*,
and the log of a run holds each call with its answer.

**Theorem (`accept_iff_history`).** After any calls, with times that do not decrease, a client is
admitted if and only if fewer than the allowed number of its own requests since the last reset were
admitted at a time in the closed window that ends now. The answer is the same if of all earlier
calls only the resets and the client's own admitted requests had been made, under any ceiling for
tracked clients. And of the requests admitted to a client since a reset, no closed window of the
same length holds more than allowed.

The proof is an induction over the calls with the invariant `Follows`: what the limiter remembers of
a client is the client's history, less some times at the front that are older than the window.
-/

namespace PolicyGate.Limiter

/-! ## Calls and their log -/

/-- What can be done with a limiter. -/
inductive Call where
  | ask (client : String) (now : Int)
  | sweep (now : Int)
  | reset
  deriving DecidableEq, Repr

/-- The time of a call, if it has one. -/
def Call.time? : Call → Option Int
  | .ask _ now | .sweep now => some now
  | .reset => none

/-- Makes a call. Only asking can be answered with yes. -/
def take (l : Limiter) : Call → Bool × Limiter
  | .ask client now => l.accept client now
  | .sweep now => (false, l.sweep now)
  | .reset => (false, l.reset)

/-- A call with its answer. -/
abbrev Entry := Call × Bool

/-- Makes calls in order. Their log comes with the limiter that they leave. -/
def run (l : Limiter) (calls : List Call) : List Entry × Limiter :=
  calls.foldl (fun s c => (s.1 ++ [(c, (s.2.take c).1)], (s.2.take c).2)) ([], l)

/-- Times do not decrease from call to call. -/
def Timely (calls : List Call) : Prop := (calls.filterMap Call.time?).Pairwise (· ≤ ·)

instance (calls : List Call) : Decidable (Timely calls) :=
  inferInstanceAs (Decidable (List.Pairwise _ _))

/-! ## What the log says of a client -/

/-- The entries after the last reset. -/
def sinceReset (log : List Entry) : List Entry :=
  (log.reverse.takeWhile fun e => e.1 ≠ .reset).reverse

/-- The time of an entry by which a client was admitted. -/
def Entry.admission? (client : String) : Entry → Option Int
  | (.ask c now, true) => if c = client then some now else none
  | _ => none

/-- The times at which a client was admitted since the last reset, in order. -/
def history (client : String) (log : List Entry) : List Int :=
  (sinceReset log).filterMap (Entry.admission? client)

/-- How many times lie between two, both included. -/
def within (lo hi : Int) (times : List Int) : Nat := times.countP fun t => lo ≤ t ∧ t ≤ hi

/-- The calls of a log that concern a client: resets, and its own admitted requests. -/
def relevant (client : String) (log : List Entry) : List Call :=
  (log.filter fun e => e.1 = .reset ∨ (Entry.admission? client e).isSome).map Prod.fst

/-! ## One more call -/

variable {window maxRequests maxTracked : Nat} {l : Limiter} {log : List Entry} {now : Int}

theorem run_snoc (l : Limiter) (calls : List Call) (c : Call) :
    run l (calls ++ [c]) =
      ((run l calls).1 ++ [(c, ((run l calls).2.take c).1)], ((run l calls).2.take c).2) := by
  simp only [run, List.foldl_append, List.foldl_cons, List.foldl_nil]

theorem take_ask (l : Limiter) (client : String) (now : Int) :
    l.take (.ask client now) = l.accept client now := rfl

theorem calls_run (l : Limiter) (calls : List Call) : (run l calls).1.map Prod.fst = calls := by
  induction calls using List.reverseRecOn with
  | nil => rfl
  | append_singleton calls c ih => rw [run_snoc, List.map_append, ih]; rfl

theorem sinceReset_snoc (log : List Entry) (e : Entry) :
    sinceReset (log ++ [e]) = if e.1 = .reset then [] else sinceReset log ++ [e] := by
  unfold sinceReset
  by_cases he : e.1 = .reset <;> simp [he]

theorem history_ask (c client : String) (log : List Entry) (now : Int) (yes : Bool) :
    history c (log ++ [(.ask client now, yes)]) =
      history c log ++ if c = client ∧ yes = true then [now] else [] := by
  unfold history
  rw [sinceReset_snoc, if_neg (by simp), List.filterMap_append]
  by_cases hc : c = client
  · subst hc
    cases yes <;> simp [Entry.admission?]
  · cases yes <;> simp [Entry.admission?, hc, Ne.symm hc]

theorem history_sweep (c : String) (log : List Entry) (now : Int) (yes : Bool) :
    history c (log ++ [(.sweep now, yes)]) = history c log := by
  unfold history
  rw [sinceReset_snoc, if_neg (by simp), List.filterMap_append]
  simp [Entry.admission?]

theorem history_reset (c : String) (log : List Entry) (yes : Bool) :
    history c (log ++ [(.reset, yes)]) = [] := by
  unfold history
  rw [sinceReset_snoc, if_pos rfl]
  rfl

theorem within_append (lo hi : Int) (a b : List Int) :
    within lo hi (a ++ b) = within lo hi a + within lo hi b := List.countP_append

/-! ## The limiter follows the history -/

/-- What a limiter remembers at a time of the calls in a log. -/
structure Follows (window maxRequests : Nat) (log : List Entry) (l : Limiter) (now : Int) :
    Prop where
  window_eq : l.window = window
  maxRequests_eq : l.maxRequests = maxRequests
  distinct : l.Distinct
  sorted : ∀ c, (history c log).Pairwise (· ≤ ·)
  le_now : ∀ c, ∀ t ∈ history c log, t ≤ now
  /-- The limiter has forgotten only what no window of now or later reaches. -/
  sheds : ∀ c, Sheds window now (history c log) (l.times c)
  /-- No window holds more than allowed. -/
  bounded : ∀ c lo, within lo (lo + window) (history c log) ≤ maxRequests

theorem follows_start (window maxRequests maxTracked : Nat) (now : Int) :
    Follows window maxRequests [] (start window maxRequests maxTracked) now where
  window_eq := rfl
  maxRequests_eq := rfl
  distinct := distinct_start ..
  sorted _ := List.Pairwise.nil
  le_now _ _ h := absurd h List.not_mem_nil
  sheds _ := Sheds.refl []
  bounded _ _ := Nat.zero_le _

theorem Follows.later (h : Follows window maxRequests log l now) {now' : Int} (hn : now ≤ now') :
    Follows window maxRequests log l now' :=
  { h with
    le_now := fun c t ht => Int.le_trans (h.le_now c t ht) hn
    sheds := fun c => (h.sheds c).later hn }

/-- **What is left after pruning are the times in the window.** -/
theorem Follows.length_prune (h : Follows window maxRequests log l now) (c : String) :
    (prune window now (l.times c)).length = within (now - window) now (history c log) := by
  obtain ⟨gone, he, hg⟩ := h.sheds c
  have hs := h.sorted c
  have hle := h.le_now c
  rw [he] at hs hle ⊢
  have hgone : within (now - window) now gone = 0 := by
    unfold within
    rw [List.countP_eq_zero]
    intro t ht
    have := hg t ht
    simp only [decide_eq_true_eq]
    omega
  rw [within_append, hgone, Nat.zero_add, prune_eq_filter (List.pairwise_append.mp hs).2.1]
  unfold within
  rw [List.countP_eq_length_filter]
  refine congrArg List.length (List.filter_congr fun t ht => ?_)
  have := hle t (List.mem_append_right _ ht)
  simp [this]

/-- A request is admitted if the window that ends now has room. -/
theorem Follows.accept_iff (h : Follows window maxRequests log l now) (client : String) :
    (l.accept client now).1 = true ↔
      within (now - window) now (history client log) < maxRequests := by
  rw [← h.length_prune client, ← h.maxRequests_eq, ← h.window_eq]
  exact decide_eq_true_iff

theorem Follows.ask (h : Follows window maxRequests log l now) (client : String) :
    Follows window maxRequests (log ++ [(.ask client now, (l.accept client now).1)])
      (l.accept client now).2 now := by
  have hadmit := h.accept_iff client
  have hset := accept_settings l client now
  refine ⟨hset.1.trans h.window_eq, hset.2.trans h.maxRequests_eq, h.distinct.accept client now,
    fun c => ?_, fun c => ?_, fun c => ?_, fun c lo => ?_⟩
  all_goals rw [history_ask]
  · refine List.pairwise_append.mpr ⟨h.sorted c, by split <;> simp, fun t ht t' ht' => ?_⟩
    split at ht'
    · obtain rfl : t' = now := by simpa using ht'
      exact h.le_now c t ht
    · simp at ht'
  · intro t ht
    rcases List.mem_append.mp ht with ht | ht
    · exact h.le_now c t ht
    · split at ht
      · exact Int.le_of_eq (by simpa using ht)
      · simp at ht
  · have hkept := sheds_accept h.distinct client now c
    rw [h.window_eq] at hkept
    exact ((h.sheds c).append _).trans hkept
  · split
    · next hc =>
      obtain ⟨rfl, hyes⟩ := hc
      have hroom := hadmit.mp hyes
      rw [within_append]
      by_cases hin : lo ≤ now ∧ now ≤ lo + window
      · -- Whatever else is in the window is also in the one that ends now.
        have hle : within lo (lo + window) (history c log) ≤
            within (now - window) now (history c log) := by
          refine List.countP_mono_left fun t ht hw => ?_
          have := h.le_now c t ht
          simp only [decide_eq_true_eq] at hw ⊢
          omega
        have hone : within lo (lo + window) [now] = 1 := by simp [within, hin]
        omega
      · have hnone : within lo (lo + window) [now] = 0 := by simp [within]; omega
        have := h.bounded c lo
        omega
    · rw [List.append_nil]
      exact h.bounded c lo

theorem Follows.sweep (h : Follows window maxRequests log l now) (yes : Bool) :
    Follows window maxRequests (log ++ [(.sweep now, yes)]) (l.sweep now) now := by
  refine ⟨h.window_eq, h.maxRequests_eq, h.distinct.sweep now, fun c => ?_, fun c => ?_,
    fun c => ?_, fun c lo => ?_⟩
  all_goals rw [history_sweep]
  · exact h.sorted c
  · exact h.le_now c
  · have hkept := sheds_sweep h.distinct now c
    rw [h.window_eq] at hkept
    exact (h.sheds c).trans hkept
  · exact h.bounded c lo

theorem Follows.reset (h : Follows window maxRequests log l now) (yes : Bool) :
    Follows window maxRequests (log ++ [(.reset, yes)]) l.reset now := by
  refine ⟨h.window_eq, h.maxRequests_eq, h.distinct.reset, fun c => ?_, fun c => ?_,
    fun c => ?_, fun c lo => ?_⟩
  all_goals rw [history_reset]
  · exact List.Pairwise.nil
  · exact fun t ht => absurd ht List.not_mem_nil
  · exact Sheds.refl []
  · exact Nat.zero_le _

/-- A call made now keeps the invariant. -/
theorem Follows.take (h : Follows window maxRequests log l now) (c : Call)
    (hc : ∀ t ∈ c.time?, t = now) :
    Follows window maxRequests (log ++ [(c, (l.take c).1)]) (l.take c).2 now := by
  cases c with
  | ask client t =>
    obtain rfl := hc t rfl
    exact h.ask client
  | sweep t =>
    obtain rfl := hc t rfl
    exact h.sweep false
  | reset => exact h.reset false

/-! ## Runs -/

theorem timely_snoc (calls : List Call) (c : Call) :
    Timely (calls ++ [c]) ↔
      Timely calls ∧ ∀ t ∈ calls.filterMap Call.time?, ∀ now ∈ c.time?, t ≤ now := by
  unfold Timely
  rw [List.filterMap_append, List.pairwise_append]
  cases hc : c.time? with
  | none => simp [hc]
  | some now => simp [hc]

theorem Timely.sublist {calls calls' : List Call} (h : Timely calls) (hs : calls'.Sublist calls) :
    Timely calls' :=
  List.Pairwise.sublist (hs.filterMap _) h

/-- **What every call keeps, and what time does not spoil, holds after a run.** -/
theorem timely_run {P : List Entry → Limiter → Int → Prop} {l : Limiter}
    (hstart : ∀ now, P [] l now)
    (hlater : ∀ log l now now', P log l now → now ≤ now' → P log l now')
    (htake : ∀ log l now c, P log l now → (∀ t ∈ c.time?, t = now) →
      P (log ++ [(c, (l.take c).1)]) (l.take c).2 now)
    {calls : List Call} (ht : Timely calls) {now : Int}
    (hn : ∀ t ∈ calls.filterMap Call.time?, t ≤ now) : P (run l calls).1 (run l calls).2 now := by
  induction calls using List.reverseRecOn generalizing now with
  | nil => exact hstart now
  | append_singleton calls c ih =>
    obtain ⟨hcalls, hle⟩ := (timely_snoc calls c).mp ht
    rw [run_snoc]
    cases hc : c.time? with
    | none =>
      refine htake _ _ now c (ih hcalls fun t hm => hn t ?_) fun t hm => ?_
      · rw [List.filterMap_append]
        exact List.mem_append_left _ hm
      · rw [hc] at hm
        cases hm
    | some at' =>
      have hlast : at' ≤ now := hn at' (by simp [hc])
      refine hlater _ _ at' now (htake _ _ at' c (ih hcalls fun t hm => hle t hm at' hc) ?_) hlast
      exact fun t hm => Option.mem_unique hm hc

/-- **A limiter follows the history of its calls.** -/
theorem follows_run (window maxRequests maxTracked : Nat) {calls : List Call} (ht : Timely calls)
    {now : Int} (hn : ∀ t ∈ calls.filterMap Call.time?, t ≤ now) :
    Follows window maxRequests (run (start window maxRequests maxTracked) calls).1
      (run (start window maxRequests maxTracked) calls).2 now :=
  timely_run (P := Follows window maxRequests) (follows_start window maxRequests maxTracked)
    (fun _ _ _ _ h hn => h.later hn) (fun _ _ _ c h hc => h.take c hc) ht hn

/-! ## Calls that do not matter -/

theorem relevant_ask (c client : String) (log : List Entry) (now : Int) (yes : Bool) :
    relevant c (log ++ [(.ask client now, yes)]) =
      relevant c log ++ if c = client ∧ yes = true then [.ask client now] else [] := by
  unfold relevant
  rw [List.filter_append, List.map_append]
  by_cases hc : c = client
  · subst hc
    cases yes <;> simp [Entry.admission?]
  · cases yes <;> simp [Entry.admission?, hc, Ne.symm hc]

theorem relevant_sweep (c : String) (log : List Entry) (now : Int) (yes : Bool) :
    relevant c (log ++ [(.sweep now, yes)]) = relevant c log := by
  simp [relevant, Entry.admission?]

theorem relevant_reset (c : String) (log : List Entry) (yes : Bool) :
    relevant c (log ++ [(.reset, yes)]) = relevant c log ++ [.reset] := by
  simp [relevant]

theorem relevant_sublist (client : String) (l : Limiter) (calls : List Call) :
    (relevant client (run l calls).1).Sublist calls := by
  have h : (relevant client (run l calls).1).Sublist ((run l calls).1.map Prod.fst) :=
    List.filter_sublist.map _
  rwa [calls_run] at h

/-- **A client's history is made by its own admitted requests and resets.** A run of these alone
admits all of them again. -/
theorem history_relevant (window maxRequests maxTracked maxTracked' : Nat) (client : String)
    {calls : List Call} (ht : Timely calls) :
    history client (run (start window maxRequests maxTracked')
        (relevant client (run (start window maxRequests maxTracked) calls).1)).1 =
      history client (run (start window maxRequests maxTracked) calls).1 := by
  induction calls using List.reverseRecOn with
  | nil => rfl
  | append_singleton calls c ih =>
    obtain ⟨hcalls, hle⟩ := (timely_snoc calls c).mp ht
    have ih := ih hcalls
    cases c with
    | reset => rw [run_snoc, relevant_reset, run_snoc, history_reset, history_reset]
    | sweep now => rw [run_snoc, relevant_sweep, history_sweep, ih]
    | ask c now =>
      rw [run_snoc, take_ask, relevant_ask, history_ask]
      by_cases hc : client = c ∧
          ((run (start window maxRequests maxTracked) calls).2.accept c now).1 = true
      · rw [if_pos hc, if_pos hc, run_snoc, take_ask, history_ask, ih]
        obtain ⟨rfl, hyes⟩ := hc
        -- Both limiters follow the same history, so they give the same answer.
        have hsub := relevant_sublist client (start window maxRequests maxTracked) calls
        have hall := follows_run window maxRequests maxTracked hcalls fun t hm => hle t hm now rfl
        have hfew := follows_run window maxRequests maxTracked' (hcalls.sublist hsub)
          fun t hm => hle t ((hsub.filterMap _).subset hm) now rfl
        rw [hall.accept_iff, ← ih, ← hfew.accept_iff] at hyes
        rw [if_pos ⟨rfl, hyes⟩]
      · rw [if_neg hc, if_neg hc, List.append_nil, List.append_nil, ih]

/-! ## The specification -/

theorem exists_latest (times : List Int) : ∃ now, ∀ t ∈ times, t ≤ now := by
  induction times with
  | nil => exact ⟨0, by simp⟩
  | cons t ts ih =>
    obtain ⟨now, hn⟩ := ih
    refine ⟨max t now, fun t' ht' => ?_⟩
    rcases List.mem_cons.mp ht' with rfl | ht'
    · exact Int.le_max_left ..
    · exact Int.le_trans (hn t' ht') (Int.le_max_right ..)

/-- **A limiter decides by its history.** In every run whose times do not decrease, a client is
admitted if and only if its window has room, which depends on nothing but its own admitted requests
since the last reset. And no window of a client ever holds more than allowed. -/
theorem accept_iff_history (window maxRequests maxTracked : Nat) (calls : List Call)
    (ht : Timely calls) :
    (∀ before client now after, calls = before ++ .ask client now :: after →
      let r := run (start window maxRequests maxTracked) before
      ((r.2.accept client now).1 = true ↔
        within (now - window) now (history client r.1) < maxRequests) ∧
      ∀ maxTracked',
        ((run (start window maxRequests maxTracked') (relevant client r.1)).2.accept client now).1 =
          (r.2.accept client now).1) ∧
    ∀ client lo, within lo (lo + window)
      (history client (run (start window maxRequests maxTracked) calls).1) ≤ maxRequests := by
  refine ⟨fun before client now after he => ?_, fun client lo => ?_⟩
  · have hsnoc : Timely (before ++ [.ask client now]) :=
      ht.sublist (he ▸ List.Sublist.append_left (List.singleton_sublist.mpr List.mem_cons_self) _)
    obtain ⟨hbefore, hle⟩ := (timely_snoc before _).mp hsnoc
    have hall := follows_run window maxRequests maxTracked hbefore fun t hm => hle t hm now rfl
    refine ⟨hall.accept_iff client, fun maxTracked' => ?_⟩
    have hsub := relevant_sublist client (start window maxRequests maxTracked) before
    have hfew := follows_run window maxRequests maxTracked' (hbefore.sublist hsub)
      fun t hm => hle t ((hsub.filterMap _).subset hm) now rfl
    rw [Bool.eq_iff_iff, hfew.accept_iff, hall.accept_iff,
      history_relevant window maxRequests maxTracked maxTracked' client hbefore]
  · obtain ⟨now, hn⟩ := exists_latest (calls.filterMap Call.time?)
    exact (follows_run window maxRequests maxTracked ht hn).bounded client lo

/-- The window is closed at its start: a request counts for another one a whole window later. -/
theorem window_closed_at_start :
    Timely [.ask "a" 0, .ask "b" 900, .sweep 950, .ask "a" 1000, .ask "a" 1001] ∧
      ((run (start 1000 1 1) [.ask "a" 0, .ask "b" 900, .sweep 950]).2.accept "a" 1000).1 = false ∧
      ((run (start 1000 1 1) [.ask "a" 0, .ask "b" 900, .sweep 950, .ask "a" 1000]).2.accept
        "a" 1001).1 = true := by
  have ht : Timely [.ask "a" 0, .ask "b" 900, .sweep 950, .ask "a" 1000, .ask "a" 1001] := by
    decide
  have h := (accept_iff_history 1000 1 1 _ ht).1
  refine ⟨ht, ?_, ?_⟩
  · rw [← Bool.not_eq_true, (h [.ask "a" 0, .ask "b" 900, .sweep 950] "a" 1000 _ rfl).1]
    decide
  · rw [(h [.ask "a" 0, .ask "b" 900, .sweep 950, .ask "a" 1000] "a" 1001 _ rfl).1]
    decide

end PolicyGate.Limiter
