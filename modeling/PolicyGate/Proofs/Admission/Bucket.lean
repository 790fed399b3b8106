import PolicyGate.Proofs.Keyed

/-!
# What an operation does to a client's times

A limiter keeps its clients in a list, and prunes, replaces and forgets entries of it. Here each
operation is seen through `times`, the times of one client, provided that no client is tracked twice
(`Distinct`, which every operation keeps).

* `Sheds` — some times were dropped at the front, all of them older than the window that ends now.
* `sheds_accept` — asking appends the request to its client's times if it is admitted, changes no
  other client, and then sheds.
* `sheds_sweep` — a sweep sheds, and no more.
* `Records` — one time is recorded, for one client, or none at all. Asking records an admitted
  request and nothing else (`records_accept`).
-/

namespace PolicyGate.Limiter

open Keyed

variable {window : Nat} {now : Int} {l : Limiter}

/-! ## Pruning -/

/-- Of some times, `kept` are left, and the ones before them lie before the window that ends now. -/
def Sheds (window : Nat) (now : Int) (times kept : List Int) : Prop :=
  ∃ gone, times = gone ++ kept ∧ ∀ t ∈ gone, t < now - window

theorem Sheds.refl (times : List Int) : Sheds window now times times := ⟨[], rfl, by simp⟩

theorem Sheds.trans {a b c : List Int} (h : Sheds window now a b) (h' : Sheds window now b c) :
    Sheds window now a c := by
  obtain ⟨gone, rfl, hg⟩ := h
  obtain ⟨gone', rfl, hg'⟩ := h'
  refine ⟨gone ++ gone', by rw [List.append_assoc], fun t ht => ?_⟩
  rcases List.mem_append.mp ht with ht | ht
  · exact hg t ht
  · exact hg' t ht

/-- What is too old stays too old. -/
theorem Sheds.later {now' : Int} {a b : List Int} (h : Sheds window now a b) (hn : now ≤ now') :
    Sheds window now' a b := by
  obtain ⟨gone, rfl, hg⟩ := h
  refine ⟨gone, rfl, fun t ht => ?_⟩
  have := hg t ht
  omega

theorem Sheds.append {a b : List Int} (h : Sheds window now a b) (ts : List Int) :
    Sheds window now (a ++ ts) (b ++ ts) := by
  obtain ⟨gone, rfl, hg⟩ := h
  exact ⟨gone, by rw [List.append_assoc], hg⟩

/-- The present is never shed. -/
theorem Sheds.exists_snoc {times kept : List Int} (h : Sheds window now (times ++ [now]) kept) :
    ∃ rest, kept = rest ++ [now] ∧ Sheds window now times rest := by
  obtain ⟨gone, he, hg⟩ := h
  rcases List.eq_nil_or_concat kept with rfl | ⟨rest, t, rfl⟩
  · rw [List.append_nil] at he
    have := hg now (he ▸ List.mem_append_right _ (List.mem_singleton_self _))
    omega
  · rw [List.concat_eq_append, ← List.append_assoc] at he
    obtain ⟨hrest, ht⟩ := List.append_inj' he rfl
    rw [List.concat_eq_append, ← ht]
    exact ⟨rest, rfl, gone, hrest, hg⟩

/-- What lies in the window is not shed. -/
theorem Sheds.eq_of_forall_le {times kept : List Int} (h : Sheds window now times kept)
    (hall : ∀ t ∈ times, now - window ≤ t) : kept = times := by
  obtain ⟨gone, rfl, hg⟩ := h
  cases gone with
  | nil => rfl
  | cons t gone =>
    have hold := hg t List.mem_cons_self
    have hnew := hall t (List.mem_append_left _ List.mem_cons_self)
    omega

theorem sheds_prune (window : Nat) (now : Int) (times : List Int) :
    Sheds window now times (prune window now times) := by
  refine ⟨times.takeWhile fun t => t < now - window, ?_, fun t ht => ?_⟩
  · exact List.takeWhile_append_dropWhile.symm
  · simpa using List.all_eq_true.mp List.all_takeWhile t ht

/-- Sorted times lose to pruning exactly those before the window. -/
theorem prune_eq_filter {times : List Int} (h : times.Pairwise (· ≤ ·)) :
    prune window now times = times.filter fun t => now - window ≤ t := by
  unfold prune
  induction times with
  | nil => rfl
  | cons t ts ih =>
    obtain ⟨ht, hts⟩ := List.pairwise_cons.mp h
    by_cases hn : t < now - window
    · rw [List.dropWhile_cons_of_pos (by simpa using hn), ih hts,
        List.filter_cons_of_neg (by simp; omega)]
    · rw [List.dropWhile_cons_of_neg (by simpa using hn), eq_comm, List.filter_eq_self]
      intro t' ht'
      rcases List.mem_cons.mp ht' with rfl | ht'
      · simp; omega
      · have := ht t' ht'
        simp; omega

/-! ## The list of clients -/

/-- No client is tracked twice. -/
def Distinct (l : Limiter) : Prop := (l.buckets.map Prod.fst).Nodup

/-! ## The operations -/

theorem distinct_start (window maxRequests maxTracked : Nat) :
    (start window maxRequests maxTracked).Distinct := List.nodup_nil

theorem Distinct.reset (_ : l.Distinct) : l.reset.Distinct := List.nodup_nil

theorem Distinct.sweep (h : l.Distinct) (now : Int) : (l.sweep now).Distinct := by
  refine List.Nodup.sublist (List.Sublist.map _ List.filter_sublist) ?_
  rw [List.map_map]
  exact h

theorem times_sweep (h : l.Distinct) (now : Int) (c : String) :
    (l.sweep now).times c = prune l.window now (l.times c) := by
  have hk : ((l.buckets.map fun b => (b.1, prune l.window now b.2)).map Prod.fst).Nodup := by
    rw [List.map_map]
    exact h
  show ((List.filter (fun b => !b.2.isEmpty) _).lookup c).getD [] = _
  rw [lookup_filter hk fun ts => !ts.isEmpty, lookup_map]
  unfold times
  cases l.buckets.lookup c with
  | none => rfl
  | some ts => cases h : prune l.window now ts <;> simp [h, Option.filter]

/-- **A sweep only sheds.** -/
theorem sheds_sweep (h : l.Distinct) (now : Int) (c : String) :
    Sheds l.window now (l.times c) ((l.sweep now).times c) := by
  rw [times_sweep h]
  exact sheds_prune _ _ _

theorem Distinct.tidy (h : l.Distinct) (now : Int) : (l.tidy now).Distinct := by
  unfold Limiter.tidy
  split
  · exact h.sweep now
  · exact h

theorem sheds_tidy (h : l.Distinct) (now : Int) (c : String) :
    Sheds l.window now (l.times c) ((l.tidy now).times c) := by
  unfold tidy
  split
  · exact sheds_sweep h now c
  · exact Sheds.refl _

theorem tidy_settings (l : Limiter) (now : Int) :
    (l.tidy now).window = l.window ∧ (l.tidy now).maxRequests = l.maxRequests := by
  unfold tidy
  split <;> exact ⟨rfl, rfl⟩

theorem distinct_put (h : l.Distinct) (client : String) (times : List Int) :
    Distinct { l with buckets := put client times l.buckets } := by
  show ((put client times l.buckets).map Prod.fst).Nodup
  rw [put_eq_alter]
  exact nodup_alter h client _

theorem times_put (l : Limiter) (client : String) (times : List Int) (c : String) :
    Limiter.times { l with buckets := put client times l.buckets } c =
      if c = client then times else l.times c := by
  show ((put client times l.buckets).lookup c).getD [] = _
  rw [put_eq_alter, lookup_alter]
  split <;> rfl

/-- What asking leaves of a client's times: those not too old, and now if it is admitted. -/
def timesAsked (l : Limiter) (client : String) (now : Int) : List Int :=
  if (l.accept client now).1 = true then prune l.window now (l.times client) ++ [now]
  else prune l.window now (l.times client)

/-- A limiter that was asked and has not tidied up yet. -/
def untidied (l : Limiter) (client : String) (now : Int) : Limiter :=
  { l with buckets := put client (l.timesAsked client now) l.buckets }

theorem accept_snd (l : Limiter) (client : String) (now : Int) :
    (l.accept client now).2 = (l.untidied client now).tidy now := rfl

theorem Distinct.untidied (h : l.Distinct) (client : String) (now : Int) :
    (l.untidied client now).Distinct :=
  distinct_put h client _

theorem Distinct.accept (h : l.Distinct) (client : String) (now : Int) :
    (l.accept client now).2.Distinct :=
  (h.untidied client now).tidy now

theorem accept_settings (l : Limiter) (client : String) (now : Int) :
    (l.accept client now).2.window = l.window ∧
      (l.accept client now).2.maxRequests = l.maxRequests :=
  tidy_settings _ now

/-- **Asking appends an admitted request to its client's times, and sheds.** -/
theorem sheds_accept (h : l.Distinct) (client : String) (now : Int) (c : String) :
    Sheds l.window now
      (l.times c ++ if c = client ∧ (l.accept client now).1 = true then [now] else [])
      ((l.accept client now).2.times c) := by
  refine Sheds.trans ?_ (sheds_tidy (h.untidied client now) now c)
  unfold untidied timesAsked
  rw [times_put]
  by_cases hc : c = client
  · subst hc
    have hp := sheds_prune l.window now (l.times c)
    by_cases ha : (l.accept c now).1 = true
    · simpa [ha] using hp.append [now]
    · simpa [ha] using hp
  · simpa [hc, times] using Sheds.refl (l.times c)

/-! ## No client has too many times -/

/-- No client has more times than allowed. -/
def Full (l : Limiter) : Prop := ∀ c, (l.times c).length ≤ l.maxRequests

theorem full_start (window maxRequests maxTracked : Nat) :
    (start window maxRequests maxTracked).Full := fun _ => Nat.zero_le _

theorem full_reset (l : Limiter) : l.reset.Full := fun _ => Nat.zero_le _

theorem Sheds.length_le {times kept : List Int} (h : Sheds window now times kept) :
    kept.length ≤ times.length := by
  obtain ⟨gone, rfl, -⟩ := h
  simp

theorem Full.sweep (h : l.Full) (hd : l.Distinct) (now : Int) : (l.sweep now).Full := by
  intro c
  exact Nat.le_trans (sheds_sweep hd now c).length_le (h c)

/-- **Asking admits only where there is room, in whatever order the times come.** -/
theorem Full.accept (h : l.Full) (hd : l.Distinct) (client : String) (now : Int) :
    (l.accept client now).2.Full := by
  intro c
  refine Nat.le_trans (sheds_tidy (hd.untidied client now) now c).length_le ?_
  unfold untidied timesAsked
  rw [times_put, (accept_settings l client now).2]
  split
  · have hkept := Nat.le_trans (sheds_prune l.window now (l.times client)).length_le (h client)
    split
    · next ha =>
      have hroom : (prune l.window now (l.times client)).length < l.maxRequests :=
        of_decide_eq_true ha
      rw [List.length_append]
      exact hroom
    · exact hkept
  · exact h c

/-! ## What is recorded -/

/-- Of all times only some were shed, and now was recorded once for the client, if there is one. -/
def Records (now : Int) (client? : Option String) (l l' : Limiter) : Prop :=
  ∀ c, ∃ kept, Sheds l.window now (l.times c) kept ∧
    l'.times c = kept ++ if client? = some c then [now] else []

/-- **Asking records an admitted request, and no other.** -/
theorem records_accept (h : l.Distinct) (client : String) (now : Int) :
    Records now (if (l.accept client now).1 = true then some client else none) l
      (l.accept client now).2 := by
  intro c
  have hs := sheds_accept h client now c
  by_cases hc : c = client ∧ (l.accept client now).1 = true
  · rw [if_pos hc] at hs
    obtain ⟨rest, he, hr⟩ := hs.exists_snoc
    rw [if_pos hc.2, if_pos (by rw [hc.1])]
    exact ⟨rest, hr, he⟩
  · rw [if_neg hc, List.append_nil] at hs
    refine ⟨_, hs, ?_⟩
    rw [if_neg, List.append_nil]
    intro he
    split at he
    · next ha => exact hc ⟨(Option.some.inj he).symm, ha⟩
    · cases he

/-- If nothing is too old, the times grow by what is recorded. -/
theorem Records.times_eq {client? : Option String} {l' : Limiter} (h : Records now client? l l')
    {c : String} (hall : ∀ t ∈ l.times c, now - l.window ≤ t) :
    l'.times c = l.times c ++ if client? = some c then [now] else [] := by
  obtain ⟨kept, hs, he⟩ := h c
  rw [he, hs.eq_of_forall_le hall]

/-- If nothing is too old, every time counts. -/
theorem accept_iff_length {client : String} (hall : ∀ t ∈ l.times client, now - l.window ≤ t) :
    (l.accept client now).1 = true ↔ (l.times client).length < l.maxRequests := by
  have hp := (sheds_prune l.window now (l.times client)).eq_of_forall_le hall
  rw [← congrArg List.length hp]
  exact decide_eq_true_iff

end PolicyGate.Limiter
