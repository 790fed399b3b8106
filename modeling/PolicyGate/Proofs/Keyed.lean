import PolicyGate.Admission.Window
import PolicyGate.Observe.Counter
import PolicyGate.Observe.Histogram

/-!
# Rows by key

Limiters, counters and histograms all keep a list of rows, each with its key, and change the first
row of a key or append a row where there is none. `alter` is that change for any kind of row, and
the three changes are instances of it (`put_eq_alter`, `addTo_eq_alter`, `observeAt_eq_alter`).

**Theorem (`lookup_alter`).** A change is found under its key, and nothing else has changed.
-/

namespace PolicyGate

namespace Keyed

variable {α β : Type} [BEq α] [LawfulBEq α] [DecidableEq α]

/-- Changes the first row of a key, or appends one. -/
def alter (key : α) (f : Option β → β) : List (α × β) → List (α × β)
  | [] => [(key, f none)]
  | (k, v) :: rest => if k = key then (k, f (some v)) :: rest else (k, v) :: alter key f rest

theorem lookup_cons_eq (k : α) (v : β) (rest : List (α × β)) (key : α) :
    ((k, v) :: rest).lookup key = if key = k then some v else rest.lookup key := by
  rw [List.lookup_cons]
  by_cases h : key = k
  · simp [h]
  · simp [h, beq_false_of_ne h]

/-- **A change is found under its key alone.** -/
theorem lookup_alter (key : α) (f : Option β → β) (rows : List (α × β)) (k : α) :
    (alter key f rows).lookup k =
      if k = key then some (f (rows.lookup key)) else rows.lookup k := by
  induction rows with
  | nil => rw [alter, lookup_cons_eq, List.lookup_nil, List.lookup_nil]
  | cons row rest ih =>
    obtain ⟨j, v⟩ := row
    by_cases hj : j = key
    · subst hj
      simp only [alter, if_true, lookup_cons_eq]
      split <;> rfl
    · have hj' : key ≠ j := Ne.symm hj
      simp only [alter, if_neg hj, lookup_cons_eq, ih, if_neg hj']
      by_cases hk : k = j
      · simp [hk, hj]
      · simp [hk]

theorem keys_alter (key : α) (f : Option β → β) (rows : List (α × β)) :
    (alter key f rows).map Prod.fst =
      rows.map Prod.fst ++ if key ∈ rows.map Prod.fst then [] else [key] := by
  induction rows with
  | nil => rfl
  | cons row rest ih =>
    obtain ⟨k, v⟩ := row
    by_cases hk : k = key
    · simp [alter, hk]
    · have hk' : key ≠ k := Ne.symm hk
      simp only [alter, if_neg hk, List.map_cons, ih, List.mem_cons, hk', false_or,
        List.cons_append]

/-- A change does not double a key. -/
theorem nodup_alter {rows : List (α × β)} (h : (rows.map Prod.fst).Nodup) (key : α)
    (f : Option β → β) : ((alter key f rows).map Prod.fst).Nodup := by
  rw [keys_alter]
  split
  · simpa using h
  · next hk =>
    refine List.nodup_append.mpr ⟨h, by simp, fun k hm k' hk' => ?_⟩
    obtain rfl : k' = key := by simpa using hk'
    exact fun he => hk (he ▸ hm)

theorem lookup_map (f : β → β) (key : α) (rows : List (α × β)) :
    (rows.map fun row => (row.1, f row.2)).lookup key = (rows.lookup key).map f := by
  induction rows with
  | nil => rfl
  | cons row rest ih =>
    obtain ⟨k, v⟩ := row
    simp only [List.map_cons, lookup_cons_eq, ih]
    split <;> rfl

/-- If no key is doubled, leaving out rows hides their keys and no other. -/
theorem lookup_filter {rows : List (α × β)} (h : (rows.map Prod.fst).Nodup) (p : β → Bool)
    (key : α) : (rows.filter fun row => p row.2).lookup key = (rows.lookup key).filter p := by
  induction rows with
  | nil => rfl
  | cons row rest ih =>
    obtain ⟨k, v⟩ := row
    obtain ⟨hk, hr⟩ := List.nodup_cons.mp h
    have hnone : rest.lookup k = none := by
      rw [List.lookup_eq_none_iff]
      intro row hrow
      have hm : row.1 ∈ rest.map Prod.fst := List.mem_map_of_mem hrow
      exact bne_iff_ne.mpr fun he => hk (he ▸ hm)
    by_cases hv : p v
    · rw [List.filter_cons_of_pos (by exact hv), lookup_cons_eq, lookup_cons_eq, ih hr]
      by_cases he : key = k
      · rw [if_pos he, if_pos he, Option.filter_some_pos hv]
      · rw [if_neg he, if_neg he]
    · rw [List.filter_cons_of_neg (by exact hv), lookup_cons_eq, ih hr]
      by_cases he : key = k
      · rw [if_pos he, he, hnone, Option.filter_some_neg (Bool.eq_false_iff.mpr hv)]
        rfl
      · rw [if_neg he]

/-- If no key is doubled, a row is found under its key. -/
theorem lookup_of_mem {rows : List (α × β)} (h : (rows.map Prod.fst).Nodup) {key : α} {v : β}
    (hrow : (key, v) ∈ rows) : rows.lookup key = some v := by
  induction rows with
  | nil => cases hrow
  | cons row rest ih =>
    obtain ⟨hk, hr⟩ := List.nodup_cons.mp h
    rcases List.mem_cons.mp hrow with rfl | hrow
    · rw [lookup_cons_eq, if_pos rfl]
    · have hne : key ≠ row.1 := fun he => hk (he ▸ List.mem_map_of_mem hrow)
      exact (lookup_cons_eq row.1 row.2 rest key).trans ((if_neg hne).trans (ih hr hrow))

end Keyed

/-! ## Instances -/

open Keyed

theorem Limiter.put_eq_alter (client : String) (times : List Int)
    (buckets : List (String × List Int)) :
    Limiter.put client times buckets = alter client (fun _ => times) buckets := by
  induction buckets with
  | nil => rfl
  | cons row rest ih => simp only [Limiter.put, alter, ih]

theorem Counters.addTo_eq_alter (key : List Label) (amount : UInt64)
    (rows : List (List Label × UInt64)) :
    Counters.addTo key amount rows = alter key (fun n => n.getD 0 + amount) rows := by
  induction rows with
  | nil => simp [Counters.addTo, alter]
  | cons row rest ih => simp only [Counters.addTo, alter, ih, Option.getD_some]

theorem Histograms.observeAt_eq_alter (key : List Label) (nanoseconds : Nat)
    (series : List (List Label × Histogram)) :
    Histograms.observeAt key nanoseconds series =
      alter key (fun h => (h.getD .empty).observe nanoseconds) series := by
  induction series with
  | nil => rfl
  | cons row rest ih => simp only [Histograms.observeAt, alter, ih, Option.getD_some]

end PolicyGate
