import PolicyGate.Gateway.Accounts
import PolicyGate.Proofs.Keyed

/-!
# What a count shows

A count is read under labels in any order. After an addition it is that much more under these labels
and as before under all others (`get_add`, and `series?_observe` for histograms). Labels are the same
if one list is a permutation of the other; the labels of different rejections, conclusions and
engine runs are not.
-/

namespace PolicyGate

open Keyed

/-! ## Labels -/

theorem Label.sort_perm (l : List Label) : (Label.sort l).Perm l := List.mergeSort_perm l Label.le

theorem Label.perm_of_sort {l l' : List Label} (h : Label.sort l = Label.sort l') : l.Perm l' :=
  (Label.sort_perm l).symm.trans (h ▸ Label.sort_perm l')

theorem Rejection.sort_labels {r r' : Rejection} :
    Label.sort r.labels = Label.sort r'.labels ↔ r = r' := by
  refine ⟨fun h => ?_, fun h => congrArg _ (congrArg _ h)⟩
  have hm : ("reason", r.name) ∈ r'.labels :=
    (Label.perm_of_sort h).subset (List.mem_singleton_self _)
  have hn : r.name = r'.name := (Prod.mk.inj (List.mem_singleton.mp hm)).2
  cases r <;> cases r' <;> first | rfl | exact absurd hn (by decide)

theorem Conclusion.sort_labels {c c' : Conclusion} :
    Label.sort c.labels = Label.sort c'.labels ↔ c = c' := by
  refine ⟨fun h => ?_, fun h => congrArg _ (congrArg _ h)⟩
  have hm : ("outcome", c.name) ∈ c'.labels :=
    (Label.perm_of_sort h).subset (List.mem_singleton_self _)
  have hn : c.name = c'.name := (Prod.mk.inj (List.mem_singleton.mp hm)).2
  cases c <;> cases c' <;> first | rfl | exact absurd hn (by decide)

theorem EngineTag.name_injective {e e' : EngineTag} (h : e.name = e'.name) : e = e' := by
  cases e <;> cases e' <;> first | rfl | exact absurd h (by decide)

theorem sort_engineLabels {e e' : EngineTag} {b b' : Bool} :
    Label.sort (engineLabels e b) = Label.sort (engineLabels e' b') ↔ e = e' ∧ b = b' := by
  refine ⟨fun h => ?_, ?_⟩
  · have hsub := (Label.perm_of_sort h).subset
    have he : ("engine", e.name) ∈ engineLabels e' b' := hsub (by simp [engineLabels])
    have hb : ("outcome", if b then "error" else "ok") ∈ engineLabels e' b' :=
      hsub (by simp [engineLabels])
    refine ⟨EngineTag.name_injective ?_, ?_⟩
    · simpa [engineLabels] using he
    · cases b <;> cases b' <;> simp [engineLabels] at hb ⊢
  · rintro ⟨rfl, rfl⟩
    rfl

/-! ## Counters and histograms -/

/-- **An addition shows under its labels alone.** -/
theorem Counters.get_add (c : Counters) (labels labels' : List Label) (amount : UInt64) :
    (c.add labels amount).get labels' =
      if Label.sort labels' = Label.sort labels then c.get labels' + amount else c.get labels' := by
  show ((addTo (Label.sort labels) amount c.rows).lookup (Label.sort labels')).getD 0 = _
  rw [addTo_eq_alter, lookup_alter]
  unfold get
  split
  · next h => rw [h]; rfl
  · rfl

theorem Counters.get_increment (c : Counters) (labels labels' : List Label) :
    (c.increment labels).get labels' =
      if Label.sort labels' = Label.sort labels then c.get labels' + 1 else c.get labels' :=
  c.get_add labels labels' 1

/-- The series under some labels, in any order. -/
def Histograms.series? (s : Histograms) (labels : List Label) : Option Histogram :=
  s.series.lookup (Label.sort labels)

/-- **A duration is filed under its labels alone.** -/
theorem Histograms.series?_observe (s : Histograms) (labels labels' : List Label)
    (nanoseconds : Nat) :
    (s.observe labels nanoseconds).series? labels' =
      if Label.sort labels' = Label.sort labels then
        some (((s.series? labels).getD .empty).observe nanoseconds)
      else s.series? labels' := by
  show (observeAt (Label.sort labels) nanoseconds s.series).lookup (Label.sort labels') = _
  rw [observeAt_eq_alter, lookup_alter]
  rfl

/-- How many durations are filed under some labels. -/
def Histograms.observations (s : Histograms) (labels : List Label) : UInt64 :=
  ((s.series.lookup (Label.sort labels)).getD .empty).count

/-- **A duration shows under its labels alone.** -/
theorem Histograms.observations_observe (s : Histograms) (labels labels' : List Label)
    (nanoseconds : Nat) :
    (s.observe labels nanoseconds).observations labels' =
      if Label.sort labels' = Label.sort labels then s.observations labels' + 1
      else s.observations labels' := by
  show (((s.observe labels nanoseconds).series? labels').getD .empty).count = _
  rw [series?_observe]
  unfold observations series?
  split
  · next h => rw [h]; rfl
  · rfl

end PolicyGate
