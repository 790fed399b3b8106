import Mathlib.Data.List.Basic
import Mathlib.Data.List.Induction
import PolicyGate.Proofs.Observe.Classes

/-!
# Histograms are cumulative

A histogram counts each duration in every bucket whose bound it does not exceed.

* `Histogram.ofMicros` — the histogram of some whole microseconds, all filed at once.
* `Histograms.seen` — the whole microseconds of what was filed under some labels in any order.
* `Histograms.seriesLines` — the lines of a series, with the numbers counted from the microseconds.

**Theorem (`histograms_cumulative`).** After fewer than `2 ^ 64` durations the rendered text has one
series for each class of labels that was touched. Its buckets count the durations up to their
bounds, so they do not decrease and none exceeds the last, which counts them all and is the count of
the series. The sum is that of the microseconds modulo `2 ^ 64`, and durations under other labels
change nothing.

Filing one duration more gives the histogram of one number more (`observe_ofMicros`), with all
counts modulo `2 ^ 64`. That the counts stay below is only needed where they are printed.
-/

namespace PolicyGate

/-! ## One histogram -/

namespace Histogram

variable {ms : List Nat} {bound : Nat}

/-- How many numbers are at most a bound. -/
def upTo (bound : Nat) (ms : List Nat) : Nat := ms.countP (· ≤ bound)

def total : List Nat → Nat
  | [] => 0
  | m :: ms => m + total ms

/-- The histogram of some whole microseconds. -/
def ofMicros (ms : List Nat) : Histogram :=
  ⟨bounds.map fun b => (upTo b ms).toUInt64, (total ms).toUInt64, ms.length.toUInt64⟩

theorem upTo_snoc (bound : Nat) (ms : List Nat) (m : Nat) :
    upTo bound (ms ++ [m]) = upTo bound ms + if m ≤ bound then 1 else 0 := by
  simp [upTo, List.countP_append]

theorem total_snoc (ms : List Nat) (m : Nat) : total (ms ++ [m]) = total ms + m := by
  induction ms with
  | nil => exact Nat.add_comm m 0
  | cons n ms ih => rw [List.cons_append, total, total, ih, Nat.add_assoc]

theorem zip_bounds_map (f : Nat → UInt64) :
    bounds.zip (bounds.map f) = bounds.map fun b => (b, f b) := by
  conv_lhs => rw [← List.map_id bounds]
  rw [List.map_map, List.zip_map']
  rfl

/-- **Filing a duration files one number more.** -/
theorem observe_ofMicros (ms : List Nat) (nanoseconds : Nat) :
    (ofMicros ms).observe nanoseconds = ofMicros (ms ++ [micros nanoseconds]) := by
  let m := micros nanoseconds
  have hbuckets : ((bounds.zip (bounds.map fun b => (upTo b ms).toUInt64)).map
      fun b => if m ≤ b.1 then b.2 + 1 else b.2) =
        bounds.map fun b => (upTo b (ms ++ [m])).toUInt64 := by
    rw [zip_bounds_map, List.map_map]
    refine List.map_congr_left fun b _ => ?_
    rw [Function.comp_apply, upTo_snoc]
    split
    · exact (UInt64.ofNat_add _ 1).symm
    · rfl
  have hsum : (total ms).toUInt64 + m.toUInt64 = (total (ms ++ [m])).toUInt64 := by
    rw [total_snoc]
    exact (UInt64.ofNat_add _ _).symm
  have hcount : ms.length.toUInt64 + 1 = (ms ++ [m]).length.toUInt64 := by
    rw [List.length_append]
    exact (UInt64.ofNat_add _ 1).symm
  exact congr (congr (congrArg Histogram.mk hbuckets) hsum) hcount

theorem upTo_le_length (bound : Nat) (ms : List Nat) : upTo bound ms ≤ ms.length :=
  List.countP_le_length

/-- A wider bucket counts no less. -/
theorem upTo_le_upTo {bound' : Nat} (h : bound ≤ bound') (ms : List Nat) :
    upTo bound ms ≤ upTo bound' ms := by
  refine List.countP_mono_left fun m _ hm => ?_
  rw [decide_eq_true_eq] at hm ⊢
  exact Nat.le_trans hm h

/-- **Bucket counts do not decrease.** -/
theorem upTo_ascending (ms : List Nat) : (bounds.map (upTo · ms)).Pairwise (· ≤ ·) := by
  have hbounds : bounds.Pairwise (· ≤ ·) := by decide
  rw [List.pairwise_map]
  exact hbounds.imp fun h => upTo_le_upTo h ms

end Histogram

namespace Histograms

open Label (Represents Kept)
open Histogram (bounds upTo total ofMicros micros)

/-- A duration, and the labels under which it is filed. -/
structure Call where
  labels : List Label
  nanoseconds : Nat
  deriving DecidableEq, Repr

/-- The histograms after some calls. -/
def run (calls : List Call) : Histograms :=
  calls.foldl (fun s c => s.observe c.labels c.nanoseconds) empty

/-- The calls that file under some labels, in any order. -/
def under (labels : List Label) (calls : List Call) : List Call :=
  calls.filter fun c => c.labels.Perm labels

/-- The whole microseconds of what calls file under some labels. -/
def seen (labels : List Label) (calls : List Call) : List Nat :=
  (under labels calls).map fun c => micros c.nanoseconds

/-- The two lines in front of the series. -/
def header (name help : String) : List String :=
  ["# HELP " ++ name ++ " " ++ help, "# TYPE " ++ name ++ " histogram"]

/-- The lines of a series with some whole microseconds. A bucket is labelled with its bound too. -/
def seriesLines (name : String) (labels : List Label) (ms : List Nat) : List String :=
  let bucket (bound : String) (count : Nat) : String :=
    sample (name ++ "_bucket") (labels ++ [("le", bound)]) count
  (bounds.map fun b => bucket (toString b) (upTo b ms)) ++
    [bucket "+Inf" ms.length, sample (name ++ "_sum") labels (total ms % Width.of64),
      sample (name ++ "_count") labels ms.length]

/-! ## Runs -/

variable {calls : List Call} {s : Histograms}

theorem run_snoc (calls : List Call) (call : Call) :
    run (calls ++ [call]) = (run calls).observe call.labels call.nanoseconds := by
  rw [run, List.foldl_append]
  rfl

theorem seen_snoc (labels : List Label) (calls : List Call) (call : Call) :
    seen labels (calls ++ [call]) =
      seen labels calls ++ if call.labels.Perm labels then [micros call.nanoseconds] else [] := by
  unfold seen under
  rw [List.filter_append, List.map_append]
  congr 1
  by_cases hp : call.labels.Perm labels
  · rw [if_pos hp, List.filter_cons_of_pos (by simpa using hp)]
    rfl
  · rw [if_neg hp, List.filter_cons_of_neg (by simpa using hp)]
    rfl

/-- Histograms hold what some calls file. -/
structure Filed (calls : List Call) (s : Histograms) : Prop where
  kept : Kept (calls.map Call.labels) s.series
  series?_eq : ∀ labels, s.series? labels =
    if seen labels calls = [] then none else some (ofMicros (seen labels calls))

theorem filed_empty : Filed [] empty := ⟨Label.kept_nil, fun _ => rfl⟩

theorem Filed.getD_eq (h : Filed calls s) (labels : List Label) :
    (s.series? labels).getD .empty = ofMicros (seen labels calls) := by
  rw [h.series?_eq]
  split
  · next hnone => rw [hnone]; rfl
  · rfl

/-- **A call files its duration in its class.** -/
theorem Filed.observe (h : Filed calls s) (call : Call) :
    Filed (calls ++ [call]) (s.observe call.labels call.nanoseconds) where
  kept := by
    rw [List.map_append]
    show Kept _ (observeAt _ _ _)
    rw [observeAt_eq_alter]
    exact h.kept.alter call.labels _
  series?_eq labels := by
    have hclass : Label.sort labels = Label.sort call.labels ↔ call.labels.Perm labels :=
      eq_comm.trans Label.sort_eq_sort_iff
    rw [series?_observe, seen_snoc]
    by_cases hp : call.labels.Perm labels
    · have hsame : s.series? call.labels = s.series? labels :=
        congrArg (List.lookup · s.series) (hclass.mpr hp).symm
      rw [if_pos (hclass.mpr hp), if_pos hp, hsame, h.getD_eq, Histogram.observe_ofMicros,
        if_neg (List.concat_ne_nil _ _)]
    · rw [if_neg (mt hclass.mp hp), if_neg hp, List.append_nil, h.series?_eq]

theorem filed_run (calls : List Call) : Filed calls (run calls) := by
  induction calls using List.reverseRecOn with
  | nil => exact filed_empty
  | append_singleton calls call ih =>
    rw [run_snoc]
    exact ih.observe call

/-- **Durations under other labels change nothing.** -/
theorem series?_run_under (calls : List Call) (labels : List Label) :
    (run (under labels calls)).series? labels = (run calls).series? labels := by
  have hseen : seen labels (under labels calls) = seen labels calls := by
    unfold seen under
    rw [List.filter_filter]
    simp only [Bool.and_self]
  rw [(filed_run _).series?_eq, (filed_run calls).series?_eq, hseen]

/-! ## The lines of a series -/

/-- A label behind others is divided from them by a comma. -/
theorem renderAll_snoc (labels : List Label) (l : Label) :
    Label.renderAll (labels ++ [l]) =
      (if (Label.renderAll labels).isEmpty then "" else Label.renderAll labels ++ ",") ++
        l.render := by
  cases labels with
  | nil => simp [Label.renderAll]
  | cons first rest =>
    have hne : Label.renderAll (first :: rest) ≠ "" := by
      intro h
      have hlist := congrArg String.toList h
      cases rest <;> simp [Label.renderAll, Label.render] at hlist
    rw [if_neg (by simpa using hne), Label.renderAll, List.map_append]
    exact String.intercalate_append_of_ne_nil (by simp) (by simp)

/-- A bucket's line is that of its labels and its bound. -/
theorem bucket_eq (name : String) (labels : List Label) (bound : String)
    (hplain : Label.escape bound.toList = bound.toList) (n : Nat) :
    name ++ "_bucket\x7b" ++ (if (Label.renderAll labels).isEmpty then ""
      else Label.renderAll labels ++ ",") ++ "le=\"" ++ bound ++ "\"\x7d " ++ toString n =
      sample (name ++ "_bucket") (labels ++ [("le", bound)]) n := by
  unfold sample
  rw [renderAll_snoc, Label.render, hplain, String.ofList_toList]
  apply String.toList_inj.mp
  simp

/-- **The lines of a series**, as long as its counts have not wrapped around. -/
theorem renderSeries_ofMicros (name : String) (labels : List Label) {ms : List Nat}
    (hfew : ms.length < Width.of64) :
    renderSeries name (labels, ofMicros ms) = seriesLines name labels ms := by
  have hcount : (ofMicros ms).count.toNat = ms.length := UInt64.toNat_ofNat_of_lt' hfew
  have hsum : (ofMicros ms).sum.toNat = total ms % Width.of64 := UInt64.toNat_ofNat'
  have hplain : ∀ b ∈ bounds, Label.escape (toString b).toList = (toString b).toList := by decide
  have hbuckets : bounds.zip (ofMicros ms).buckets =
      bounds.map fun b => (b, (upTo b ms).toUInt64) :=
    Histogram.zip_bounds_map fun b => (upTo b ms).toUInt64
  unfold renderSeries seriesLines
  dsimp only
  rw [hbuckets, List.map_map, hcount, hsum]
  congr 1
  · refine List.map_congr_left fun b hb => ?_
    have hcount : (upTo b ms).toUInt64.toNat = upTo b ms :=
      UInt64.toNat_ofNat_of_lt' (Nat.lt_of_le_of_lt (Histogram.upTo_le_length b ms) hfew)
    rw [Function.comp_apply, hcount]
    exact bucket_eq name labels (toString b) (hplain b hb) _
  · have hsumLine : name ++ "_sum\x7b" ++ Label.renderAll labels ++ "\x7d " ++
        toString (total ms % Width.of64) = sample (name ++ "_sum") labels (total ms % Width.of64) :=
      String.toList_inj.mp (by simp [sample])
    have hcountLine : countLine name (labels, ofMicros ms) =
        sample (name ++ "_count") labels ms.length := by
      unfold countLine
      rw [hcount]
      exact String.toList_inj.mp (by simp [sample])
    have hlast := bucket_eq name labels "+Inf" (by decide) ms.length
    rw [hlast, hsumLine, hcountLine]

theorem length_seen_le (labels : List Label) (calls : List Call) :
    (seen labels calls).length ≤ calls.length := by
  rw [seen, List.length_map]
  exact List.length_filter_le _ _

theorem Filed.render_eq (h : Filed calls s) (hfew : calls.length < Width.of64)
    (name help : String) :
    ∃ classes, Represents (calls.map Call.labels) classes ∧ (∀ k ∈ classes, Label.sort k = k) ∧
      s.render name help =
        header name help ++ classes.flatMap fun k => seriesLines name k (seen k calls) := by
  let row (k : List Label) : List Label × Histogram := (k, ofMicros (seen k calls))
  have hrows : s.series = (s.series.map Prod.fst).map row := by
    conv_lhs => rw [h.kept.rows_eq .empty]
    exact List.map_congr_left fun k _ => congrArg (Prod.mk k) (h.getD_eq k)
  obtain ⟨classes, hperm, hsorted⟩ := exists_perm_of_mergeSort_map row
    (fun a b => !(countLine name b < countLine name a)) (s.series.map Prod.fst)
  obtain ⟨hclasses, hsort⟩ := h.kept.represents_of_perm hperm
  refine ⟨classes, hclasses, hsort, ?_⟩
  show header name help ++ (s.series.mergeSort _).flatMap _ = _
  rw [hrows, hsorted, List.flatMap_map]
  refine congrArg _ (List.flatMap_congr fun k _ => ?_)
  exact renderSeries_ofMicros name k (Nat.lt_of_le_of_lt (length_seen_le k calls) hfew)

/-- **Rendered histograms are cumulative**, each from the durations of its class alone. -/
theorem histograms_cumulative (calls : List Call) (hfew : calls.length < Width.of64)
    (name help : String) :
    bounds.length = 9 ∧
      (∃ classes, Represents (calls.map Call.labels) classes ∧ (∀ k ∈ classes, Label.sort k = k) ∧
        (run calls).render name help =
          header name help ++ classes.flatMap fun k => seriesLines name k (seen k calls)) ∧
      ∀ labels,
        (bounds.map (upTo · (seen labels calls))).Pairwise (· ≤ ·) ∧
        (∀ b, upTo b (seen labels calls) ≤ (seen labels calls).length) ∧
        (seen labels calls).length = (under labels calls).length ∧
        (run (under labels calls)).series? labels = (run calls).series? labels := by
  refine ⟨rfl, (filed_run calls).render_eq hfew name help, fun labels => ?_⟩
  exact ⟨Histogram.upTo_ascending _, fun b => Histogram.upTo_le_length b _, List.length_map _,
    series?_run_under calls labels⟩

/-- A duration at a bound, one beyond all numbers, and one under other labels. -/
theorem histograms_at_bound :
    let a : Label := ("a", "1")
    let b : Label := ("b", "2")
    let calls : List Call :=
      [⟨[a, b], 1000999⟩, ⟨[a], 5⟩, ⟨[b, a], 20000000000000000000000⟩]
    calls.length < Width.of64 ∧ seen [a, b] calls = [1000, 0xFFFFFFFFFFFFFFFF] ∧
      (bounds.map (upTo · (seen [a, b] calls))) = [1, 1, 1, 1, 1, 1, 1, 1, 1] ∧
      (seen [a, b] calls).length = 2 ∧ total (seen [a, b] calls) % Width.of64 = 999 ∧
      (run [⟨[a, b], 1000999⟩, ⟨[b, a], 20000000000000000000000⟩]).series? [a, b] =
        (run calls).series? [a, b] := by
  intro a b calls
  have hfew : calls.length < Width.of64 := by decide
  obtain ⟨-, -, hseries⟩ := histograms_cumulative calls hfew "d" "Durations"
  obtain ⟨-, -, hlength, hunder⟩ := hseries [a, b]
  exact ⟨hfew, by decide, by decide, hlength.trans (by decide), by decide, hunder⟩

end Histograms

end PolicyGate
