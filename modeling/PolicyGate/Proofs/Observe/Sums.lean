import Mathlib.Data.List.Forall2
import Mathlib.Data.List.Induction
import PolicyGate.Proofs.Observe.Classes

/-!
# Counters as sums

Counters are told what to add, and under which labels. Neither the order of these calls nor that of
the labels in a call can be seen in them.

* `Call` — an addition of one, or of an amount.
* `added` — what calls add under some labels in any order.
* `Rearranged` — the same calls in another order, each with its labels in another order.

**Theorem (`counters_ignore_order`).** Under all labels, the sum of what was added is found, modulo
`2 ^ 64`. The rendered text has a row with that sum for each class of labels that was touched, in
the order of the label texts. Rearranged calls render the same text.

Calls change one row at a time, and a row is its class and its sum (`Sums`, kept by every call).
Rows are sorted by all that is printed of them, so that classes with the same text cannot change
places either.
-/

namespace PolicyGate.Counters

open Label (Represents Kept)

/-- What adds to counters. -/
inductive Call where
  | increment (labels : List Label)
  | add (labels : List Label) (amount : UInt64)
  deriving DecidableEq, Repr

namespace Call

def labels : Call → List Label
  | increment labels => labels
  | add labels _ => labels

def amount : Call → UInt64
  | increment _ => 1
  | add _ amount => amount

/-- The same labels and the same amount. -/
def Alike (c c' : Call) : Prop := c.labels.Perm c'.labels ∧ c.amount = c'.amount

instance (c c' : Call) : Decidable (c.Alike c') := inferInstanceAs (Decidable (_ ∧ _))

end Call

def take (c : Counters) : Call → Counters
  | .increment labels => c.increment labels
  | .add labels amount => c.add labels amount

/-- The counters after some calls. -/
def run (calls : List Call) : Counters := calls.foldl take empty

/-- What calls add under some labels, in any order. -/
def added (labels : List Label) : List Call → Nat
  | [] => 0
  | c :: calls => (if c.labels.Perm labels then c.amount.toNat else 0) + added labels calls

/-- The same calls in another order, each with its labels in another order. -/
def Rearranged (calls calls' : List Call) : Prop :=
  ∃ mid, calls.Perm mid ∧ List.Forall₂ Call.Alike mid calls'

/-- The two lines in front of the rows. -/
def header (name help : String) : List String :=
  ["# HELP " ++ name ++ " " ++ help, "# TYPE " ++ name ++ " counter"]

/-! ## Runs -/

variable {calls calls' : List Call} {c c' : Counters}

theorem take_eq_add (c : Counters) (call : Call) : c.take call = c.add call.labels call.amount := by
  cases call <;> rfl

theorem run_snoc (calls : List Call) (call : Call) :
    run (calls ++ [call]) = (run calls).take call := by
  rw [run, List.foldl_append]
  rfl

theorem added_append (labels : List Label) (calls calls' : List Call) :
    added labels (calls ++ calls') = added labels calls + added labels calls' := by
  induction calls with
  | nil => exact (Nat.zero_add _).symm
  | cons c calls ih => rw [List.cons_append, added, added, ih, Nat.add_assoc]

theorem added_snoc (labels : List Label) (calls : List Call) (call : Call) :
    added labels (calls ++ [call]) =
      added labels calls + if call.labels.Perm labels then call.amount.toNat else 0 :=
  added_append labels calls [call]

/-- Counters hold what some calls add. -/
structure Sums (calls : List Call) (c : Counters) : Prop where
  kept : Kept (calls.map Call.labels) c.rows
  toNat_get : ∀ labels, (c.get labels).toNat = added labels calls % Width.of64

theorem sums_empty : Sums [] empty := ⟨Label.kept_nil, fun _ => rfl⟩

/-- **A call adds its amount to its class.** -/
theorem Sums.take (h : Sums calls c) (call : Call) : Sums (calls ++ [call]) (c.take call) where
  kept := by
    rw [take_eq_add, List.map_append]
    show Kept _ (addTo _ _ _)
    rw [addTo_eq_alter]
    exact h.kept.alter call.labels _
  toNat_get labels := by
    have hclass : Label.sort labels = Label.sort call.labels ↔ call.labels.Perm labels :=
      eq_comm.trans Label.sort_eq_sort_iff
    rw [take_eq_add, get_add, added_snoc]
    by_cases hp : call.labels.Perm labels
    · rw [if_pos (hclass.mpr hp), if_pos hp, UInt64.toNat_add, h.toNat_get]
      exact Nat.mod_add_mod _ _ _
    · rw [if_neg (mt hclass.mp hp), if_neg hp, h.toNat_get, Nat.add_zero]

theorem sums_run (calls : List Call) : Sums calls (run calls) := by
  induction calls using List.reverseRecOn with
  | nil => exact sums_empty
  | append_singleton calls call ih =>
    rw [run_snoc]
    exact ih.take call

/-! ## The rows of a rendered text -/

theorem linearLe_rowLe : LinearLe rowLe := by
  have hnumber : LinearLe fun n m : UInt64 => decide (n ≤ m) := by
    constructor
    · intro a b c hab hbc
      simp only [decide_eq_true_eq] at hab hbc ⊢
      exact UInt64.le_trans hab hbc
    · intro a b
      simpa using UInt64.le_total a b
    · intro a b hab hba
      simp only [decide_eq_true_eq] at hab hba
      exact UInt64.le_antisymm hab hba
  exact hnumber.byText

theorem text_le_of_rowLe {a b : String × UInt64} (h : rowLe a b = true) : a.1 ≤ b.1 := by
  simp only [rowLe, Bool.or_eq_true, Bool.and_eq_true, decide_eq_true_eq, beq_iff_eq] at h
  rcases h with h | ⟨h, -⟩
  · exact String.lt_asymm h
  · exact h ▸ String.le_refl _

/-- The rows are the touched classes with what is found under them. -/
theorem Sums.rows_eq (h : Sums calls c) :
    c.rows = (c.rows.map Prod.fst).map fun k => (k, c.get k) := h.kept.rows_eq 0

/-- **The rendered text has a row for each class**, in the order of the label texts. -/
theorem Sums.render_eq (h : Sums calls c) (name help : String) :
    ∃ classes, Represents (calls.map Call.labels) classes ∧ (∀ k ∈ classes, Label.sort k = k) ∧
      classes.Pairwise (fun k k' => Label.renderAll k ≤ Label.renderAll k') ∧
      c.render name help =
        header name help ++ classes.map fun k => sample name k (added k calls % Width.of64) := by
  -- A row is made from its class alone, so sorting the rows puts the classes in some order.
  let row (k : List Label) : String × UInt64 := (Label.renderAll k, c.get k)
  obtain ⟨classes, hperm, hsorted⟩ :=
    exists_perm_of_mergeSort_map row rowLe (c.rows.map Prod.fst)
  have hrows : (c.rows.map fun r => (Label.renderAll r.1, r.2)) =
      (c.rows.map Prod.fst).map row := by
    conv_lhs => rw [h.rows_eq, List.map_map]
    rfl
  obtain ⟨hclasses, hsort⟩ := h.kept.represents_of_perm hperm
  refine ⟨classes, hclasses, hsort, ?_, ?_⟩
  · have horder : (((c.rows.map Prod.fst).map row).mergeSort rowLe).Pairwise
        fun a b => rowLe a b = true :=
      List.pairwise_mergeSort linearLe_rowLe.trans linearLe_rowLe.total _
    rw [hsorted, List.pairwise_map] at horder
    exact horder.imp text_le_of_rowLe
  · show header name help ++ ((c.rows.map _).mergeSort rowLe).map _ = _
    rw [hrows, hsorted, List.map_map]
    refine congrArg _ (List.map_congr_left fun k _ => ?_)
    rw [← h.toNat_get]
    rfl

/-! ## Calls in another order -/

theorem added_of_perm (h : calls.Perm calls') (labels : List Label) :
    added labels calls = added labels calls' := by
  induction h with
  | nil => rfl
  | cons c h ih => rw [added, added, ih]
  | swap c c' calls =>
    simp only [added]
    omega
  | trans h h' ih ih' => exact ih.trans ih'

theorem added_of_alike (h : List.Forall₂ Call.Alike calls calls') (labels : List Label) :
    added labels calls = added labels calls' := by
  induction h with
  | nil => rfl
  | cons hc h ih =>
    rw [added, added, ih, hc.2]
    simp only [hc.1.congr_left labels]

theorem Rearranged.added_eq (h : Rearranged calls calls') (labels : List Label) :
    added labels calls = added labels calls' := by
  obtain ⟨mid, hperm, halike⟩ := h
  exact (added_of_perm hperm labels).trans (added_of_alike halike labels)

theorem keys_of_alike (h : List.Forall₂ Call.Alike calls calls') :
    (calls.map fun c => Label.sort c.labels) = calls'.map fun c => Label.sort c.labels := by
  induction h with
  | nil => rfl
  | cons hc h ih => rw [List.map_cons, List.map_cons, Label.sort_eq_sort_iff.mpr hc.1, ih]

theorem Rearranged.keys_perm (h : Rearranged calls calls') :
    (calls.map fun c => Label.sort c.labels).Perm (calls'.map fun c => Label.sort c.labels) := by
  obtain ⟨mid, hperm, halike⟩ := h
  rw [← keys_of_alike halike]
  exact hperm.map _

/-- Rearranged calls leave the same rows, in some order. -/
theorem Rearranged.rows_perm (h : Rearranged calls calls') (hc : Sums calls c)
    (hc' : Sums calls' c') : c.rows.Perm c'.rows := by
  have hget : c.get = c'.get := by
    funext labels
    apply UInt64.toNat_inj.mp
    rw [hc.toNat_get, hc'.toNat_get, h.added_eq]
  -- Rows stand in the order in which their classes were first touched, which may differ.
  have hkeys : (c.rows.map Prod.fst).Perm (c'.rows.map Prod.fst) := by
    refine (List.perm_ext_iff_of_nodup hc.kept.distinct hc'.kept.distinct).mpr fun k => ?_
    have hmem := h.keys_perm.mem_iff (a := k)
    rw [hc.kept.mem_keys, hc'.kept.mem_keys]
    simpa using hmem
  rw [hc.rows_eq, hc'.rows_eq, hget]
  exact hkeys.map _

theorem render_of_perm (h : c.rows.Perm c'.rows) (name help : String) :
    c.render name help = c'.render name help := by
  unfold render
  rw [linearLe_rowLe.mergeSort_eq (h.map _)]

/-- **Counters depend on what was added under which labels, and on no order.** -/
theorem counters_ignore_order (calls : List Call) (labels : List Label) (name help : String) :
    ((run calls).get labels).toNat = added labels calls % Width.of64 ∧
      (∃ classes, Represents (calls.map Call.labels) classes ∧
        (∀ k ∈ classes, Label.sort k = k) ∧
        classes.Pairwise (fun k k' => Label.renderAll k ≤ Label.renderAll k') ∧
        (run calls).render name help =
          header name help ++ classes.map fun k => sample name k (added k calls % Width.of64)) ∧
      ∀ calls', Rearranged calls calls' →
        (run calls).render name help = (run calls').render name help := by
  have h := sums_run calls
  refine ⟨h.toNat_get labels, h.render_eq name help, fun calls' hr => ?_⟩
  exact render_of_perm (hr.rows_perm h (sums_run calls')) name help

/-- Labels in two orders, an addition of nothing, and a sum that wraps around. -/
theorem counts_of_two_orders :
    let a : Label := ("a", "1")
    let b : Label := ("b", "2")
    let calls : List Call := [.add [b, a] 0xFFFFFFFFFFFFFFFF, .increment [a, b], .add [a] 0]
    let calls' : List Call := [.add [a] 0, .add [b, a] 1, .add [a, b] 0xFFFFFFFFFFFFFFFF]
    Rearranged calls calls' ∧
      (run calls).render "runs" "Runs" = (run calls').render "runs" "Runs" ∧
      ((run calls).get [b, a]).toNat = 0 := by
  intro a b calls calls'
  have hr : Rearranged calls calls' := by
    refine ⟨[.add [a] 0, .increment [a, b], .add [b, a] 0xFFFFFFFFFFFFFFFF], by decide, ?_⟩
    exact .cons (by decide) (.cons (by decide) (.cons (by decide) .nil))
  obtain ⟨hget, -, hsame⟩ := counters_ignore_order calls [b, a] "runs" "Runs"
  exact ⟨hr, hsame calls' hr, hget.trans (by decide)⟩

end PolicyGate.Counters
