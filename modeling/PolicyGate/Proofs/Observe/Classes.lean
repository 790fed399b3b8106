import PolicyGate.Proofs.Observe.Tally

/-!
# Classes of labels

Labels that are permutations of each other are the same labels, and counters and histograms have one
row for each class of them.

* `LinearLe` — a comparison that leaves one way only to sort: transitive, total and antisymmetric.
* `Represents` — lists of labels that stand for the classes of others, each class once.
* `Kept` — rows, one for each class of the labels that were touched, under its sorted labels.
* `sample` — a line of the exposition.

**Theorem (`sort_eq_sort_iff`).** Two lists of labels are sorted alike if and only if one is a
permutation of the other.

**Theorem (`Kept.alter`).** A change of a row keeps the rows in order: it touches the labels of the
row, and no others.
-/

namespace PolicyGate

open Keyed (alter)

/-! ## Comparisons -/

/-- A comparison by which a list can be sorted in one way only. -/
structure LinearLe {α : Type} (le : α → α → Bool) : Prop where
  trans : ∀ a b c, le a b = true → le b c = true → le a c = true
  total : ∀ a b, (le a b || le b a) = true
  antisymm : ∀ a b, le a b = true → le b a = true → a = b

/-- What is sorted behind a map is the map of some permutation. -/
theorem exists_perm_of_mergeSort_map {α β : Type} (f : α → β) (le : β → β → Bool) (l : List α) :
    ∃ l' : List α, l'.Perm l ∧ (l.map f).mergeSort le = l'.map f := by
  let le' (a b : α) : Bool := le (f a) (f b)
  have hmap : (l.mergeSort le').map f = (l.map f).mergeSort le :=
    List.map_mergeSort fun _ _ _ _ => rfl
  exact ⟨l.mergeSort le', List.mergeSort_perm l le', hmap.symm⟩

namespace LinearLe

variable {α β : Type} {le : α → α → Bool}

/-- **Permutations are sorted alike.** -/
theorem mergeSort_eq (h : LinearLe le) {l l' : List α} (hp : l.Perm l') :
    l.mergeSort le = l'.mergeSort le := by
  have hperm : (l.mergeSort le).Perm (l'.mergeSort le) :=
    (List.mergeSort_perm l le).trans (hp.trans (List.mergeSort_perm l' le).symm)
  have hsorted (l : List α) : (l.mergeSort le).Pairwise fun a b => le a b = true :=
    List.pairwise_mergeSort h.trans h.total l
  exact List.Perm.eq_of_pairwise (fun a b _ _ => h.antisymm a b) (hsorted l) (hsorted l') hperm

/-- Texts in their order, and by another comparison where they are equal. -/
theorem byText {le : β → β → Bool} (h : LinearLe le) :
    LinearLe fun a b : String × β => a.1 < b.1 || (a.1 == b.1 && le a.2 b.2) := by
  constructor
  · intro a b c hab hbc
    simp only [Bool.or_eq_true, Bool.and_eq_true, decide_eq_true_eq, beq_iff_eq] at hab hbc ⊢
    rcases hab with hab | ⟨hab, hab'⟩ <;> rcases hbc with hbc | ⟨hbc, hbc'⟩
    · exact .inl (String.lt_trans hab hbc)
    · exact .inl (hbc ▸ hab)
    · exact .inl (hab ▸ hbc)
    · exact .inr ⟨hab.trans hbc, h.trans _ _ _ hab' hbc'⟩
  · intro a b
    simp only [Bool.or_eq_true, Bool.and_eq_true, decide_eq_true_eq, beq_iff_eq]
    by_cases hab : a.1 < b.1
    · exact .inl (.inl hab)
    · by_cases hba : b.1 < a.1
      · exact .inr (.inl hba)
      · have he : a.1 = b.1 := String.le_antisymm hba hab
        have ht := h.total a.2 b.2
        rw [Bool.or_eq_true] at ht
        exact ht.imp (fun hle => .inr ⟨he, hle⟩) fun hle => .inr ⟨he.symm, hle⟩
  · intro a b hab hba
    simp only [Bool.or_eq_true, Bool.and_eq_true, decide_eq_true_eq, beq_iff_eq] at hab hba
    rcases hab with hab | ⟨hab, hab'⟩ <;> rcases hba with hba | ⟨hba, hba'⟩
    · exact absurd hba (String.lt_asymm hab)
    · exact absurd (hba ▸ hab) (String.lt_irrefl _)
    · exact absurd (hab ▸ hba) (String.lt_irrefl _)
    · exact Prod.ext hab (h.antisymm _ _ hab' hba')

end LinearLe

namespace Label

variable {β : Type} {touched classes : List (List Label)} {rows : List (List Label × β)}

/-! ## Sorted labels -/

theorem linearLe_le : LinearLe le := by
  have htext : LinearLe fun s t : String => !decide (t < s) := by
    constructor
    · intro a b c hab hbc
      simp only [Bool.not_eq_true', decide_eq_false_iff_not, String.not_lt] at hab hbc ⊢
      exact String.le_trans hab hbc
    · intro a b
      simp only [Bool.or_eq_true, Bool.not_eq_true', decide_eq_false_iff_not, String.not_lt]
      exact String.le_total a b
    · intro a b hab hba
      simp only [Bool.not_eq_true', decide_eq_false_iff_not, String.not_lt] at hab hba
      exact String.le_antisymm hab hba
  exact htext.byText

/-- **Labels are sorted alike if and only if they are the same.** -/
theorem sort_eq_sort_iff {labels labels' : List Label} :
    sort labels = sort labels' ↔ labels.Perm labels' :=
  ⟨perm_of_sort, linearLe_le.mergeSort_eq⟩

@[simp] theorem sort_sort (labels : List Label) : sort (sort labels) = sort labels :=
  sort_eq_sort_iff.mpr (sort_perm labels)

/-! ## One list for each class -/

/-- The lists `classes` stand for the classes of the lists in `touched`, each class once. -/
structure Represents (touched classes : List (List Label)) : Prop where
  distinct : classes.Pairwise fun k k' => ¬ k.Perm k'
  covers : ∀ labels, (∃ k ∈ classes, k.Perm labels) ↔ ∃ t ∈ touched, t.Perm labels

theorem Represents.perm (h : Represents touched classes) {classes' : List (List Label)}
    (hp : classes.Perm classes') : Represents touched classes' where
  distinct := h.distinct.perm hp fun hne he => hne he.symm
  covers labels := by
    rw [← h.covers labels]
    exact exists_congr fun k => and_congr_left fun _ => hp.mem_iff.symm

/-! ## One row for each class -/

/-- Rows, one for each class of the touched labels. -/
structure Kept (touched : List (List Label)) (rows : List (List Label × β)) : Prop where
  distinct : (rows.map Prod.fst).Nodup
  mem_keys : ∀ k, k ∈ rows.map Prod.fst ↔ ∃ t ∈ touched, sort t = k

theorem kept_nil : Kept [] ([] : List (List Label × β)) := ⟨List.nodup_nil, by simp⟩

/-- **A change of a row touches its labels.** -/
theorem Kept.alter (h : Kept touched rows) (labels : List Label) (f : Option β → β) :
    Kept (touched ++ [labels]) (alter (sort labels) f rows) where
  distinct := Keyed.nodup_alter h.distinct (sort labels) f
  mem_keys k := by
    have hsnoc : (∃ t ∈ touched ++ [labels], sort t = k) ↔
        (∃ t ∈ touched, sort t = k) ∨ sort labels = k := by
      simp [or_and_right, exists_or]
    rw [Keyed.keys_alter, List.mem_append, h.mem_keys k, hsnoc]
    by_cases hold : sort labels ∈ rows.map Prod.fst
    · rw [if_pos hold]
      have hk : sort labels = k → ∃ t ∈ touched, sort t = k := fun he =>
        he ▸ (h.mem_keys (sort labels)).mp hold
      simpa using hk
    · rw [if_neg hold, List.mem_singleton, eq_comm (a := k)]

theorem Kept.sort_key (h : Kept touched rows) {k : List Label} (hk : k ∈ rows.map Prod.fst) :
    sort k = k := by
  obtain ⟨t, -, rfl⟩ := (h.mem_keys k).mp hk
  exact sort_sort t

/-- The keys of the rows stand for the touched classes. -/
theorem Kept.represents (h : Kept touched rows) : Represents touched (rows.map Prod.fst) where
  distinct := by
    refine h.distinct.imp_of_mem fun {k k'} hk hk' hne hp => hne ?_
    rw [← h.sort_key hk, ← h.sort_key hk', sort_eq_sort_iff.mpr hp]
  covers labels := by
    constructor
    · rintro ⟨k, hk, hp⟩
      obtain ⟨t, ht, rfl⟩ := (h.mem_keys k).mp hk
      exact ⟨t, ht, (sort_perm t).symm.trans hp⟩
    · rintro ⟨t, ht, hp⟩
      exact ⟨sort t, (h.mem_keys _).mpr ⟨t, ht, rfl⟩, (sort_perm t).trans hp⟩

/-- In any order, the keys of the rows stand for the touched classes, each by its sorted labels. -/
theorem Kept.represents_of_perm (h : Kept touched rows) (hp : classes.Perm (rows.map Prod.fst)) :
    Represents touched classes ∧ ∀ k ∈ classes, sort k = k :=
  ⟨h.represents.perm hp.symm, fun _ hk => h.sort_key (hp.mem_iff.mp hk)⟩

/-- Each row holds what is found under its key. -/
theorem Kept.rows_eq (h : Kept touched rows) (default : β) :
    rows = (rows.map Prod.fst).map fun k => (k, (rows.lookup (sort k)).getD default) := by
  rw [List.map_map]
  refine (List.map_id rows).symm.trans (List.map_congr_left fun row hrow => ?_)
  have hkey : sort row.1 = row.1 := h.sort_key (List.mem_map_of_mem hrow)
  have hfound : rows.lookup row.1 = some row.2 := Keyed.lookup_of_mem h.distinct hrow
  rw [Function.comp_apply, hkey, hfound]
  rfl

end Label

/-! ## Lines -/

/-- A line of the exposition: a name, labels and a number. -/
def sample (name : String) (labels : List Label) (n : Nat) : String :=
  name ++ "\x7b" ++ Label.renderAll labels ++ "\x7d " ++ toString n

end PolicyGate
