import Mathlib.Data.List.Forall2
import PolicyGate.Proofs.Policy.Report

/-!
# Documents that are linted alike

What is reported of a document comes from the numbers of its significant lines and from their
shapes, and of the letters of a header only from their upper case.

* `LineKind.folded` — a shape with the letters of a header in upper case.
* `Line.Alike` — two lines of the same folded shape, the second with a number that depends on the
  first's.
* `Lint.reportOf` — the report of some significant lines among a number of lines.

**Theorem (`reportOf_alike`).** If lines are alike, one by one, then the report of the second ones
is that of the first with every line renumbered.

Each question that is asked of a line has the same answer for lines that are alike. So the
recursions that stand for the pass (`diagnose`, `sectionsIn`) stay in step, and no state has to be
compared.
-/

namespace PolicyGate.Policy

/-! ## Shapes but for the case of letters -/

/-- A shape with the letters of a header in upper case. -/
def LineKind.folded : LineKind → LineKind
  | .header word inlined => .header (word.map Char.toUpper) inlined
  | kind => kind

/-- Shapes that are folded alike are the same, or both headers. -/
theorem LineKind.folded_eq_cases {kind kind' : LineKind} (h : kind'.folded = kind.folded) :
    kind' = kind ∨ ∃ word word' inlined, kind = .header word inlined ∧
      kind' = .header word' inlined ∧ word'.map Char.toUpper = word.map Char.toUpper := by
  cases kind with
  | header word inlined =>
    cases kind' with
    | header word' inlined' =>
      obtain ⟨hword, rfl⟩ := LineKind.header.inj h
      exact .inr ⟨word, word', inlined', rfl, rfl, hword⟩
    | blank | comment | listItem | text => cases h
  | blank | comment | listItem | text =>
    cases kind' <;> first | exact .inl rfl | cases h

theorem Lint.keyword?_congr {word word' : List Char}
    (h : word'.map Char.toUpper = word.map Char.toUpper) :
    Lint.keyword? word' = Lint.keyword? word := by
  rw [Lint.keyword?, h, Lint.keyword?]

/-! ## Lines that are alike -/

/-- Two lines of the same folded shape, the second with the number that `f` gives. -/
structure Line.Alike (f : Nat → Nat) (l l' : Line) : Prop where
  number_eq : l'.number = f l.number
  folded_eq : l'.kind.folded = l.kind.folded

/-- A diagnostic at another line. -/
def Diagnostic.renumbered (f : Nat → Nat) (d : Diagnostic) : Diagnostic :=
  { d with line := f d.line }

/-- A section at another line. -/
def Section.renumbered (f : Nat → Nat) (s : Section) : Section := { s with line := f s.line }

variable {f : Nat → Nat} {l l' : Line} {lines lines' after after' : List Line}

namespace Line.Alike

theorem isSignificant_eq (h : Alike f l l') : l'.isSignificant = l.isSignificant := by
  unfold isSignificant
  obtain hkind | ⟨word, word', inlined, hkind, hkind', -⟩ := LineKind.folded_eq_cases h.folded_eq
  · rw [hkind]
  · rw [hkind, hkind']
    rfl

theorem isHeader_eq (h : Alike f l l') : l'.kind.isHeader = l.kind.isHeader := by
  obtain hkind | ⟨word, word', inlined, hkind, hkind', -⟩ := LineKind.folded_eq_cases h.folded_eq
  · rw [hkind]
  · rw [hkind, hkind']
    rfl

theorem keyword?_eq (h : Alike f l l') : l'.keyword? = l.keyword? := by
  unfold keyword?
  obtain hkind | ⟨word, word', inlined, hkind, hkind', hword⟩ :=
    LineKind.folded_eq_cases h.folded_eq
  · rw [hkind]
  · rw [hkind, hkind']
    exact Lint.keyword?_congr hword

end Line.Alike

namespace Lint

open Line (Alike)

theorem followingBody_alike (h : List.Forall₂ (Alike f) after after') :
    followingBody after' = followingBody after := by
  unfold followingBody
  induction h with
  | nil => rfl
  | @cons l l' _ _ hl _ ih =>
    have hs := hl.isSignificant_eq
    cases hsignificant : l.isSignificant with
    | true =>
      rw [List.find?_cons_of_pos (hs.trans hsignificant), List.find?_cons_of_pos hsignificant]
      simp only [hl.isHeader_eq]
    | false =>
      rw [List.find?_cons_of_neg (by simp [hs, hsignificant]),
        List.find?_cons_of_neg (by simp [hsignificant])]
      exact ih

theorem defects_alike (before : List Keyword) (hl : Alike f l l')
    (ha : List.Forall₂ (Alike f) after after') :
    defects before l' after' = defects before l after := by
  unfold defects
  rw [followingBody_alike ha]
  obtain hkind | ⟨word, word', inlined, hkind, hkind', hword⟩ :=
    LineKind.folded_eq_cases hl.folded_eq
  · rw [hkind]
  · rw [hkind, hkind']
    simp only [keyword?_congr hword, hword]

theorem section?_alike (hl : Alike f l l')
    (ha : List.Forall₂ (Alike f) after after') : section? l' after' =
      (section? l after).map (Section.renumbered f) := by
  unfold section?
  rw [followingBody_alike ha]
  obtain hkind | ⟨word, word', inlined, hkind, hkind', hword⟩ :=
    LineKind.folded_eq_cases hl.folded_eq
  · rw [hkind]
    split
    · rw [Option.map_map, hl.number_eq]
      rfl
    · rfl
  · rw [hkind, hkind']
    simp only [keyword?_congr hword, hl.number_eq, Option.map_map]
    rfl

theorem named_alike (h : List.Forall₂ (Alike f) lines lines') : named lines' = named lines := by
  induction h with
  | nil => rfl
  | cons hl _ ih => rw [named_cons, named_cons, hl.keyword?_eq, ih]

/-- **Lines that are alike are diagnosed alike.** -/
theorem diagnose_alike (before : List Keyword) (h : List.Forall₂ (Alike f) lines lines') :
    diagnose before lines' = (diagnose before lines).map (Diagnostic.renumbered f) := by
  induction h generalizing before with
  | nil => rfl
  | cons hl ha ih =>
    simp only [diagnose]
    rw [defects_alike before hl ha, hl.keyword?_eq, ih, hl.number_eq, List.map_append, List.map_map]
    rfl

/-- **Lines that are alike open the same sections.** -/
theorem sectionsIn_alike (h : List.Forall₂ (Alike f) lines lines') :
    sectionsIn lines' = (sectionsIn lines).map (Section.renumbered f) := by
  induction h with
  | nil => rfl
  | @cons l l' _ _ hl ha ih =>
    simp only [sectionsIn]
    rw [section?_alike hl ha, ih, List.map_append]
    cases section? l _ <;> rfl

/-! ## The report of significant lines -/

/-- The line at which a missing section is reported. -/
def missingAt (count : Nat) : Nat := min (min count Line.lastNumber + 1) Line.lastNumber

/-- The report of some significant lines, of a document with so many lines. -/
def reportOf (lines : List Line) (count : Nat) : Report where
  sections := sectionsIn lines
  diagnostics := diagnose [] lines ++
    (Keyword.canonical.filter fun k => k.isMandatory && !(named lines).contains k).map fun k =>
      ⟨missingAt count, .missing k⟩
  lineCount := min count Line.lastNumber

theorem section?_filter (line : Line) (after : List Line) : section? line
    (after.filter Line.isSignificant) = section? line after := by
  unfold section?
  rw [followingBody_filter]

theorem section?_of_not_significant (h : l.isSignificant = false)
    (after : List Line) : section? l after = none := by
  unfold Line.isSignificant at h
  unfold section?
  cases hk : l.kind <;> simp_all [LineKind.isSignificant]

theorem sectionsIn_filter (lines : List Line) :
    sectionsIn (lines.filter Line.isSignificant) = sectionsIn lines := by
  induction lines with
  | nil => rfl
  | cons line after ih =>
    by_cases hs : line.isSignificant
    · rw [List.filter_cons_of_pos hs]
      simp only [sectionsIn]
      rw [section?_filter, ih]
    · have hs : line.isSignificant = false := by simpa using hs
      rw [List.filter_cons_of_neg (by simp [hs]), ih, sectionsIn, section?_of_not_significant hs]
      rfl

/-- **A report is made of the significant lines and of the number of all.** -/
theorem lint_eq_reportOf (document : List Char) :
    lint document = reportOf (significant document) (Text.lines document).length := by
  have hcount : (lint document).lineCount = min (Text.lines document).length Line.lastNumber :=
    congrArg (min · Line.lastNumber) (Nat.zero_add _)
  have hsections : (lint document).sections = sectionsIn (linesOf document) :=
    sections_scan .empty (linesOf document)
  have hdiagnostics := lint_diagnostics document
  rw [hcount, ← diagnose_filter, ← named_filter] at hdiagnostics
  rw [← sectionsIn_filter] at hsections
  generalize lint document = report at hcount hsections hdiagnostics ⊢
  obtain ⟨sections, diagnostics, lineCount⟩ := report
  subst hcount hsections hdiagnostics
  rfl

/-- **Lines that are alike are reported alike**, if what is missing is renumbered too. -/
theorem reportOf_alike (h : List.Forall₂ (Alike f) lines lines') {count count' : Nat}
    (hmissing : missingAt count' = f (missingAt count)) :
    reportOf lines' count' =
      { sections := (reportOf lines count).sections.map (Section.renumbered f)
        diagnostics := (reportOf lines count).diagnostics.map (Diagnostic.renumbered f)
        lineCount := min count' Line.lastNumber } := by
  simp only [reportOf]
  rw [sectionsIn_alike h, diagnose_alike [] h, named_alike h, hmissing, List.map_append,
    List.map_map]
  rfl

/-! ## The lines of a document -/

theorem toLines_append (consumed : Nat) (front back : List (List Char)) :
    (Cursor.mk consumed (front ++ back)).toLines =
      (Cursor.mk consumed front).toLines ++ (Cursor.mk (consumed + front.length) back).toLines := by
  simp only [Cursor.toLines, List.mapIdx_append]
  congr 2
  funext i raw
  congr 1
  omega

/-- Lines at two places of two documents are alike if their folded shapes are the same and their
numbers are moved by `f`. -/
theorem alike_toLines {consumed consumed' : Nat} {raws raws' : List (List Char)}
    (hraws : List.Forall₂ (fun raw raw' =>
      (classify (Text.trim raw')).folded = (classify (Text.trim raw)).folded) raws raws')
    (hnumber : ∀ i < raws.length,
      min (consumed' + i + 1) Line.lastNumber = f (min (consumed + i + 1) Line.lastNumber)) :
    List.Forall₂ (Alike f) (Cursor.mk consumed raws).toLines
      (Cursor.mk consumed' raws').toLines := by
  induction hraws generalizing consumed consumed' with
  | nil => exact .nil
  | @cons raw raw' raws raws' hraw _ ih =>
    rw [Cursor.next_eq, Cursor.next_eq]
    refine .cons ⟨hnumber 0 (Nat.zero_lt_succ _), hraw⟩ (ih fun i hi => ?_)
    have hnext := hnumber (i + 1) (Nat.succ_lt_succ hi)
    rw [← Nat.add_assoc, ← Nat.add_assoc] at hnext
    rwa [Nat.add_right_comm consumed', Nat.add_right_comm consumed]

theorem alike_filter (h : List.Forall₂ (Alike f) lines lines') :
    List.Forall₂ (Alike f) (lines.filter Line.isSignificant)
      (lines'.filter Line.isSignificant) :=
  List.rel_filter (fun _ _ hl => Bool.eq_iff_iff.mp hl.isSignificant_eq.symm) h

end Lint

end PolicyGate.Policy
