import PolicyGate.Policy.Lint

/-!
# The defects of one line

A pass over a document keeps state, yet what it reports at a line depends on the document alone:
on the known keywords *before* the line, on the line, and on the lines *after* it. `defects` says
so without state, and `diagnose` collects it over all lines.

**Theorem (`lint_diagnostics`).** What is reported of a document is what `diagnose` finds in its
lines, and then a missing section for each mandatory keyword that none of them names.

The proof is an induction over the lines with the invariant `Knows`: the last keyword of the pass is
the last one named so far, and the keywords it has met are those named so far.

**Theorem (`diagnose_filter`).** Blank lines and comments make no difference to what is found: a
line is diagnosed alike if only the significant lines are kept.
-/

namespace PolicyGate.Policy

/-- The keyword that a line names, if it is a known header. -/
def Line.keyword? (l : Line) : Option Keyword :=
  match l.kind with
  | .header word _ => Lint.keyword? word
  | _ => none

namespace Lint

variable {p : Progress} {before : List Keyword}

/-- The keywords that lines name, in order. -/
def named (lines : List Line) : List Keyword := lines.filterMap Line.keyword?

/-- What is wrong with a known header. -/
def headerDefects (before : List Keyword) (k : Keyword) (body : Body) : List Defect :=
  (if k ∈ before then [.duplicate k] else []) ++
  (if before.getLast?.any (fun last => k.index < last.index) then [.outOfOrder k] else []) ++
  (if body = .empty then [.noContent k] else [])

/-- What is wrong with a line. -/
def defects (before : List Keyword) (line : Line) (after : List Line) : List Defect :=
  match line.kind with
  | .blank | .comment => []
  | .listItem => if before = [] then [.strayItem] else []
  | .text => if before = [] then [.strayText] else []
  | .header word inlined =>
    match keyword? word with
    | none => [.unknownKeyword (String.ofList (word.map Char.toUpper))]
    | some k => headerDefects before k (if inlined then .inlined else followingBody after)

/-- What is wrong with lines, in order, each defect at its line. -/
def diagnose (before : List Keyword) : List Line → List Diagnostic
  | [] => []
  | line :: after =>
    (defects before line after).map (Diagnostic.mk line.number) ++
      diagnose (before ++ line.keyword?.toList) after

theorem named_cons (line : Line) (after : List Line) :
    named (line :: after) = line.keyword?.toList ++ named after := by
  cases hk : line.keyword? <;> simp [named, hk]

/-! ## The pass knows what came before -/

/-- What a pass remembers of the known keywords before its place. -/
structure Knows (p : Progress) (before : List Keyword) : Prop where
  last : p.last = before.getLast?
  found : ∀ k, k ∈ p.found ↔ k ∈ before

theorem knows_empty : Knows .empty [] := ⟨rfl, fun _ => Iff.rfl⟩

theorem Knows.last_isNone (h : Knows p before) : p.last.isNone = true ↔ before = [] := by
  rw [h.last, Option.isNone_iff_eq_none, List.getLast?_eq_none_iff]

theorem Knows.enter (h : Knows p before) (number : Nat) (k : Keyword) (body : Body) :
    Knows (p.enter number k body) (before ++ [k]) := by
  refine ⟨by simp [Progress.enter], fun j => ?_⟩
  show j ∈ k :: p.found ↔ j ∈ before ++ [k]
  rw [List.mem_cons, h.found, List.mem_append, List.mem_singleton]
  exact or_comm

theorem Knows.stray (h : Knows p before) (number : Nat) (d : Defect) :
    Knows (p.stray number d) before := by
  unfold Progress.stray
  split
  · exact ⟨h.last, h.found⟩
  · exact h

theorem Knows.visit (h : Knows p before) (line : Line) (after : List Line) :
    Knows (p.visit line after) (before ++ line.keyword?.toList) := by
  unfold Progress.visit Line.keyword?
  cases line.kind with
  | blank | comment => simpa using h
  | listItem | text => simpa using h.stray line.number _
  | header word inlined =>
    cases hk : keyword? word with
    | none => simpa [hk] using ⟨h.last, h.found⟩
    | some k => simpa [hk] using h.enter line.number k _

/-! ## What one visit reports -/

theorem diagnostics_enter (h : Knows p before) (number : Nat) (k : Keyword) (body : Body) :
    (p.enter number k body).diagnostics.toList =
      p.diagnostics.toList ++ (headerDefects before k body).map (Diagnostic.mk number) := by
  simp only [Progress.enter, headerDefects, h.found, h.last, Array.toList_appendList]

theorem diagnostics_stray (h : Knows p before) (number : Nat) (d : Defect) :
    (p.stray number d).diagnostics.toList =
      p.diagnostics.toList ++ (if before = [] then [d] else []).map (Diagnostic.mk number) := by
  unfold Progress.stray
  by_cases hb : before = []
  · rw [if_pos (h.last_isNone.mpr hb), if_pos hb]
    simp
  · rw [if_neg (mt h.last_isNone.mp hb), if_neg hb]
    simp

theorem diagnostics_visit (h : Knows p before) (line : Line) (after : List Line) :
    (p.visit line after).diagnostics.toList =
      p.diagnostics.toList ++ (defects before line after).map (Diagnostic.mk line.number) := by
  unfold Progress.visit defects
  cases line.kind with
  | blank | comment => simp
  | listItem | text => exact diagnostics_stray h line.number _
  | header word inlined =>
    cases hk : keyword? word with
    | none => simp [hk]
    | some k => simpa [hk] using diagnostics_enter h line.number k _

/-! ## The whole pass -/

theorem Knows.scan (h : Knows p before) (lines : List Line) :
    Knows (p.scan lines) (before ++ named lines) := by
  induction lines generalizing p before with
  | nil => simpa [named, Progress.scan] using h
  | cons line after ih =>
    rw [named_cons, ← List.append_assoc]
    exact ih (h.visit line after)

/-- **A pass reports what `diagnose` finds.** -/
theorem diagnostics_scan (h : Knows p before) (lines : List Line) :
    (p.scan lines).diagnostics.toList = p.diagnostics.toList ++ diagnose before lines := by
  induction lines generalizing p before with
  | nil => simp [Progress.scan, diagnose]
  | cons line after ih =>
    simp only [Progress.scan, diagnose]
    rw [ih (h.visit line after), diagnostics_visit h, List.append_assoc]

theorem missing_eq (h : Knows p before) :
    p.missing = Keyword.canonical.filter fun k => k.isMandatory && !before.contains k := by
  unfold Progress.missing
  refine List.filter_congr fun k _ => ?_
  simp [h.found]

/-- The lines of a document. -/
def linesOf (document : List Char) : List Line := (Cursor.start document).toLines

/-- **Linting is stateless.** The report lists what is found line by line, and then the mandatory
keywords that no line names. -/
theorem lint_diagnostics (document : List Char) :
    (lint document).diagnostics = diagnose [] (linesOf document) ++
      (Keyword.canonical.filter fun k =>
        k.isMandatory && !(named (linesOf document)).contains k).map fun k =>
          ⟨min ((lint document).lineCount + 1) Line.lastNumber, .missing k⟩ := by
  have hk := knows_empty.scan (linesOf document)
  have hd := diagnostics_scan knows_empty (linesOf document)
  rw [List.nil_append] at hk
  show (Progress.empty.scan (linesOf document)).diagnostics.toList ++
    (Progress.empty.scan (linesOf document)).missing.map _ = _
  rw [hd, missing_eq hk]
  rfl

/-! ## Only significant lines matter -/

theorem keyword?_of_not_significant {line : Line} (h : line.isSignificant = false) :
    line.keyword? = none := by
  unfold Line.isSignificant at h
  unfold Line.keyword?
  cases hk : line.kind <;> simp_all [LineKind.isSignificant]

theorem defects_of_not_significant {line : Line} (h : line.isSignificant = false)
    (before : List Keyword) (after : List Line) : defects before line after = [] := by
  unfold Line.isSignificant at h
  unfold defects
  cases hk : line.kind <;> simp_all [LineKind.isSignificant]

theorem followingBody_filter (after : List Line) :
    followingBody (after.filter Line.isSignificant) = followingBody after := by
  unfold followingBody
  rw [List.find?_filter]
  simp

theorem defects_filter (before : List Keyword) (line : Line) (after : List Line) :
    defects before line (after.filter Line.isSignificant) = defects before line after := by
  unfold defects
  rw [followingBody_filter]

/-- **Blank lines and comments make no difference.** -/
theorem diagnose_filter (before : List Keyword) (lines : List Line) :
    diagnose before (lines.filter Line.isSignificant) = diagnose before lines := by
  induction lines generalizing before with
  | nil => rfl
  | cons line after ih =>
    by_cases hs : line.isSignificant
    · rw [List.filter_cons_of_pos hs]
      simp only [diagnose]
      rw [defects_filter, ih]
    · have hs : line.isSignificant = false := by simpa using hs
      rw [List.filter_cons_of_neg (by simp [hs]), ih]
      simp [diagnose, defects_of_not_significant hs, keyword?_of_not_significant hs]

theorem named_filter (lines : List Line) :
    named (lines.filter Line.isSignificant) = named lines := by
  induction lines with
  | nil => rfl
  | cons line after ih =>
    by_cases hs : line.isSignificant
    · rw [List.filter_cons_of_pos hs, named_cons, ih, named_cons]
    · have hs : line.isSignificant = false := by simpa using hs
      rw [List.filter_cons_of_neg (by simp [hs]), ih, named_cons, keyword?_of_not_significant hs]
      rfl

end Lint

end PolicyGate.Policy
