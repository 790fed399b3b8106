import PolicyGate.Proofs.Policy.Alike

/-!
# Lines without content leave no trace

A blank line or a comment can be put anywhere into a document.

* `insertLine` — a document with a further line behind its first ones.
* `moved` — the number that a line has then, and `Report.moved` a whole report.

**Theorem (`lint_insertLine`).** If the further line is blank or a comment, the report is the same,
but for the numbers of the lines behind it and the number of all lines.

The significant lines of the two documents are alike (`alike_insertLine`): those in front have kept
their numbers, and those behind have moved by one, together with the place of what is missing.
-/

namespace PolicyGate.Policy

open Lint

/-! ## A further line -/

/-- A document with a further line behind its first `place` ones. -/
def insertLine (place : Nat) (line document : List Char) : List Char :=
  Text.joinWith ['\n']
    ((Text.lines document).take place ++ line :: (Text.lines document).drop place)

/-- The number of a line, with a further one behind the first `place`. -/
def moved (place number : Nat) : Nat := if place < number then number + 1 else number

/-- A report with a further line behind the first `place`. -/
def Report.moved (place : Nat) (r : Report) : Report where
  sections := r.sections.map (Section.renumbered (Policy.moved place))
  diagnostics := r.diagnostics.map (Diagnostic.renumbered (Policy.moved place))
  lineCount := r.lineCount + 1

variable {place number : Nat} {line document : List Char}

theorem moved_of_le (h : number ≤ place) : moved place number = number :=
  if_neg (Nat.not_lt.mpr h)

theorem moved_of_lt (h : place < number) : moved place number = number + 1 := if_pos h

theorem lines_insertLine (hline : '\n' ∉ line) :
    Text.lines (insertLine place line document) =
      (Text.lines document).take place ++ line :: (Text.lines document).drop place := by
  refine Text.pieces_joinWith (by simp) fun p hp => ?_
  rcases List.mem_append.mp hp with hp | hp
  · exact Text.not_mem_of_mem_pieces (List.mem_of_mem_take hp)
  · rcases List.mem_cons.mp hp with rfl | hp
    · exact hline
    · exact Text.not_mem_of_mem_pieces (List.mem_of_mem_drop hp)

/-! ## Both documents -/

theorem isSignificant_of_ignored (h : Ignored (Text.trim line)) (index : Nat) :
    (Line.ofRaw index line).isSignificant = false :=
  (Line.Faithful.ignored_iff (l := Line.ofRaw index line) rfl).mp h

/-- **The significant lines stay the same**, and those behind the further one move. -/
theorem alike_insertLine (hcount : (Text.lines document).length + 1 < Line.lastNumber)
    (hplace : place ≤ (Text.lines document).length) (hline : '\n' ∉ line)
    (hignored : Ignored (Text.trim line)) :
    List.Forall₂ (Line.Alike (moved place)) (significant document)
      (significant (insertLine place line document)) := by
  have hfront : ((Text.lines document).take place).length = place :=
    List.length_take_of_le hplace
  have hback : ((Text.lines document).drop place).length + place =
      (Text.lines document).length := by
    rw [List.length_drop]
    exact Nat.sub_add_cancel hplace
  have hbefore : linesOf document =
      (Cursor.mk 0 ((Text.lines document).take place)).toLines ++
        (Cursor.mk place ((Text.lines document).drop place)).toLines := by
    have happend := toLines_append 0 ((Text.lines document).take place)
      ((Text.lines document).drop place)
    rwa [List.take_append_drop, hfront, Nat.zero_add] at happend
  have hafter : linesOf (insertLine place line document) =
      (Cursor.mk 0 ((Text.lines document).take place)).toLines ++ Line.ofRaw place line ::
        (Cursor.mk (place + 1) ((Text.lines document).drop place)).toLines := by
    have happend := toLines_append 0 ((Text.lines document).take place)
      (line :: (Text.lines document).drop place)
    rwa [← lines_insertLine hline, hfront, Nat.zero_add, Cursor.next_eq ⟨place, _⟩] at happend
  unfold significant
  rw [hbefore, hafter, List.filter_append, List.filter_append,
    List.filter_cons_of_neg (by simp [isSignificant_of_ignored hignored])]
  refine List.rel_append (alike_filter (alike_toLines ?_ fun i hi => ?_))
    (alike_filter (alike_toLines ?_ fun i hi => ?_))
  · exact List.forall₂_same.mpr fun _ _ => rfl
  · exact (moved_of_le (by omega)).symm
  · exact List.forall₂_same.mpr fun _ _ => rfl
  · rw [moved_of_lt (by omega)]
    omega

/-- **A further line without content changes nothing but numbers.** -/
theorem lint_insertLine (hcount : (Text.lines document).length + 1 < Line.lastNumber)
    (hplace : place ≤ (Text.lines document).length) (hline : '\n' ∉ line)
    (hignored : Ignored (Text.trim line)) :
    lint (insertLine place line document) = (lint document).moved place := by
  have hlength : (Text.lines (insertLine place line document)).length =
      (Text.lines document).length + 1 := by
    rw [lines_insertLine hline, List.length_append, List.length_cons, ← Nat.add_assoc,
      ← List.length_append, List.take_append_drop]
  have hmissing : missingAt ((Text.lines document).length + 1) =
      moved place (missingAt (Text.lines document).length) := by
    unfold missingAt
    rw [moved_of_lt (by omega)]
    omega
  rw [lint_eq_reportOf, lint_eq_reportOf document, hlength,
    reportOf_alike (alike_insertLine hcount hplace hline hignored) hmissing, Report.moved]
  congr 1
  simp only [reportOf]
  omega

/-- A comment between an empty header and the content that it is looked ahead for. -/
theorem insert_comment_behind_header :
    let document := "CONTEXT:\n- a\nINTENT:".toList
    let line := " # why".toList
    (Text.lines document).length + 1 < Line.lastNumber ∧ 1 ≤ (Text.lines document).length ∧
      '\n' ∉ line ∧ Ignored (Text.trim line) ∧
      insertLine 1 line document = "CONTEXT:\n # why\n- a\nINTENT:".toList ∧
      lint (insertLine 1 line document) =
        { sections := [⟨.context, 1, .block⟩, ⟨.intent, 4, .empty⟩]
          diagnostics := [⟨4, .outOfOrder .intent⟩, ⟨4, .noContent .intent⟩, ⟨5, .missing .actor⟩,
            ⟨5, .missing .rule⟩, ⟨5, .missing .constraint⟩, ⟨5, .missing .impact⟩,
            ⟨5, .missing .trace⟩]
          lineCount := 4 } := by
  intro document line
  have hcount : (Text.lines document).length + 1 < Line.lastNumber := by decide +kernel
  have hplace : 1 ≤ (Text.lines document).length := by decide +kernel
  have hline : '\n' ∉ line := by decide
  have hignored : Ignored (Text.trim line) := by decide
  exact ⟨hcount, hplace, hline, hignored, by decide +kernel,
    (lint_insertLine hcount hplace hline hignored).trans (by decide +kernel)⟩

end PolicyGate.Policy
