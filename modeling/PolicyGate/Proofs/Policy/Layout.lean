import PolicyGate.Policy.Rule
import PolicyGate.Proofs.Policy.Alike

/-!
# Layout does not matter

What can be changed about a document without a change to what is found in it:

* `Padded` — a line may have further blanks at its ends. A newline is none of them, for it would end
  the line.
* `returned` — in particular, every line may end with a carriage return in front of its newline.
* `Recased` — the letters of a header may be in any case.

**Theorem (`layout_is_ignored`).** A document whose lines are padded has the same report and the
same rules, and one whose headers are in another case has the same report.

A line is looked at by its trimmed text, to which padding adds nothing (`Text.trim_pad`). Trimming
leaves a header its word (`Opens.trim`), whose case is lost in its folded shape. So all such
documents are linted alike (`lint_of_shapes`).
-/

namespace PolicyGate.Policy

open Lint

/-! ## Documents of other layout -/

/-- A line with further blanks at its ends. -/
def Padded (raw raw' : List Char) : Prop :=
  ∃ front back, raw' = front ++ raw ++ back ∧ (∀ c ∈ front, Text.isBlank c = true) ∧
    ∀ c ∈ back, Text.isBlank c = true

/-- A line that is the same, or the same header but for the case of the letters before its colon. -/
inductive Recased : List Char → List Char → Prop
  | same (raw : List Char) : Recased raw raw
  | header {front line line' word word' rest : List Char}
      (hfront : ∀ c ∈ front, Text.isBlank c = true) (hline : Opens line word rest)
      (hline' : Opens line' word' rest) (hword : word'.map Char.toUpper = word.map Char.toUpper) :
      Recased (front ++ line) (front ++ line')

/-- A document with a carriage return in front of every newline. -/
def returned (document : List Char) : List Char :=
  document.flatMap fun c => if c = '\n' then ['\r', '\n'] else [c]

variable {document document' raw raw' line word rest : List Char}

theorem Padded.trim_eq (h : Padded raw raw') : Text.trim raw' = Text.trim raw := by
  obtain ⟨front, back, rfl, hfront, hback⟩ := h
  exact Text.trim_pad hfront hback raw

/-- Lines that end with a newline get a carriage return, and the last one stays as it is. -/
theorem lines_returned (document : List Char) :
    List.Forall₂ (fun raw raw' => raw' = raw ∨ raw' = raw ++ ['\r'])
      (Text.lines document) (Text.lines (returned document)) := by
  unfold Text.lines
  induction document with
  | nil => exact .cons (.inl rfl) .nil
  | cons c document ih =>
    by_cases hc : c = '\n'
    · subst hc
      have hreturn : Text.pieces '\n' (returned ('\n' :: document)) =
          ['\r'] :: Text.pieces '\n' (returned document) :=
        Text.pieces_append_sep '\n' ['\r'] (returned document)
      rw [hreturn, Text.pieces_sep]
      exact .cons (.inr rfl) ih
    · have hkeep : returned (c :: document) = c :: returned document := by
        simp [returned, hc]
      obtain ⟨p, ps, hp, hcons⟩ := Text.pieces_cons hc document
      obtain ⟨q, qs, hq, hcons'⟩ := Text.pieces_cons hc (returned document)
      rw [hp, hq, List.forall₂_cons] at ih
      rw [hkeep, hcons, hcons']
      refine .cons (ih.1.imp ?_ ?_) ih.2
      · exact congrArg (c :: ·)
      · exact congrArg (c :: ·)

theorem padded_returned (document : List Char) :
    List.Forall₂ Padded (Text.lines document) (Text.lines (returned document)) := by
  refine (lines_returned document).imp fun raw raw' h => ?_
  rcases h with rfl | rfl
  · exact ⟨[], [], by simp, by simp, by simp⟩
  · exact ⟨[], ['\r'], by simp, by simp, by simp [Text.isBlank]⟩

/-! ## Trimmed headers -/

theorem not_isBlank_of_isAlpha {c : Char} (h : c.isAlpha = true) : Text.isBlank c = false := by
  have hletter : 65 ≤ c.toNat ∧ c.toNat ≤ 90 ∨ 97 ≤ c.toNat ∧ c.toNat ≤ 122 := by
    rcases Bool.or_eq_true_iff.mp h with h | h
    · have hupper : 65 ≤ c.toNat ∧ c.toNat ≤ 90 := of_decide_eq_true h
      exact .inl hupper
    · obtain ⟨hlow, hhigh⟩ := Bool.and_eq_true_iff.mp h
      have hlower : 97 ≤ c.toNat ∧ c.toNat ≤ 122 :=
        ⟨of_decide_eq_true hlow, of_decide_eq_true hhigh⟩
      exact .inr hlower
  simp [Text.isBlank]
  omega

theorem trimRight_append {solid : List Char} (h : ∀ c ∈ solid, Text.isBlank c = false)
    (cs : List Char) : Text.trimRight (solid ++ cs) = solid ++ Text.trimRight cs := by
  induction solid with
  | nil => rfl
  | cons c solid ih =>
    rw [List.cons_append, Text.trimRight_cons, ih fun d hd => h d (List.mem_cons_of_mem _ hd)]
    simp [h c List.mem_cons_self]

/-- **Trimming leaves a header its word and its colon.** -/
theorem Opens.trim (h : Opens line word rest) :
    Opens (Text.trim line) word (Text.trimRight rest) := by
  obtain ⟨rfl, hne, hletters⟩ := h
  have hsolid : ∀ c ∈ word ++ [':'], Text.isBlank c = false := by
    intro c hc
    rcases List.mem_append.mp hc with hc | hc
    · exact not_isBlank_of_isAlpha (hletters c hc)
    · rw [List.mem_singleton.mp hc]
      rfl
  have hleft : Text.trimLeft (word ++ ':' :: rest) = word ++ ':' :: rest := by
    obtain ⟨c, word, rfl⟩ := List.exists_cons_of_ne_nil hne
    exact List.dropWhile_cons_of_neg (by simp [hsolid c (by simp)])
  have hright := trimRight_append hsolid rest
  refine ⟨?_, hne, hletters⟩
  rw [Text.trim, hleft]
  simpa using hright

theorem Recased.folded_eq (h : Recased raw raw') :
    (classify (Text.trim raw')).folded = (classify (Text.trim raw)).folded := by
  cases h with
  | same => rfl
  | @header front line line' word word' rest hfront hline hline' hword =>
    rw [Text.trim_blanks_append hfront, Text.trim_blanks_append hfront,
      classify_of_opens hline.trim, classify_of_opens hline'.trim, LineKind.folded, hword,
      LineKind.folded]

/-! ## Reports and rules -/

/-- **A report depends on no more than the folded shapes of the lines.** -/
theorem lint_of_shapes (h : List.Forall₂ (fun raw raw' =>
      (classify (Text.trim raw')).folded = (classify (Text.trim raw)).folded)
      (Text.lines document) (Text.lines document')) :
    lint document' = lint document := by
  have halike : List.Forall₂ (Line.Alike id) (significant document) (significant document') :=
    alike_filter (alike_toLines h fun _ _ => rfl)
  have hdiagnostic : Diagnostic.renumbered id = id := rfl
  have hsection : Section.renumbered id = id := rfl
  rw [lint_eq_reportOf, lint_eq_reportOf document, ← h.length_eq, reportOf_alike halike rfl,
    hdiagnostic, hsection, List.map_id, List.map_id]
  rfl

theorem lint_of_padded (h : List.Forall₂ Padded (Text.lines document) (Text.lines document')) :
    lint document' = lint document :=
  lint_of_shapes (h.imp fun _ _ hpad => by rw [hpad.trim_eq])

theorem Rule.ofLine?_of_padded (h : Padded raw raw') : Rule.ofLine? raw' = Rule.ofLine? raw := by
  unfold Rule.ofLine?
  rw [h.trim_eq]

theorem rules_of_padded (h : List.Forall₂ Padded (Text.lines document) (Text.lines document')) :
    rules document' = rules document := by
  unfold rules
  generalize Text.lines document = raws, Text.lines document' = raws' at h
  induction h with
  | nil => rfl
  | cons hpad _ ih =>
    rw [List.filterMap_cons, List.filterMap_cons, Rule.ofLine?_of_padded hpad, ih]

/-- **Line ends, indentation and the case of keywords make no difference.** -/
theorem layout_is_ignored (document padded recased : List Char)
    (hpadded : List.Forall₂ Padded (Text.lines document) (Text.lines padded))
    (hrecased : List.Forall₂ Recased (Text.lines document) (Text.lines recased)) :
    lint padded = lint document ∧ rules padded = rules document ∧
      lint (returned document) = lint document ∧ rules (returned document) = rules document ∧
      lint recased = lint document := by
  have hreturned := padded_returned document
  have hcase : lint recased = lint document :=
    lint_of_shapes (hrecased.imp fun _ _ h => h.folded_eq)
  exact ⟨lint_of_padded hpadded, rules_of_padded hpadded, lint_of_padded hreturned,
    rules_of_padded hreturned, hcase⟩

/-- A known header, an unknown one and a rule, indented and in another case. -/
theorem layout_of_three_lines :
    let document := "rule:\nfoo: x\n- if a then b".toList
    let padded := "\trule: \nfoo: x\u3000\n  - if a then b\r".toList
    let recased := "Rule:\nFoO: x\n- if a then b".toList
    List.Forall₂ Padded (Text.lines document) (Text.lines padded) ∧
      List.Forall₂ Recased (Text.lines document) (Text.lines recased) ∧
      returned document = "rule:\r\nfoo: x\r\n- if a then b".toList ∧
      (lint padded).diagnostics.take 2 = [⟨1, .noContent .rule⟩, ⟨2, .unknownKeyword "FOO"⟩] ∧
      lint recased = lint padded ∧ rules padded = [⟨['a'], ['b']⟩] := by
  intro document padded recased
  have hpadded : List.Forall₂ Padded (Text.lines document) (Text.lines padded) :=
    .cons ⟨['\t'], [' '], rfl, List.all_eq_true.mp rfl, List.all_eq_true.mp rfl⟩
      (.cons ⟨[], ['\u3000'], rfl, List.all_eq_true.mp rfl, List.all_eq_true.mp rfl⟩
        (.cons ⟨[' ', ' '], ['\r'], rfl, List.all_eq_true.mp rfl, List.all_eq_true.mp rfl⟩ .nil))
  have hnone : ∀ c ∈ ([] : List Char), Text.isBlank c = true := by simp
  have hrule : Opens "rule:".toList "rule".toList [] := ⟨rfl, by decide, List.all_eq_true.mp rfl⟩
  have hrule' : Opens "Rule:".toList "Rule".toList [] := ⟨rfl, by decide, List.all_eq_true.mp rfl⟩
  have hfoo : Opens "foo: x".toList "foo".toList " x".toList :=
    ⟨rfl, by decide, List.all_eq_true.mp rfl⟩
  have hfoo' : Opens "FoO: x".toList "FoO".toList " x".toList :=
    ⟨rfl, by decide, List.all_eq_true.mp rfl⟩
  have hrecased : List.Forall₂ Recased (Text.lines document) (Text.lines recased) :=
    .cons (.header hnone hrule hrule' (by decide))
      (.cons (.header hnone hfoo hfoo' (by decide)) (.cons (.same _) .nil))
  obtain ⟨hlint, hrules, -, -, hcase⟩ := layout_is_ignored document padded recased hpadded hrecased
  exact ⟨hpadded, hrecased, by decide, by rw [hlint]; decide +kernel, hcase.trans hlint.symm,
    hrules.trans (by decide)⟩

end PolicyGate.Policy
