import Mathlib.Data.List.Basic
import Mathlib.Data.List.Find
import PolicyGate.Proofs.Policy.Grammar

/-!
# The report, line by line

What linting reports, said of the trimmed texts of the lines. Each line is looked at by itself, with
the texts before it and after it; nothing is carried from one line to the next.

* `headerKeyword?` — the keyword that a header means, in any case of its letters.
* `Vacant` — a header with nothing after its colon, before another header or the end.
* `lineDefects` — all that is wrong with one line, and `defectsByLine` with all lines in order.
* `missingFrom` — the keywords that no header means and that are not optional.
* `sectionsByLine` — the sections of the known headers.

**Theorem (`report_line_by_line`).** The report of a document with fewer lines than there are line
numbers is the one of its texts, and its diagnostics are in the order of their lines.

The pass is brought to the form of `lint_diagnostics` and `sections_scan`, where the state is gone.
Then the lines of a document are replaced by their texts, which tell the same (`Line.Faithful`).
-/

namespace PolicyGate.Policy

/-! ## What a text tells -/

instance : DecidablePred IsHeader := fun line => decidable_of_iff _ (isHeader_iff line).symm

instance (line : List Char) (k : Keyword) : Decidable (Names line k) :=
  decidable_of_iff _ (Line.Faithful.names_iff (l := ⟨0, line, classify line⟩) rfl k).symm

/-- A line without content: blank, or a comment. -/
def Ignored (line : List Char) : Prop := line = [] ∨ ['/', '/'] <+: line ∨ ['#'] <+: line

instance : DecidablePred Ignored := fun line =>
  inferInstanceAs (Decidable (line = [] ∨ ['/', '/'] <+: line ∨ ['#'] <+: line))

/-- The keyword that a header means. -/
def headerKeyword? (line : List Char) : Option Keyword :=
  Keyword.canonical.find? fun k => Names line k

/-- The keywords that the headers among some lines mean, in order. -/
def keywordsOf (lines : List (List Char)) : List Keyword := lines.filterMap headerKeyword?

/-- The first line with content. -/
def firstContent? (lines : List (List Char)) : Option (List Char) :=
  lines.find? fun line => ¬ Ignored line

/-- A header with nothing after its colon. -/
def Bare (line : List Char) : Prop := ∃ word, Opens line word []

theorem Opens.takeWhile_eq {line word rest : List Char} (h : Opens line word rest) :
    line.takeWhile Char.isAlpha = word := by
  rw [h.eq, List.takeWhile_append_of_pos h.letters]
  simp

theorem bare_iff (line : List Char) :
    Bare line ↔ classify line = .header (line.takeWhile Char.isAlpha) false := by
  constructor
  · rintro ⟨word, h⟩
    rw [h.takeWhile_eq]
    exact classify_of_opens h
  · intro h
    exact ⟨_, (opens_nil_iff line _).mpr h⟩

instance : DecidablePred Bare := fun line => decidable_of_iff _ (bare_iff line).symm

/-- A header with nothing after its colon, and no content before another header or the end. -/
def Vacant (line : List Char) (after : List (List Char)) : Prop :=
  Bare line ∧ ∀ next ∈ firstContent? after, IsHeader next

instance (line : List Char) (after : List (List Char)) : Decidable (Vacant line after) :=
  inferInstanceAs (Decidable (_ ∧ _))

/-! ## What texts are reported for -/

/-- What is wrong with a line. -/
def lineDefects (before : List (List Char)) (line : List Char) (after : List (List Char)) :
    List Defect :=
  if Ignored line then []
  else if IsHeader line then
    match headerKeyword? line with
    | none => [.unknownKeyword (String.ofList ((line.takeWhile Char.isAlpha).map Char.toUpper))]
    | some k =>
      (if k ∈ keywordsOf before then [.duplicate k] else []) ++
      (if ∃ last ∈ (keywordsOf before).getLast?, k.index < last.index then [.outOfOrder k]
        else []) ++
      (if Vacant line after then [.noContent k] else [])
  else if keywordsOf before ≠ [] then []
  else if ['-'] <+: line then [.strayItem] else [.strayText]

/-- What a header's section holds. -/
def bodyOf (line : List Char) (after : List (List Char)) : Body :=
  if Vacant line after then .empty else if Bare line then .block else .inlined

/-- The defects of all lines in order. Lines are numbered from one. -/
def defectsByLine (texts : List (List Char)) : List Diagnostic :=
  texts.zipIdx.flatMap fun (line, i) =>
    (lineDefects (texts.take i) line (texts.drop (i + 1))).map (Diagnostic.mk (i + 1))

/-- The keywords that no header means, without the two that may be left out. -/
def missingFrom (texts : List (List Char)) : List Keyword :=
  Keyword.canonical.filter fun k => k ≠ .assumption ∧ k ≠ .review ∧ k ∉ keywordsOf texts

/-- The sections of the known headers in order. -/
def sectionsByLine (texts : List (List Char)) : List Section :=
  texts.zipIdx.filterMap fun (line, i) =>
    (headerKeyword? line).map fun k => ⟨k, i + 1, bodyOf line (texts.drop (i + 1))⟩

/-! ## Lines and their texts -/

/-- Of the lines that are no headers, the list items start with a hyphen. -/
theorem hyphen_iff {line : List Char} (h : classify line = .listItem ∨ classify line = .text) :
    ['-'] <+: line ↔ classify line = .listItem := by
  have hp : ['-'] <+: line ↔ line.head? = some '-' := by
    cases line with
    | nil => simp
    | cons c cs => simp [List.cons_prefix_cons, eq_comm]
  rw [hp]
  revert h
  fun_cases classify line <;> simp_all

namespace Line.Faithful

variable {l : Line}

theorem ignored_iff (h : l.Faithful) : Ignored l.text ↔ l.isSignificant = false := by
  unfold Ignored isSignificant
  rw [h, ← Bool.not_eq_true, isSignificant_classify, not_and_or, not_and_or, not_not, not_not,
    not_not]

theorem headerKeyword?_eq (h : l.Faithful) : headerKeyword? l.text = l.keyword? := by
  unfold headerKeyword?
  cases hk : l.keyword? with
  | none =>
    rw [List.find?_eq_none]
    intro k _
    rw [decide_eq_true_iff, h.names_iff, hk]
    exact nofun
  | some k =>
    have hn : Names l.text k := (h.names_iff k).mpr hk
    cases hf : Keyword.canonical.find? fun k => Names l.text k with
    | none =>
      have := List.find?_eq_none.mp hf k (Keyword.mem_canonical k)
      exact absurd (decide_eq_true hn) this
    | some j =>
      have hj : Names l.text j := by simpa using List.find?_some hf
      rw [← (h.names_iff j).mp hj, hk]

theorem bare_text_iff (h : l.Faithful) : Bare l.text ↔ ∃ word, l.kind = .header word false := by
  rw [h]
  exact exists_congr fun word => opens_nil_iff l.text word

end Line.Faithful

namespace Lint

variable {lines : List Line}

theorem keywordsOf_text (hf : ∀ l ∈ lines, l.Faithful) :
    keywordsOf (lines.map Line.text) = named lines := by
  unfold keywordsOf named
  rw [List.filterMap_map]
  exact List.filterMap_congr fun l hl => (hf l hl).headerKeyword?_eq

theorem firstContent?_text (hf : ∀ l ∈ lines, l.Faithful) :
    firstContent? (lines.map Line.text) = (lines.find? Line.isSignificant).map Line.text := by
  unfold firstContent?
  rw [List.find?_map]
  refine congrArg _ (List.find?_congr fun l hl => ?_)
  simp [(hf l hl).ignored_iff]

/-- A header with nothing after its colon is vacant if what follows it is no body. -/
theorem vacant_text_iff {l : Line} (hl : l.Faithful) (hf : ∀ l ∈ lines, l.Faithful) :
    Vacant l.text (lines.map Line.text) ↔
      (∃ word, l.kind = .header word false) ∧ followingBody lines = .empty := by
  unfold Vacant followingBody
  rw [hl.bare_text_iff, firstContent?_text hf]
  refine and_congr_right fun _ => ?_
  cases hn : lines.find? Line.isSignificant with
  | none => simp
  | some next =>
    have hnext := hf next (List.mem_of_find?_eq_some hn)
    simp [hnext.isHeader_iff]

/-- **A line is told alike by its text.** -/
theorem lineDefects_text {before after : List Line} {l : Line} (hb : ∀ l ∈ before, l.Faithful)
    (hl : l.Faithful) (ha : ∀ l ∈ after, l.Faithful) :
    lineDefects (before.map Line.text) l.text (after.map Line.text) =
      defects (named before) l after := by
  have hi := hl.ignored_iff
  have hh := hl.isHeader_iff
  have hv := vacant_text_iff hl ha
  have hk := hl.headerKeyword?_eq
  unfold lineDefects defects
  rw [keywordsOf_text hb]
  unfold Line.isSignificant at hi
  unfold Line.keyword? at hk
  cases hkind : l.kind with
  | blank | comment => simp [hi, hkind, LineKind.isSignificant]
  | listItem =>
    have hyphen : ['-'] <+: l.text :=
      (hyphen_iff (.inl (hl.symm.trans hkind))).mpr (hl.symm.trans hkind)
    by_cases hn : named before = [] <;>
      simp [hi, hh, hkind, LineKind.isSignificant, LineKind.isHeader, hn, hyphen]
  | text =>
    have hyphen : ¬ ['-'] <+: l.text := by
      rw [hyphen_iff (.inr (hl.symm.trans hkind)), ← hl, hkind]
      simp
    by_cases hn : named before = [] <;>
      simp [hi, hh, hkind, LineKind.isSignificant, LineKind.isHeader, hn, hyphen]
  | header word inlined =>
    obtain ⟨rest, hopens, -⟩ := opens_of_classify (hl.symm.trans hkind)
    have hbody : Vacant l.text (after.map Line.text) ↔
        (if inlined then Body.inlined else followingBody after) = .empty := by
      rw [hv, hkind]
      cases inlined <;> simp
    rw [if_neg (by simp [hi, hkind, LineKind.isSignificant]),
      if_pos (by simp [hh, hkind, LineKind.isHeader]), hk, hkind, hopens.takeWhile_eq]
    simp only
    cases keyword? word with
    | none => rfl
    | some k =>
      simp only [headerDefects, hbody]
      congr 3
      simp [Option.any_eq_true]

theorem bodyOf_text {after : List Line} {l : Line} {word : List Char} {inlined : Bool}
    (hl : l.Faithful) (ha : ∀ l ∈ after, l.Faithful) (hk : l.kind = .header word inlined) :
    bodyOf l.text (after.map Line.text) = if inlined then .inlined else followingBody after := by
  have hbare : Bare l.text ↔ inlined = false := by
    rw [hl.bare_text_iff, hk]
    simp
  have hvacant : Vacant l.text (after.map Line.text) ↔
      inlined = false ∧ followingBody after = .empty := by
    rw [vacant_text_iff hl ha, hk]
    simp
  have hnever : followingBody after ≠ .inlined := by
    unfold followingBody
    split
    · split <;> exact nofun
    · exact nofun
  unfold bodyOf
  simp only [hvacant, hbare]
  cases inlined with
  | true => rfl
  | false => cases hb : followingBody after <;> simp_all

/-! ## The sections of the pass -/

/-- The section that a line opens. -/
def section? (line : Line) (after : List Line) : Option Section :=
  match line.kind with
  | .header word inlined =>
    (keyword? word).map fun k => ⟨k, line.number, if inlined then .inlined else followingBody after⟩
  | _ => none

/-- The sections that lines open, in order. -/
def sectionsIn : List Line → List Section
  | [] => []
  | line :: after => (section? line after).toList ++ sectionsIn after

theorem sections_visit (p : Progress) (line : Line) (after : List Line) :
    (p.visit line after).sections.toList =
      p.sections.toList ++ (section? line after).toList := by
  unfold Progress.visit section?
  cases line.kind with
  | blank | comment => simp
  | listItem | text =>
    simp only [Progress.stray]
    split <;> simp
  | header word inlined =>
    cases hw : keyword? word with
    | none => simp [hw]
    | some k => simp [hw, Progress.enter]

/-- **A pass files the sections that its lines open.** -/
theorem sections_scan (p : Progress) (lines : List Line) :
    (p.scan lines).sections.toList = p.sections.toList ++ sectionsIn lines := by
  induction lines generalizing p with
  | nil => simp [Progress.scan, sectionsIn]
  | cons line after ih =>
    simp only [Progress.scan, sectionsIn]
    rw [ih, sections_visit, List.append_assoc]

theorem section?_text {after : List Line} {l : Line} (hl : l.Faithful)
    (ha : ∀ l ∈ after, l.Faithful) : section? l after =
      (headerKeyword? l.text).map fun k => ⟨k, l.number, bodyOf l.text (after.map Line.text)⟩ := by
  rw [hl.headerKeyword?_eq]
  unfold Line.keyword? section?
  cases hk : l.kind with
  | header word inlined => rw [bodyOf_text hl ha hk]
  | _ => rfl

/-! ## From the recursion to places -/

/-- What goes through a list with what came before and what comes after says one thing of each
place. -/
theorem eq_flatMap_zipIdx {α β : Type} (whole : List α → List α → List β)
    (part : List α → α → List α → List β) (hnil : ∀ before, whole before [] = [])
    (hcons : ∀ before a after,
      whole before (a :: after) = part before a after ++ whole (before ++ [a]) after)
    (before as : List α) :
    whole before as = (as.zipIdx before.length).flatMap fun x =>
      part ((before ++ as).take x.2) x.1 ((before ++ as).drop (x.2 + 1)) := by
  induction as generalizing before with
  | nil => exact hnil before
  | cons a after ih =>
    have hlength : (before ++ [a]).length = before.length + 1 := by simp
    have hsplit : before ++ a :: after = (before ++ [a]) ++ after := by simp
    have htake : (before ++ a :: after).take before.length = before := by simp
    have hdrop : (before ++ a :: after).drop (before.length + 1) = after := by
      rw [hsplit, ← hlength, List.drop_left]
    rw [hcons, ih, hlength, List.zipIdx_cons, List.flatMap_cons, htake, hdrop, hsplit]

theorem diagnose_eq_flatMap (lines : List Line) :
    diagnose [] lines = lines.zipIdx.flatMap fun (line, i) =>
      (defects (named (lines.take i)) line (lines.drop (i + 1))).map
        (Diagnostic.mk line.number) := by
  refine eq_flatMap_zipIdx (fun before lines => diagnose (named before) lines)
    (fun before line after => (defects (named before) line after).map (Diagnostic.mk line.number))
    (fun _ => rfl) (fun before line after => ?_) [] lines
  have hnamed : named (before ++ [line]) = named before ++ line.keyword?.toList := by
    unfold named
    rw [List.filterMap_append]
    cases hk : line.keyword? <;> simp [hk]
  rw [diagnose, hnamed]

theorem sectionsIn_eq_filterMap (lines : List Line) :
    sectionsIn lines =
      lines.zipIdx.filterMap fun (line, i) => section? line (lines.drop (i + 1)) := by
  rw [List.filterMap_eq_flatMap_toList]
  exact eq_flatMap_zipIdx (fun _ lines => sectionsIn lines)
    (fun _ line after => (section? line after).toList) (fun _ => rfl) (fun _ _ _ => rfl) [] lines

/-! ## The lines of a document -/

theorem number_of_mem_zipIdx {document : List Char}
    (h : (Text.lines document).length < Line.lastNumber) {l : Line} {i : Nat}
    (hl : (l, i) ∈ (linesOf document).zipIdx) : l.number = i + 1 := by
  rw [List.mk_mem_zipIdx_iff_getElem?] at hl
  unfold linesOf Cursor.toLines at hl
  rw [List.getElem?_mapIdx, Option.map_eq_some_iff] at hl
  obtain ⟨raw, hraw, rfl⟩ := hl
  have hi : i < (Text.lines document).length := (List.getElem?_eq_some_iff.mp hraw).1
  show min ((Cursor.start document).consumed + i + 1) Line.lastNumber = i + 1
  simp only [Cursor.start]
  omega

theorem map_text_linesOf (document : List Char) :
    (linesOf document).map Line.text = (Text.lines document).map Text.trim :=
  text_toLines (Cursor.start document)

/-- **The defects of a document are those of its texts.** -/
theorem diagnose_linesOf {document : List Char}
    (h : (Text.lines document).length < Line.lastNumber) :
    diagnose [] (linesOf document) = defectsByLine ((Text.lines document).map Text.trim) := by
  have hf : ∀ l ∈ linesOf document, l.Faithful := fun l hl => faithful_of_mem_linesOf hl
  unfold defectsByLine
  rw [diagnose_eq_flatMap, ← map_text_linesOf, List.zipIdx_map, List.flatMap_map]
  refine List.flatMap_congr fun ⟨l, i⟩ hl => ?_
  simp only [Prod.map, id, ← List.map_take, ← List.map_drop]
  rw [lineDefects_text (fun l hl => hf l (List.mem_of_mem_take hl))
    (hf l (List.fst_mem_of_mem_zipIdx hl)) (fun l hl => hf l (List.mem_of_mem_drop hl)),
    number_of_mem_zipIdx h hl]

/-- **The sections of a document are those of its texts.** -/
theorem sectionsIn_linesOf {document : List Char}
    (h : (Text.lines document).length < Line.lastNumber) :
    sectionsIn (linesOf document) = sectionsByLine ((Text.lines document).map Text.trim) := by
  have hf : ∀ l ∈ linesOf document, l.Faithful := fun l hl => faithful_of_mem_linesOf hl
  unfold sectionsByLine
  rw [sectionsIn_eq_filterMap, ← map_text_linesOf, List.zipIdx_map, List.filterMap_map]
  refine List.filterMap_congr fun ⟨l, i⟩ hl => ?_
  simp only [Function.comp_apply, Prod.map, id, ← List.map_drop]
  rw [section?_text (hf l (List.fst_mem_of_mem_zipIdx hl))
    (fun l hl => hf l (List.mem_of_mem_drop hl)), number_of_mem_zipIdx h hl]

theorem missing_linesOf (document : List Char) :
    (Keyword.canonical.filter fun k =>
      k.isMandatory && !(named (linesOf document)).contains k) =
      missingFrom ((Text.lines document).map Text.trim) := by
  unfold missingFrom
  rw [← map_text_linesOf, keywordsOf_text fun l hl => faithful_of_mem_linesOf hl]
  refine List.filter_congr fun k _ => ?_
  cases k <;> simp [Keyword.isMandatory]

end Lint

/-! ## The order of diagnostics -/

theorem lines_of_mem_defectsByLine {texts : List (List Char)} {d : Diagnostic}
    (h : d ∈ defectsByLine texts) : d.line ≤ texts.length := by
  obtain ⟨⟨line, i⟩, hi, hd⟩ := List.mem_flatMap.mp h
  obtain ⟨defect, -, rfl⟩ := List.mem_map.mp hd
  exact List.snd_lt_of_mem_zipIdx hi

theorem defectsByLine_ordered (texts : List (List Char)) :
    (defectsByLine texts).Pairwise fun d d' => d.line ≤ d'.line := by
  have places : texts.zipIdx.Pairwise fun x y => x.2 < y.2 := by
    have h : (texts.zipIdx.map Prod.snd).Pairwise (· < ·) := by
      rw [List.zipIdx_map_snd]
      exact List.pairwise_lt_range'
    exact List.pairwise_map.mp h
  unfold defectsByLine
  rw [List.pairwise_flatMap]
  constructor
  · rintro ⟨line, i⟩ -
    rw [List.pairwise_map]
    exact List.pairwise_of_forall fun _ _ => Nat.le_refl _
  · refine places.imp fun {x y} hlt d hd d' hd' => ?_
    obtain ⟨_, -, rfl⟩ := List.mem_map.mp hd
    obtain ⟨_, -, rfl⟩ := List.mem_map.mp hd'
    exact Nat.succ_le_succ (Nat.le_of_lt hlt)

/-! ## The report -/

open Lint

/-- **The report is made line by line.** The diagnostics of a document are the defects of each line,
told from the texts before it and after it, and then one for each missing keyword past the last
line. Their lines never decrease. The sections are the known headers. -/
theorem report_line_by_line (document : List Char)
    (h : (Text.lines document).length < Line.lastNumber) :
    let texts := (Text.lines document).map Text.trim
    let report := lint document
    report.diagnostics = defectsByLine texts ++
        (missingFrom texts).map (fun k => ⟨document.count '\n' + 2, .missing k⟩) ∧
      report.diagnostics.Pairwise (fun d d' => d.line ≤ d'.line) ∧
      report.sections = sectionsByLine texts ∧
      report.lineCount = document.count '\n' + 1 := by
  intro texts report
  have hlength : (Text.lines document).length = document.count '\n' + 1 :=
    Text.length_pieces '\n' document
  have hcount : report.lineCount = document.count '\n' + 1 := by
    show min (0 + (Text.lines document).length) Line.lastNumber = _
    omega
  have hdiagnostics : report.diagnostics = defectsByLine texts ++
      (missingFrom texts).map fun k => ⟨document.count '\n' + 2, .missing k⟩ := by
    have hlast : min (report.lineCount + 1) Line.lastNumber = document.count '\n' + 2 := by omega
    have hlint := lint_diagnostics document
    rw [hlast, diagnose_linesOf h, missing_linesOf] at hlint
    exact hlint
  refine ⟨hdiagnostics, ?_, ?_, hcount⟩
  · rw [hdiagnostics, List.pairwise_append]
    refine ⟨defectsByLine_ordered texts, ?_, fun d hd d' hd' => ?_⟩
    · rw [List.pairwise_map]
      exact List.pairwise_of_forall fun _ _ => Nat.le_refl _
    · obtain ⟨k, -, rfl⟩ := List.mem_map.mp hd'
      have hle := lines_of_mem_defectsByLine hd
      rw [List.length_map, hlength] at hle
      exact Nat.le_succ_of_le hle
  · have hscan := sections_scan .empty (linesOf document)
    rw [Progress.empty, List.nil_append, sectionsIn_linesOf h] at hscan
    exact hscan

/-- Stray text, an unknown header, an empty section, disorder, a header met again, and what is
missing. The comment and the list item are in their places. -/
theorem report_of_disorder :
    let document := "x\n# c\nFOO:\nRULE:\nINTENT: a\nintent:\n- b".toList
    (Text.lines document).length < Line.lastNumber ∧
      (lint document).diagnostics =
        [⟨1, .strayText⟩, ⟨3, .unknownKeyword "FOO"⟩, ⟨4, .noContent .rule⟩,
          ⟨5, .outOfOrder .intent⟩, ⟨6, .duplicate .intent⟩, ⟨8, .missing .actor⟩, ⟨8, .missing .context⟩,
          ⟨8, .missing .constraint⟩, ⟨8, .missing .impact⟩, ⟨8, .missing .trace⟩] ∧
      (lint document).sections =
        [⟨.rule, 4, .empty⟩, ⟨.intent, 5, .inlined⟩, ⟨.intent, 6, .block⟩] := by
  intro document
  have hlines : (Text.lines document).length < Line.lastNumber := by decide +kernel
  obtain ⟨hdiagnostics, -, hsections, -⟩ := report_line_by_line document hlines
  exact ⟨hlines, hdiagnostics.trans (by decide +kernel), hsections.trans (by decide +kernel)⟩

end PolicyGate.Policy
