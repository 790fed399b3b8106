import Mathlib.Data.List.TakeWhile
import PolicyGate.Proofs.Policy.Diagnosis

/-!
# The section grammar, declared

What a clean document looks like, said of its lines as texts and without the pass that checks them.
Only the *content* counts: the trimmed lines that are neither blank nor comments.

* `Opens` — a line opens a section: ASCII letters, a colon, and whatever follows.
* `Names` — the letters mean a keyword, in any case.
* `Grammatical` — the five conditions on the content of a document.

**Theorem (`clean_iff_grammatical`).** Linting a document reports nothing exactly if its content is
grammatical.

The proof works on the significant lines, where nothing but the next line is ahead of a line. The
pass finds nothing in them if and only if they start with a header, every header is known, the
keywords come in strict canonical order, and no empty header stands before another header or at the
end (`diagnose_eq_nil_iff`). The order needs an induction with the keywords named so far: they are
in strict order, so a keyword that is not below the last one and not among them is above them all.
-/

namespace PolicyGate.Policy

/-! ## The grammar -/

/-- A line that opens a section: a word of ASCII letters, a colon, and the rest. -/
structure Opens (line word rest : List Char) : Prop where
  eq : line = word ++ ':' :: rest
  word_ne_nil : word ≠ []
  letters : ∀ c ∈ word, c.isAlpha = true

/-- A line is a header. -/
def IsHeader (line : List Char) : Prop := ∃ word rest, Opens line word rest

/-- A header's word in upper case is the name of a keyword. -/
def Names (line : List Char) (k : Keyword) : Prop :=
  ∃ word rest, Opens line word rest ∧ String.ofList (word.map Char.toUpper) = k.name

/-- The trimmed lines of a document without blank lines and comments. -/
def content (document : List Char) : List (List Char) :=
  ((Text.lines document).map Text.trim).filter fun line =>
    line ≠ [] ∧ ¬ ['/', '/'] <+: line ∧ ¬ ['#'] <+: line

/-- The content of a document without defects. -/
structure Grammatical (lines : List (List Char)) : Prop where
  /-- The first line is a header. -/
  starts : ∃ first rest, lines = first :: rest ∧ IsHeader first
  /-- Every header is known. -/
  known : ∀ line ∈ lines, IsHeader line → ∃ k, Names line k
  /-- Keywords come in strict canonical order. -/
  ordered : lines.Pairwise fun line line' =>
    ∀ j k, Names line j → Names line' k → j.index < k.index
  /-- All keywords occur but the two that may be left out. -/
  complete : ∀ k : Keyword, k ≠ .assumption → k ≠ .review → ∃ line ∈ lines, Names line k
  /-- A header with nothing after its colon is followed by a line that is not a header. -/
  filled : ∀ before line after word, lines = before ++ line :: after → Opens line word [] →
    ∃ next rest, after = next :: rest ∧ ¬ IsHeader next

/-! ## Shapes of lines -/

theorem classify_of_opens {line word rest : List Char} (h : Opens line word rest) :
    classify line = .header word (!rest.isEmpty) := by
  obtain ⟨rfl, hne, hw⟩ := h
  obtain ⟨c, word, rfl⟩ := List.exists_cons_of_ne_nil hne
  have hc : c.isAlpha = true := hw c List.mem_cons_self
  have htake : (c :: word ++ ':' :: rest).takeWhile Char.isAlpha = c :: word := by
    rw [List.takeWhile_append_of_pos hw]
    simp
  have hdrop : (c :: word ++ ':' :: rest).dropWhile Char.isAlpha = ':' :: rest := by
    rw [List.dropWhile_append_of_pos hw]
    simp
  rw [List.cons_append] at htake hdrop ⊢
  unfold classify
  split
  · simp_all
  · exact absurd hc (by simp_all)
  · exact absurd hc (by simp_all)
  · rw [htake, hdrop]
    rfl

theorem opens_of_classify {line word : List Char} {inlined : Bool}
    (h : classify line = .header word inlined) :
    ∃ rest, Opens line word rest ∧ inlined = !rest.isEmpty := by
  unfold classify at h
  split at h
  · cases h
  · cases h
  · cases h
  · split at h
    · next c w rest ht hd =>
      obtain ⟨rfl, rfl⟩ := LineKind.header.inj h
      refine ⟨rest, ⟨?_, by simp, fun d hm => ?_⟩, rfl⟩
      · rw [← ht, ← hd, List.takeWhile_append_dropWhile]
      · rw [← ht] at hm
        exact List.mem_takeWhile_imp hm
    · split at h <;> cases h

theorem isHeader_iff (line : List Char) : IsHeader line ↔ (classify line).isHeader = true := by
  constructor
  · rintro ⟨word, rest, h⟩
    rw [classify_of_opens h]
    rfl
  · intro h
    cases hk : classify line with
    | header word inlined =>
      obtain ⟨rest, ho, -⟩ := opens_of_classify hk
      exact ⟨word, rest, ho⟩
    | blank | comment | listItem | text => simp [hk, LineKind.isHeader] at h

theorem opens_nil_iff (line word : List Char) :
    Opens line word [] ↔ classify line = .header word false := by
  constructor
  · exact classify_of_opens
  · intro h
    obtain ⟨rest, ho, he⟩ := opens_of_classify h
    obtain rfl : rest = [] := by simpa using he
    exact ho

theorem isSignificant_classify (line : List Char) :
    (classify line).isSignificant = true ↔
      line ≠ [] ∧ ¬ ['/', '/'] <+: line ∧ ¬ ['#'] <+: line := by
  have hs : ['/', '/'] <+: line ↔ ∃ rest, line = '/' :: '/' :: rest :=
    ⟨fun ⟨t, ht⟩ => ⟨t, ht.symm⟩, fun ⟨t, ht⟩ => ⟨t, ht.symm⟩⟩
  have hh : ['#'] <+: line ↔ ∃ rest, line = '#' :: rest :=
    ⟨fun ⟨t, ht⟩ => ⟨t, ht.symm⟩, fun ⟨t, ht⟩ => ⟨t, ht.symm⟩⟩
  rw [hs, hh]
  fun_cases classify line <;> simp_all [LineKind.isSignificant]

/-- A line whose shape is that of its text, as those of a document are. -/
def Line.Faithful (l : Line) : Prop := l.kind = classify l.text

theorem Line.Faithful.isHeader_iff {l : Line} (h : l.Faithful) :
    IsHeader l.text ↔ l.kind.isHeader = true := by
  rw [Policy.isHeader_iff, h]

theorem Line.Faithful.names_iff {l : Line} (h : l.Faithful) (k : Keyword) :
    Names l.text k ↔ l.keyword? = some k := by
  unfold Line.keyword?
  rw [h]
  constructor
  · rintro ⟨word, rest, ho, hn⟩
    rw [classify_of_opens ho]
    show Keyword.parse? (String.ofList (word.map Char.toUpper)) = some k
    rw [hn, Keyword.parse?_name]
  · intro hk
    cases hc : classify l.text with
    | header word inlined =>
      rw [hc] at hk
      obtain ⟨rest, ho, -⟩ := opens_of_classify hc
      exact ⟨word, rest, ho, (Keyword.name_of_parse? hk).symm⟩
    | blank | comment | listItem | text => simp [hc] at hk

namespace Lint

/-! ## The lines of a document -/

theorem text_toLines (c : Cursor) : c.toLines.map Line.text = c.rest.map Text.trim := by
  obtain ⟨consumed, rest⟩ := c
  induction rest generalizing consumed with
  | nil => rfl
  | cons raw rest ih =>
    rw [Cursor.next_eq, List.map_cons]
    exact congrArg (_ :: ·) (ih (consumed + 1))

theorem faithful_of_mem_linesOf {document : List Char} {l : Line} (h : l ∈ linesOf document) :
    l.Faithful := by
  obtain ⟨i, hi, rfl⟩ := List.mem_mapIdx.mp h
  rfl

/-- The significant lines of a document. -/
def significant (document : List Char) : List Line :=
  (linesOf document).filter Line.isSignificant

theorem text_significant (document : List Char) :
    (significant document).map Line.text = content document := by
  have ht : (Text.lines document).map Text.trim = (linesOf document).map Line.text :=
    (text_toLines (Cursor.start document)).symm
  unfold significant content
  rw [ht, List.filter_map]
  refine congrArg _ (List.filter_congr fun l hl => ?_)
  show l.kind.isSignificant = _
  rw [Bool.eq_iff_iff, faithful_of_mem_linesOf hl, isSignificant_classify]
  simp

/-! ## When nothing is found -/

/-- Keywords in strict canonical order. -/
def Ascending (ks : List Keyword) : Prop := ks.Pairwise fun j k => j.index < k.index

theorem ascending_snoc {before : List Keyword} (h : Ascending before) (k : Keyword) :
    Ascending (before ++ [k]) ↔
      k ∉ before ∧ before.getLast?.any (fun last => k.index < last.index) = false := by
  unfold Ascending at h ⊢
  rw [List.pairwise_append]
  constructor
  · rintro ⟨-, -, hlt⟩
    refine ⟨fun hm => absurd (hlt k hm k List.mem_cons_self) (Nat.lt_irrefl _), ?_⟩
    cases hl : before.getLast? with
    | none => rfl
    | some last =>
      have := hlt last (List.mem_of_getLast? hl) k List.mem_cons_self
      simp only [Option.any_some, decide_eq_false_iff_not]
      omega
  · rintro ⟨hm, hl⟩
    refine ⟨h, List.pairwise_singleton _ _, fun j hj k' hk' => ?_⟩
    obtain rfl : k' = k := by simpa using hk'
    obtain ⟨last, hgl⟩ : ∃ last, before.getLast? = some last :=
      ⟨_, List.getLast?_eq_some_getLast (List.ne_nil_of_mem hj)⟩
    obtain ⟨init, rfl⟩ := List.getLast?_eq_some_iff.mp hgl
    have hlast : last.index ≤ k'.index := by simpa using hl
    have hle : j.index ≤ last.index := by
      rcases List.mem_append.mp hj with hi | hi
      · exact Nat.le_of_lt ((List.pairwise_append.mp h).2.2 j hi last List.mem_cons_self)
      · obtain rfl : j = last := by simpa using hi
        exact Nat.le_refl _
    have hne : j.index ≠ k'.index := fun he => hm (Keyword.index_injective he ▸ hj)
    omega

/-- Every header with nothing after its colon is followed by a line that is no header. -/
def Filled (lines : List Line) : Prop :=
  ∀ before line after word, lines = before ++ line :: after → line.kind = .header word false →
    ∃ next rest, after = next :: rest ∧ next.kind.isHeader = false

theorem filled_cons (line : Line) (after : List Line) :
    Filled (line :: after) ↔
      (∀ word, line.kind = .header word false →
        ∃ next rest, after = next :: rest ∧ next.kind.isHeader = false) ∧ Filled after := by
  constructor
  · intro h
    refine ⟨fun word hk => h [] line after word rfl hk, fun before l rest word he hk => ?_⟩
    exact h (line :: before) l rest word (by rw [he]; rfl) hk
  · rintro ⟨hl, ha⟩ before l rest word he hk
    cases before with
    | nil =>
      obtain ⟨rfl, rfl⟩ := List.cons.inj he
      exact hl word hk
    | cons b before =>
      obtain ⟨rfl, rfl⟩ := List.cons.inj he
      exact ha before l rest word rfl hk

theorem followingBody_eq_empty_iff {after : List Line}
    (hs : ∀ l ∈ after, l.isSignificant = true) :
    followingBody after ≠ .empty ↔
      ∃ next rest, after = next :: rest ∧ next.kind.isHeader = false := by
  unfold followingBody
  cases after with
  | nil => simp
  | cons next rest =>
    rw [List.find?_cons_of_pos (hs next List.mem_cons_self)]
    cases hk : next.kind.isHeader <;> simp [hk]

/-- **When lines have no defects.** Of significant lines, with keywords in strict order before. -/
theorem diagnose_eq_nil_iff {before : List Keyword} {lines : List Line} (hb : Ascending before)
    (hs : ∀ l ∈ lines, l.isSignificant = true) :
    diagnose before lines = [] ↔
      (before = [] → ∀ l ∈ lines.head?, l.kind.isHeader = true) ∧
      (∀ l ∈ lines, l.kind.isHeader = true → ∃ k, l.keyword? = some k) ∧
      Ascending (before ++ named lines) ∧ Filled lines := by
  induction lines generalizing before with
  | nil => simp [diagnose, named, hb, Filled]
  | cons line after ih =>
    have hsa : ∀ l ∈ after, l.isSignificant = true := fun l hl => hs l (List.mem_cons_of_mem _ hl)
    have hsl := hs line List.mem_cons_self
    unfold Line.isSignificant at hsl
    rw [diagnose, List.append_eq_nil_iff, List.map_eq_nil_iff, named_cons, filled_cons,
      List.forall_mem_cons, List.head?_cons]
    cases hk : line.kind with
    | blank | comment => simp [hk, LineKind.isSignificant] at hsl
    | listItem | text =>
      -- The line names nothing, and is in its place if some keyword came before.
      have hname : line.keyword? = none := by simp [Line.keyword?, hk]
      have hd : defects before line after = [] ↔ before ≠ [] := by
        by_cases hn : before = [] <;> simp [defects, hk, hn]
      rw [hd, hname, Option.toList_none, List.append_nil, List.nil_append, ih hb hsa]
      by_cases hn : before = [] <;> simp [hn, hk, LineKind.isHeader]
    | header word inlined =>
      have hname : line.keyword? = keyword? word := by simp [Line.keyword?, hk]
      cases hw : keyword? word with
      | none => simp [defects, hname, hw, hk, LineKind.isHeader]
      | some k =>
        have hbody : (if inlined = true then Body.inlined else followingBody after) ≠ .empty ↔
            (inlined = false → ∃ next rest, after = next :: rest ∧ next.kind.isHeader = false) := by
          cases inlined <;> simp [followingBody_eq_empty_iff hsa]
        have hd : defects before line after = [] ↔ Ascending (before ++ [k]) ∧
            (inlined = false → ∃ next rest, after = next :: rest ∧ next.kind.isHeader = false) := by
          rw [← hbody, ascending_snoc hb]
          simp [defects, hk, hw, headerDefects, and_assoc]
        rw [hd, hname, hw, Option.toList_some, ← List.append_assoc]
        constructor
        · rintro ⟨⟨hasc, hfill⟩, hafter⟩
          obtain ⟨-, hknown, hall, hfilled⟩ := (ih hasc hsa).mp hafter
          refine ⟨fun _ l hl => ?_, ⟨fun _ => ⟨k, rfl⟩, hknown⟩, hall, fun w he => ?_, hfilled⟩
          · obtain rfl : line = l := by simpa using hl
            rw [hk]
            rfl
          · exact hfill (LineKind.header.inj he).2
        · rintro ⟨-, ⟨-, hknown⟩, hall, hfill, hfilled⟩
          have hasc : Ascending (before ++ [k]) := (List.pairwise_append.mp hall).1
          have hnil : before ++ [k] ≠ [] := by simp
          exact ⟨⟨hasc, fun hi => hfill word (by rw [hi])⟩,
            (ih hasc hsa).mpr ⟨fun h => absurd h hnil, hknown, hall, hfilled⟩⟩

/-! ## From lines to their texts -/

section Texts

variable {lines : List Line}

theorem starts_iff (hf : ∀ l ∈ lines, l.Faithful) :
    (∃ first rest, lines.map Line.text = first :: rest ∧ IsHeader first) ↔
      ∃ l ∈ lines.head?, l.kind.isHeader = true := by
  cases lines with
  | nil => simp
  | cons line after =>
    have hl := (hf line List.mem_cons_self).isHeader_iff
    simp [hl]

theorem known_iff (hf : ∀ l ∈ lines, l.Faithful) :
    (∀ line ∈ lines.map Line.text, IsHeader line → ∃ k, Names line k) ↔
      ∀ l ∈ lines, l.kind.isHeader = true → ∃ k, l.keyword? = some k := by
  rw [List.forall_mem_map]
  refine forall₂_congr fun l hl => ?_
  rw [(hf l hl).isHeader_iff]
  simp only [(hf l hl).names_iff]

theorem ordered_iff (hf : ∀ l ∈ lines, l.Faithful) :
    ((lines.map Line.text).Pairwise fun line line' =>
      ∀ j k, Names line j → Names line' k → j.index < k.index) ↔ Ascending (named lines) := by
  unfold Ascending named
  rw [List.pairwise_map, List.pairwise_filterMap]
  refine List.Pairwise.iff_of_mem fun {l l'} hl hl' => ?_
  simp only [(hf l hl).names_iff, (hf l' hl').names_iff]
  exact ⟨fun h j hj k hk => h j k hj hk, fun h j k hj hk => h j hj k hk⟩

theorem names_iff_mem_named (hf : ∀ l ∈ lines, l.Faithful) (k : Keyword) :
    (∃ line ∈ lines.map Line.text, Names line k) ↔ k ∈ named lines := by
  unfold named
  rw [List.mem_filterMap]
  constructor
  · rintro ⟨line, hm, hn⟩
    obtain ⟨l, hl, rfl⟩ := List.mem_map.mp hm
    exact ⟨l, hl, ((hf l hl).names_iff k).mp hn⟩
  · rintro ⟨l, hl, hk⟩
    exact ⟨l.text, List.mem_map_of_mem hl, ((hf l hl).names_iff k).mpr hk⟩

theorem filled_iff (hf : ∀ l ∈ lines, l.Faithful) :
    (∀ before line after word, lines.map Line.text = before ++ line :: after →
      Opens line word [] → ∃ next rest, after = next :: rest ∧ ¬ IsHeader next) ↔
      Filled lines := by
  constructor
  · intro h before line after word he hk
    have hl : line ∈ lines := he ▸ List.mem_append_right _ List.mem_cons_self
    have ho : Opens line.text word [] := (opens_nil_iff _ _).mpr ((hf line hl).symm.trans hk)
    obtain ⟨next, rest, ha, hn⟩ := h (before.map Line.text) line.text (after.map Line.text) word
      (by rw [he, List.map_append, List.map_cons]) ho
    obtain ⟨l, ls, rfl, rfl, -⟩ := List.map_eq_cons_iff.mp ha
    have hl' : l ∈ lines := by simp [he]
    rw [(hf l hl').isHeader_iff] at hn
    exact ⟨l, ls, rfl, by simpa using hn⟩
  · intro h before line after word he ho
    obtain ⟨ls, rs, rfl, rfl, hr⟩ := List.map_eq_append_iff.mp he
    obtain ⟨l, after, rfl, rfl, rfl⟩ := List.map_eq_cons_iff.mp hr
    have hl : l.kind = .header word false :=
      (hf l (by simp)).trans ((opens_nil_iff _ _).mp ho)
    obtain ⟨next, rest, rfl, hn⟩ := h ls l after word rfl hl
    refine ⟨next.text, rest.map Line.text, rfl, ?_⟩
    rw [(hf next (by simp)).isHeader_iff, hn]
    exact Bool.false_ne_true

end Texts

/-! ## Clean documents -/

theorem no_missing_iff (ks : List Keyword) :
    (Keyword.canonical.filter fun k => k.isMandatory && !ks.contains k) = [] ↔
      ∀ k : Keyword, k ≠ .assumption → k ≠ .review → k ∈ ks := by
  rw [List.filter_eq_nil_iff]
  constructor
  · intro h k ha hr
    have := h k (Keyword.mem_canonical k)
    cases k <;> simp_all [Keyword.isMandatory]
  · intro h k _
    have := h k
    cases k <;> simp_all [Keyword.isMandatory]

end Lint

open Lint

/-- **The grammar is decided exactly.** Nothing is reported of a document if and only if its content
is grammatical. -/
theorem clean_iff_grammatical (document : List Char) :
    (lint document).diagnostics = [] ↔ Grammatical (content document) := by
  have hf : ∀ l ∈ significant document, l.Faithful := fun l hl =>
    faithful_of_mem_linesOf (List.mem_filter.mp hl).1
  have hs : ∀ l ∈ significant document, l.isSignificant = true := fun l hl =>
    (List.mem_filter.mp hl).2
  rw [lint_diagnostics, List.append_eq_nil_iff, List.map_eq_nil_iff, no_missing_iff,
    ← diagnose_filter, ← named_filter]
  show diagnose [] (significant document) = [] ∧
    (∀ k : Keyword, k ≠ .assumption → k ≠ .review → k ∈ named (significant document)) ↔ _
  rw [diagnose_eq_nil_iff List.Pairwise.nil hs, ← text_significant]
  constructor
  · rintro ⟨⟨hstart, hknown, hasc, hfilled⟩, hall⟩
    refine ⟨(starts_iff hf).mpr ?_, (known_iff hf).mpr hknown, (ordered_iff hf).mpr hasc,
      fun k ha hr => (names_iff_mem_named hf k).mpr (hall k ha hr), (filled_iff hf).mpr hfilled⟩
    -- There is a first line, since some line names the first keyword.
    obtain ⟨l, hl, -⟩ := List.mem_filterMap.mp (hall .intent nofun nofun)
    obtain ⟨first, rest, hc⟩ := List.exists_cons_of_ne_nil (List.ne_nil_of_mem hl)
    have hfirst : first ∈ (significant document).head? := by rw [hc]; rfl
    exact ⟨first, hfirst, hstart rfl first hfirst⟩
  · rintro ⟨hstart, hknown, hordered, hcomplete, hfilled⟩
    obtain ⟨first, hfirst, hh⟩ := (starts_iff hf).mp hstart
    refine ⟨⟨fun _ l hl => ?_, (known_iff hf).mp hknown, (ordered_iff hf).mp hordered,
      (filled_iff hf).mp hfilled⟩, fun k ha hr => (names_iff_mem_named hf k).mp (hcomplete k ha hr)⟩
    rw [Option.mem_unique hl hfirst]
    exact hh

end PolicyGate.Policy
