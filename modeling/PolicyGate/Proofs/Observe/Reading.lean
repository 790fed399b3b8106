import PolicyGate.Proofs.Observe.Sums
import PolicyGate.Text.Lines

/-!
# Rendered labels are read back

The names of labels are identifiers, and their values are any texts, which may hold quotes, commas,
backslashes and newlines.

* `IsNamed` — a label whose name has letters, digits and underscores, and does not begin with a
  digit.
* `read?` — a reader of labels: a name, an equals sign and a value in quotes, with commas between
  labels. In a value, a backslash stands in front of a backslash, of a quote, or of an `n` for a
  newline. A comma may stand behind the last label.
* `ended` — lines as a text, each with its newline.

**Theorem (`labels_read_back`).** Of the rendered labels of a series, the reader finds the sorted
labels. So labels are rendered alike only if they are the same, and rendered counters are two lines
and one more for each class of labels, whatever the values are.

A value ends at the first quote that no backslash takes up, and what is escaped has none
(`value?_escape`). The comma behind it is then the only one that can divide two labels.
-/

namespace PolicyGate

namespace Label

variable {labels : List Label} {cs rest value : List Char}

/-! ## The reader -/

def isNameChar (c : Char) : Bool := c.isAlphanum || c = '_'

/-- An identifier: letters, digits and underscores, with no digit in front. -/
def isName : List Char → Bool
  | [] => false
  | c :: cs => !c.isDigit && (c :: cs).all isNameChar

/-- A label whose name is an identifier. -/
def IsNamed (l : Label) : Prop := isName l.1.toList = true

instance (l : Label) : Decidable l.IsNamed := inferInstanceAs (Decidable (_ = true))

/-- What a character stands for behind a backslash. -/
def unescape? : Char → Option Char
  | '\\' => some '\\'
  | '"' => some '"'
  | 'n' => some '\n'
  | _ => none

/-- A value with a character in front. What is left to read stays. -/
def inFront (c : Char) (r : List Char × List Char) : List Char × List Char := (c :: r.1, r.2)

/-- Reads a value up to the quote behind it. -/
def value? : List Char → Option (List Char × List Char)
  | [] => none
  | '"' :: rest => some ([], rest)
  | '\n' :: _ => none
  | ['\\'] => none
  | '\\' :: c :: rest =>
    match unescape? c with
    | none => none
    | some c => (value? rest).map (inFront c)
  | c :: rest => (value? rest).map (inFront c)

/-- Reads one label. -/
def label? (cs : List Char) : Option (Label × List Char) :=
  let name := cs.takeWhile isNameChar
  match cs.dropWhile isNameChar with
  | '=' :: '"' :: rest =>
    if isName name then
      (value? rest).map fun r => ((String.ofList name, String.ofList r.1), r.2)
    else none
  | _ => none

theorem length_value? (h : value? cs = some (value, rest)) : rest.length < cs.length := by
  -- What is behind a value is behind the value without its first character.
  have hmap {c : Char} {behind rest value : List Char}
      (ih : ∀ {value rest}, value? behind = some (value, rest) → rest.length < behind.length)
      (h : (value? behind).map (inFront c) = some (value, rest)) : rest.length < behind.length := by
    obtain ⟨⟨value', rest'⟩, hread, hfront⟩ := Option.map_eq_some_iff.mp h
    cases hfront
    exact ih hread
  fun_induction value? cs generalizing value rest with
  | case1 => cases h
  | case2 behind =>
    cases h
    exact Nat.lt_succ_self _
  | case3 => cases h
  | case4 => cases h
  | case5 => cases h
  | case6 c behind e he ih => exact Nat.lt_succ_of_lt (Nat.lt_succ_of_lt (hmap ih h))
  | case7 c behind hquote hline hlone hslash ih => exact Nat.lt_succ_of_lt (hmap ih h)

theorem length_label? {l : Label} (h : label? cs = some (l, rest)) : rest.length < cs.length := by
  unfold label? at h
  dsimp only at h
  split at h
  · next behind hdrop =>
    split at h
    · obtain ⟨⟨value, rest'⟩, hread, hpair⟩ := Option.map_eq_some_iff.mp h
      cases hpair
      have hsuffix := (List.dropWhile_suffix (l := cs) isNameChar).length_le
      have hlength : rest'.length < behind.length := length_value? hread
      rw [hdrop, List.length_cons, List.length_cons] at hsuffix
      show rest'.length < cs.length
      omega
    · cases h
  · cases h

/-- Reads labels up to the end of the text. -/
def read? (cs : List Char) : Option (List Label) :=
  if cs = [] then some []
  else
    match _h : label? cs with
    | none => none
    | some (l, []) => some [l]
    | some (l, c :: rest) => if c = ',' then (read? rest).map (l :: ·) else none
termination_by cs.length
decreasing_by
  have hlength : (c :: rest).length < cs.length := length_label? ‹_›
  exact Nat.lt_of_succ_lt hlength

/-! ## Values -/

theorem escapeChar_of_plain {c : Char} (hslash : c ≠ '\\') (hquote : c ≠ '"') (hline : c ≠ '\n') :
    escapeChar c = [c] := by
  unfold escapeChar
  split <;> simp_all

/-- What stands for a character is read as that character. -/
theorem value?_escapeChar (c : Char) (rest : List Char) :
    value? (escapeChar c ++ rest) = (value? rest).map (inFront c) := by
  by_cases hslash : c = '\\'
  · subst hslash
    simp [escapeChar, value?, unescape?]
  by_cases hquote : c = '"'
  · subst hquote
    simp [escapeChar, value?, unescape?]
  by_cases hline : c = '\n'
  · subst hline
    simp [escapeChar, value?, unescape?]
  rw [escapeChar_of_plain hslash hquote hline]
  simp [value?, hslash]

/-- **A value is read back**, up to the quote behind it. -/
theorem value?_escape (value rest : List Char) :
    value? (escape value ++ '"' :: rest) = some (value, rest) := by
  induction value with
  | nil => rfl
  | cons c value ih =>
    rw [escape, List.flatMap_cons, List.append_assoc, value?_escapeChar]
    change (value? (escape value ++ '"' :: rest)).map _ = _
    rw [ih]
    rfl

/-- A value with a text in place of a character, wherever it stands. -/
def replace (c : Char) (text value : List Char) : List Char :=
  value.flatMap fun d => if d = c then text else [d]

/-- **The three characters may be replaced one after the other**, the backslash first, so that the
backslashes in front of the other two stay single. -/
theorem escape_eq_replace (value : List Char) :
    escape value = replace '\n' ['\\', 'n'] (replace '"' ['\\', '"']
      (replace '\\' ['\\', '\\'] value)) := by
  unfold escape replace
  rw [List.flatMap_assoc, List.flatMap_assoc]
  refine List.flatMap_congr fun c _ => ?_
  by_cases hslash : c = '\\'
  · subst hslash
    rfl
  by_cases hquote : c = '"'
  · subst hquote
    rfl
  by_cases hline : c = '\n'
  · subst hline
    rfl
  rw [escapeChar_of_plain hslash hquote hline]
  simp [hslash, hquote, hline]

theorem newline_not_mem_escape (value : List Char) : '\n' ∉ escape value := by
  intro h
  obtain ⟨c, -, hc⟩ := List.mem_flatMap.mp h
  by_cases hline : c = '\n'
  · subst hline
    exact absurd hc (by decide)
  · revert hc
    unfold escapeChar
    split <;> simp [eq_comm, hline]

/-! ## Labels -/

theorem isName_eq_true (h : isName cs = true) : ∀ c ∈ cs, isNameChar c = true := by
  cases cs with
  | nil => simp
  | cons c cs =>
    rw [isName, Bool.and_eq_true] at h
    exact List.all_eq_true.mp h.2

theorem toList_render (l : Label) :
    l.render.toList = l.1.toList ++ '=' :: '"' :: (escape l.2.toList ++ ['"']) := by
  simp [render]

/-- **A label is read back**, whatever is behind it. -/
theorem label?_render {l : Label} (h : l.IsNamed) (rest : List Char) :
    label? (l.render.toList ++ rest) = some (l, rest) := by
  have hnamed : isName l.1.toList = true := h
  have hchars := isName_eq_true hnamed
  have hequals : isNameChar '=' = false := by decide
  have hcs : l.render.toList ++ rest =
      l.1.toList ++ '=' :: '"' :: (escape l.2.toList ++ '"' :: rest) := by
    rw [toList_render]
    simp
  have hname : (l.render.toList ++ rest).takeWhile isNameChar = l.1.toList := by
    rw [hcs, List.takeWhile_append_of_pos hchars, List.takeWhile_cons, hequals]
    exact List.append_nil _
  have hbehind : (l.render.toList ++ rest).dropWhile isNameChar =
      '=' :: '"' :: (escape l.2.toList ++ '"' :: rest) := by
    rw [hcs, List.dropWhile_append_of_pos hchars, List.dropWhile_cons, hequals]
    rfl
  unfold label?
  rw [hname, hbehind]
  show (if isName l.1.toList = true then (value? _).map _ else none) = _
  rw [if_pos hnamed, value?_escape, Option.map_some, String.ofList_toList, String.ofList_toList]

theorem toList_renderAll_cons (l l' : Label) (labels : List Label) :
    (renderAll (l :: l' :: labels)).toList =
      l.render.toList ++ ',' :: (renderAll (l' :: labels)).toList := by
  rw [renderAll, List.map_cons, List.map_cons, String.intercalate_cons_cons, ← List.map_cons]
  simp [renderAll]

/-- **Rendered labels are read back.** -/
theorem read?_renderAll (h : ∀ l ∈ labels, l.IsNamed) :
    read? (renderAll labels).toList = some labels := by
  have hne (l : Label) (rest : List Char) : l.render.toList ++ rest ≠ [] := by
    rw [toList_render]
    simp
  induction labels with
  | nil =>
    rw [read?]
    rfl
  | cons l labels ih =>
    have hl := label?_render (h l List.mem_cons_self)
    cases labels with
    | nil =>
      have hone : (renderAll [l]).toList = l.render.toList ++ [] := by simp [renderAll]
      rw [hone, read?, if_neg (hne l []), hl]
    | cons l' labels =>
      have hrest := ih fun l hl => h l (List.mem_cons_of_mem _ hl)
      rw [toList_renderAll_cons, read?, if_neg (hne l _), hl]
      dsimp only
      rw [if_pos rfl, hrest]
      rfl

theorem newline_not_mem_render {l : Label} (h : l.IsNamed) : '\n' ∉ l.render.toList := by
  have hname : '\n' ∉ l.1.toList := fun hm => by
    have := isName_eq_true h '\n' hm
    exact absurd this (by decide)
  rw [toList_render]
  simp [hname, newline_not_mem_escape]

theorem newline_not_mem_renderAll (h : ∀ l ∈ labels, l.IsNamed) :
    '\n' ∉ (renderAll labels).toList := by
  induction labels with
  | nil => exact List.not_mem_nil
  | cons l labels ih =>
    have hl := newline_not_mem_render (h l List.mem_cons_self)
    cases labels with
    | nil => simpa [renderAll] using hl
    | cons l' labels =>
      have hrest := ih fun l hl => h l (List.mem_cons_of_mem _ hl)
      rw [toList_renderAll_cons]
      simp [hl, hrest]

theorem isNamed_sort (h : ∀ l ∈ labels, l.IsNamed) : ∀ l ∈ sort labels, l.IsNamed := by
  intro l hl
  exact h l ((sort_perm labels).mem_iff.mp hl)

/-- **Series with the same text have the same labels.** -/
theorem renderAll_sort_inj {labels' : List Label} (h : ∀ l ∈ labels, l.IsNamed)
    (h' : ∀ l ∈ labels', l.IsNamed) :
    renderAll (sort labels) = renderAll (sort labels') ↔ labels.Perm labels' := by
  constructor
  · intro htext
    have hread := read?_renderAll (isNamed_sort h)
    rw [htext, read?_renderAll (isNamed_sort h')] at hread
    exact (perm_of_sort (Option.some.inj hread)).symm
  · intro hp
    rw [sort_eq_sort_iff.mpr hp]

end Label

/-! ## Lines -/

open Label (IsNamed Represents renderAll read?)

/-- Lines as a text, each with its newline. -/
def ended (lines : List String) : String := String.join (lines.map (· ++ "\n"))

/-- Lines without newlines are found again in their text. -/
theorem lines_ended {lines : List String} (h : ∀ line ∈ lines, '\n' ∉ line.toList) :
    Text.lines (ended lines).toList = lines.map String.toList ++ [[]] := by
  have htext : (ended lines).toList = (lines.map String.toList).flatMap (· ++ ['\n']) := by
    simp [ended, List.flatMap_map]
  rw [htext]
  refine Text.pieces_ended fun p hp => ?_
  obtain ⟨line, hline, rfl⟩ := List.mem_map.mp hp
  exact h line hline

theorem newline_not_mem_toDigits (n : Nat) : '\n' ∉ Nat.toDigits 10 n := by
  intro h
  exact absurd (Nat.isDigit_of_mem_toDigits (by decide) (by decide) h) (by decide)

theorem newline_not_mem_sample {name : String} {labels : List Label} (hname : '\n' ∉ name.toList)
    (hlabels : ∀ l ∈ labels, l.IsNamed) (n : Nat) : '\n' ∉ (sample name labels n).toList := by
  have htext := Label.newline_not_mem_renderAll hlabels
  simp [sample, hname, htext, newline_not_mem_toDigits]

namespace Counters

variable {calls : List Call} {c : Counters}

/-- **Rendered counters are two lines and one for each class**, whose labels are read back. -/
theorem Sums.render_read_back (h : Sums calls c)
    (hcalls : ∀ call ∈ calls, ∀ l ∈ call.labels, l.IsNamed) (name help : String) :
    ∃ classes, Represents (calls.map Call.labels) classes ∧
      (∀ k ∈ classes, ∀ l ∈ k, l.IsNamed) ∧
      (∀ k ∈ classes, read? (renderAll k).toList = some k) ∧
      c.render name help =
        header name help ++ classes.map fun k => sample name k (added k calls % Width.of64) := by
  obtain ⟨classes, hclasses, -, -, hrender⟩ := h.render_eq name help
  have hnamed : ∀ k ∈ classes, ∀ l ∈ k, l.IsNamed := by
    intro k hk l hl
    obtain ⟨t, ht, hp⟩ := (hclasses.covers k).mp ⟨k, hk, List.Perm.refl k⟩
    obtain ⟨call, hcall, rfl⟩ := List.mem_map.mp ht
    exact hcalls call hcall l (hp.mem_iff.mpr hl)
  exact ⟨classes, hclasses, hnamed, fun k hk => Label.read?_renderAll (hnamed k hk), hrender⟩

/-- **The lines of the text are the rendered lines**, if no name has a newline. -/
theorem Sums.lines_render (h : Sums calls c) (hcalls : ∀ call ∈ calls, ∀ l ∈ call.labels, l.IsNamed)
    {name help : String} (hname : '\n' ∉ name.toList) (hhelp : '\n' ∉ help.toList) :
    Text.lines (ended (c.render name help)).toList =
      (c.render name help).map String.toList ++ [[]] := by
  obtain ⟨classes, -, hnamed, -, hrender⟩ := h.render_read_back hcalls name help
  rw [hrender]
  refine lines_ended fun line hline => ?_
  rcases List.mem_append.mp hline with hline | hline
  · rcases List.mem_cons.mp hline with rfl | hline
    · simp [hname, hhelp]
    · obtain rfl := List.mem_singleton.mp hline
      simp [hname]
  · obtain ⟨k, hk, rfl⟩ := List.mem_map.mp hline
    exact newline_not_mem_sample hname (hnamed k hk) _

end Counters

namespace Label

open Counters (Call run added header)

/-- **Rendered labels are read back, so that no value can be taken for another or for a line.** -/
theorem labels_read_back (labels labels' : List Label) (hlabels : ∀ l ∈ labels, l.IsNamed)
    (hlabels' : ∀ l ∈ labels', l.IsNamed) (calls : List Call)
    (hcalls : ∀ call ∈ calls, ∀ l ∈ call.labels, l.IsNamed) (name help : String) :
    '\n' ∉ (renderAll (sort labels)).toList ∧
      read? (renderAll (sort labels)).toList = some (sort labels) ∧
      (renderAll (sort labels) = renderAll (sort labels') ↔ labels.Perm labels') ∧
      (∃ classes, Represents (calls.map Call.labels) classes ∧
        (∀ k ∈ classes, read? (renderAll k).toList = some k) ∧
        (run calls).render name help =
          header name help ++ classes.map fun k => sample name k (added k calls % Width.of64)) ∧
      ('\n' ∉ name.toList → '\n' ∉ help.toList →
        Text.lines (ended ((run calls).render name help)).toList =
          ((run calls).render name help).map String.toList ++ [[]]) := by
  have hsorted := isNamed_sort hlabels
  have hsums := Counters.sums_run calls
  obtain ⟨classes, hclasses, -, hread, hrender⟩ := hsums.render_read_back hcalls name help
  refine ⟨newline_not_mem_renderAll hsorted, read?_renderAll hsorted,
    renderAll_sort_inj hlabels hlabels', ⟨classes, hclasses, hread, hrender⟩, ?_⟩
  exact fun hname hhelp => hsums.lines_render hcalls hname hhelp

/-- A newline, and a value that looks like the end of a label and another one. -/
theorem read_of_two_values :
    let a : Label := ("a", "1\n2")
    let b : Label := ("b", "x\",c=\"y\\")
    let text := "a=\"1\\n2\",b=\"x\\\",c=\\\"y\\\\\""
    let c := run [.increment [b, a]]
    (∀ l ∈ [b, a], l.IsNamed) ∧ (∀ l ∈ [("a", "1")], IsNamed l) ∧
      renderAll (sort [b, a]) = text ∧ '\n' ∉ text.toList ∧ read? text.toList = some [a, b] ∧
      text ≠ renderAll (sort [("a", "1")]) ∧
      Text.lines (ended (c.render "runs" "Runs")).toList =
        (c.render "runs" "Runs").map String.toList ++ [[]] := by
  intro a b text c
  have hsort : sort [b, a] = [a, b] := by
    rw [sort_eq_sort_iff.mpr (List.Perm.swap a b [])]
    exact List.mergeSort_of_pairwise (by decide)
  have htext : renderAll (sort [b, a]) = text := by
    rw [hsort]
    decide
  have hnamed : ∀ l ∈ [b, a], l.IsNamed := by decide
  have hnamed' : ∀ l ∈ [("a", "1")], IsNamed l := by decide
  obtain ⟨hline, hread, hinj, -, hlines⟩ := labels_read_back [b, a] [("a", "1")] hnamed hnamed'
    [.increment [b, a]] (by decide) "runs" "Runs"
  rw [htext] at hline hread hinj
  rw [hsort] at hread
  exact ⟨hnamed, hnamed', htext, hline, hread, mt hinj.mp (by decide),
    hlines (by decide) (by decide)⟩

end Label

end PolicyGate
