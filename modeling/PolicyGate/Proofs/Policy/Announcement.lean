import Mathlib.Data.List.Infix
import PolicyGate.Policy.Action

/-!
# Announced actions are recovered

What an engine writes is a text in lines, and the actions that are read from it are those that it
announced.

* `Remark` — a line without the marker, or an announcement: what stands in front of the marker, and
  the name behind it.
* `transcript` — remarks joined by newlines, each with a carriage return in front of it or not.
* `rows` — the lines of a text if each ends with its newline, and a carriage return in front of that
  belongs to the end too.

**Theorem (`actions_recovered`).** The actions of a text are those of its parts between newlines,
every name that is read is trimmed and not empty, and of a transcript the announced names are read,
in order.

**Theorem (`actions_eq_rows`).** It makes no difference whether a text is cut at its newlines or
into rows.

The marker has no hyphen but its first character. So it cannot overlap itself, and an occurrence
that starts in front of the announced one would lie in front of it, where there is none
(`afterFirst?_append`).
-/

namespace PolicyGate.Policy

open PolicyGate

namespace Action

variable {pattern cs lead line name rest : List Char} {c d : Char}

/-! ## The first occurrence -/

theorem afterFront?_eq_some : afterFront? pattern cs = some rest ↔ cs = pattern ++ rest := by
  induction pattern generalizing cs with
  | nil => simp [afterFront?]
  | cons p pattern ih =>
    cases cs with
    | nil => simp [afterFront?]
    | cons c cs =>
      rw [afterFront?]
      by_cases h : p = c
      · rw [if_pos h, ih, h, List.cons_append, List.cons.injEq]
        simp
      · rw [if_neg h]
        simp [Ne.symm h]

/-- What is behind the first occurrence is behind some occurrence. -/
theorem eq_append_of_afterFirst? (h : afterFirst? pattern cs = some rest) :
    ∃ lead, cs = lead ++ pattern ++ rest := by
  induction cs with
  | nil => exact ⟨[], afterFront?_eq_some.mp h⟩
  | cons c cs ih =>
    rw [afterFirst?] at h
    split at h
    · next hfront =>
      obtain rfl := Option.some.inj h
      exact ⟨[], afterFront?_eq_some.mp hfront⟩
    · obtain ⟨lead, hlead⟩ := ih h
      exact ⟨c :: lead, by rw [hlead]; rfl⟩

theorem afterFirst?_eq_none (h : ¬ pattern <:+: cs) : afterFirst? pattern cs = none := by
  cases hfirst : afterFirst? pattern cs with
  | none => rfl
  | some rest =>
    obtain ⟨lead, rfl⟩ := eq_append_of_afterFirst? hfirst
    exact absurd (List.infix_append lead pattern rest) h

/-- **The first occurrence is the one behind a text without any**, if the pattern has its first
character nowhere else. -/
theorem afterFirst?_append (hc : c ∉ pattern) (hlead : ¬ (c :: pattern) <:+: lead)
    (rest : List Char) :
    afterFirst? (c :: pattern) (lead ++ (c :: pattern ++ rest)) = some rest := by
  induction lead with
  | nil =>
    have hfront : afterFront? (c :: pattern) (c :: (pattern ++ rest)) = some rest :=
      afterFront?_eq_some.mpr rfl
    rw [List.nil_append, List.cons_append, afterFirst?, hfront]
  | cons d lead ih =>
    have hnone : afterFront? (c :: pattern) (d :: (lead ++ (c :: pattern ++ rest))) = none := by
      cases hfront : afterFront? (c :: pattern) (d :: (lead ++ (c :: pattern ++ rest))) with
      | none => rfl
      | some behind =>
        exfalso
        have he := afterFront?_eq_some.mp hfront
        rw [← List.cons_append] at he
        rcases List.append_eq_append_iff.mp he with ⟨more, hpattern, hmore⟩ | ⟨more, hmore, -⟩
        · -- The occurrence goes on behind the text, where the next one starts.
          cases more with
          | nil =>
            rw [List.append_nil] at hpattern
            exact hlead (hpattern ▸ List.infix_rfl)
          | cons e more =>
            obtain ⟨rfl, -⟩ := List.cons.inj hmore
            obtain ⟨-, rfl⟩ := List.cons.inj hpattern
            exact hc (by simp)
        · exact hlead (hmore ▸ (List.prefix_append _ _).isInfix)
    rw [List.cons_append, afterFirst?, hnone]
    exact ih fun h => hlead (List.infix_cons h)

/-! ## A character behind the line -/

theorem afterFront?_snoc (hd : d ∉ pattern) (cs : List Char) :
    afterFront? pattern (cs ++ [d]) = (afterFront? pattern cs).map (· ++ [d]) := by
  induction pattern generalizing cs with
  | nil => rfl
  | cons p pattern ih =>
    obtain ⟨hp, hpattern⟩ : d ≠ p ∧ d ∉ pattern := by simpa using hd
    cases cs with
    | nil => simp [afterFront?, hp.symm]
    | cons c cs =>
      rw [List.cons_append, afterFront?, afterFront?, ih hpattern]
      split <;> rfl

/-- A character that is not in the pattern changes nothing about where it occurs. -/
theorem afterFirst?_snoc (hpattern : pattern ≠ []) (hd : d ∉ pattern) (cs : List Char) :
    afterFirst? pattern (cs ++ [d]) = (afterFirst? pattern cs).map (· ++ [d]) := by
  induction cs with
  | nil =>
    have hfront := afterFront?_snoc hd []
    have hnone : afterFront? pattern [] = none := by
      obtain ⟨p, ps, rfl⟩ := List.exists_cons_of_ne_nil hpattern
      rfl
    rw [hnone, List.nil_append] at hfront
    simp only [List.nil_append, afterFirst?, hfront, hnone, Option.map_none]
  | cons c cs ih =>
    have hfront := afterFront?_snoc hd (c :: cs)
    rw [List.cons_append] at hfront ⊢
    rw [afterFirst?, hfront, afterFirst?]
    cases afterFront? pattern (c :: cs) with
    | none => exact ih
    | some rest => rfl

/-! ## Lines -/

/-- A carriage return at the end of a line is no part of a name. -/
theorem ofLine?_return (line : List Char) : ofLine? (line ++ ['\r']) = ofLine? line := by
  have hreturn : ∀ c ∈ ['\r'], Text.isBlank c = true := List.all_eq_true.mp rfl
  have htrim : Text.trim ∘ (· ++ ['\r']) = Text.trim := by
    funext cs
    exact Text.trim_append_blanks cs hreturn
  unfold ofLine?
  rw [afterFirst?_snoc (by decide) (by decide), Option.map_map, htrim]

theorem ofLine?_eq_some : ofLine? line = some name ↔
    name ≠ [] ∧ ∃ rest, afterFirst? marker line = some rest ∧ Text.trim rest = name := by
  unfold ofLine?
  cases afterFirst? marker line with
  | none => simp
  | some rest =>
    have htrim : Text.trim rest = name ↔ ∃ r, some rest = some r ∧ Text.trim r = name := by simp
    rw [← htrim, Option.map_some]
    cases Text.trim rest with
    | nil => simp +contextual [eq_comm]
    | cons c name' =>
      constructor
      · intro h
        obtain rfl := Option.some.inj h
        exact ⟨List.cons_ne_nil c name', rfl⟩
      · rintro ⟨-, rfl⟩
        rfl

theorem ofLine?_of_plain (h : ¬ marker <:+: line) : ofLine? line = none := by
  unfold ofLine?
  rw [afterFirst?_eq_none h]
  rfl

/-- **The action of an announcement is what stands behind its first marker.** -/
theorem ofLine?_of_announcement (hlead : ¬ marker <:+: lead) (hname : name ≠ [])
    (htrim : Text.trim name = name) : ofLine? (lead ++ (marker ++ name)) = some name :=
  ofLine?_eq_some.mpr ⟨hname, name, afterFirst?_append (by decide) hlead name, htrim⟩

/-- The name of an action is a trimmed part of its line. -/
theorem name_of_ofLine? (h : ofLine? line = some name) :
    name ≠ [] ∧ Text.trim name = name ∧ name <:+: line := by
  obtain ⟨hname, rest, hfirst, rfl⟩ := ofLine?_eq_some.mp h
  obtain ⟨lead, rfl⟩ := eq_append_of_afterFirst? hfirst
  refine ⟨hname, Text.trim_trim rest, (Text.trim_infix rest).trans ?_⟩
  exact (List.suffix_append _ _).isInfix

end Action

/-! ## Texts in lines -/

theorem actions_append (a b : List Char) : actions (a ++ '\n' :: b) = actions a ++ actions b := by
  unfold actions Text.lines
  rw [Text.pieces_append_sep, List.filterMap_append]

theorem actions_of_line {line : List Char} (h : '\n' ∉ line) :
    actions line = (Action.ofLine? line).toList := by
  rw [actions, Text.lines, Text.pieces_of_not_mem h, List.filterMap_cons]
  cases Action.ofLine? line <;> rfl

theorem name_of_mem_actions {output name : List Char} (h : name ∈ actions output) :
    name ≠ [] ∧ Text.trim name = name ∧ '\n' ∉ name := by
  obtain ⟨line, hline, hname⟩ := List.mem_filterMap.mp h
  obtain ⟨hne, htrim, hpart⟩ := Action.name_of_ofLine? hname
  refine ⟨hne, htrim, ?_⟩
  intro hmem
  exact Text.not_mem_of_mem_pieces hline (hpart.subset hmem)

/-- A line without the carriage return at its end. -/
def withoutReturn (line : List Char) : List Char :=
  if line.getLast? = some '\r' then line.dropLast else line

/-- The lines of a text if each ends with a newline. A text behind the last newline is a line too,
and keeps a carriage return. -/
def rows (text : List Char) : List (List Char) :=
  (Text.lines text).dropLast.map withoutReturn ++
    (Text.lines text).getLast?.toList.filter (· ≠ [])

theorem ofLine?_withoutReturn (line : List Char) :
    Action.ofLine? (withoutReturn line) = Action.ofLine? line := by
  unfold withoutReturn
  split
  · next h =>
    obtain ⟨front, rfl⟩ := List.getLast?_eq_some_iff.mp h
    rw [List.dropLast_concat, Action.ofLine?_return]
  · rfl

/-- **The actions of a text are those of its rows.** -/
theorem actions_eq_rows (output : List Char) :
    actions output = (rows output).filterMap Action.ofLine? := by
  unfold actions rows
  have hne : Text.lines output ≠ [] := Text.pieces_ne_nil '\n' output
  obtain ⟨front, last, hlines⟩ : ∃ front last, Text.lines output = front ++ [last] :=
    ⟨_, _, (List.dropLast_concat_getLast hne).symm⟩
  rw [hlines, List.dropLast_concat, List.getLast?_concat, List.filterMap_append,
    List.filterMap_append, List.filterMap_map]
  congr 1
  · exact List.filterMap_congr fun line _ => (ofLine?_withoutReturn line).symm
  · by_cases hlast : last = []
    · subst hlast
      rfl
    · simp [hlast]

/-! ## Transcripts -/

/-- A line that an engine writes. -/
inductive Remark where
  | plain (text : List Char) (hline : '\n' ∉ text) (hplain : ¬ Action.marker <:+: text)
  /-- An action, with the marker between what stands in front of it and its name. -/
  | announcement (lead name : List Char) (hline : '\n' ∉ lead) (hlead : ¬ Action.marker <:+: lead)
      (hname : name ≠ [] ∧ Text.trim name = name ∧ '\n' ∉ name)

namespace Remark

def line : Remark → List Char
  | plain text .. => text
  | announcement lead name .. => lead ++ (Action.marker ++ name)

/-- The name that is announced. -/
def name? : Remark → Option (List Char)
  | plain .. => none
  | announcement _ name .. => some name

theorem newline_not_mem_line (r : Remark) : '\n' ∉ r.line := by
  cases r with
  | plain text hline hplain => exact hline
  | announcement lead name hline hlead hname =>
    have hmarker : '\n' ∉ Action.marker := by decide
    simp [line, hline, hmarker, hname.2.2]

theorem ofLine?_line (r : Remark) : Action.ofLine? r.line = r.name? := by
  cases r with
  | plain text hline hplain => exact Action.ofLine?_of_plain hplain
  | announcement lead name hline hlead hname =>
    exact Action.ofLine?_of_announcement hlead hname.1 hname.2.1

end Remark

/-- What stands between two lines. -/
inductive LineBreak where
  | newline
  | returnNewline
  deriving DecidableEq, Repr

def LineBreak.text : LineBreak → List Char
  | newline => ['\n']
  | returnNewline => ['\r', '\n']

/-- Remarks with a break in front of each but the first. -/
def transcript (first : Remark) (rest : List (LineBreak × Remark)) : List Char :=
  first.line ++ rest.flatMap fun (gap, remark) => gap.text ++ remark.line

theorem actions_of_remark (r : Remark) : actions r.line = r.name?.toList := by
  rw [actions_of_line r.newline_not_mem_line, r.ofLine?_line]

/-- A break ends a line, and its carriage return is no part of the name. -/
theorem actions_of_break (r : Remark) (gap : LineBreak) (text : List Char) :
    actions (r.line ++ (gap.text ++ text)) = r.name?.toList ++ actions text := by
  cases gap with
  | newline =>
    rw [← actions_of_remark]
    exact actions_append r.line text
  | returnNewline =>
    have hline : '\n' ∉ r.line ++ ['\r'] := by simp [r.newline_not_mem_line]
    have hname : actions (r.line ++ ['\r']) = r.name?.toList := by
      rw [actions_of_line hline, Action.ofLine?_return, r.ofLine?_line]
    have happend := actions_append (r.line ++ ['\r']) text
    rw [hname, List.append_assoc] at happend
    exact happend

/-- **Of a transcript, the announced names are read.** -/
theorem actions_of_transcript (first : Remark) (rest : List (LineBreak × Remark)) :
    actions (transcript first rest) = (first :: rest.map Prod.snd).filterMap Remark.name? := by
  induction rest generalizing first with
  | nil =>
    rw [transcript, List.flatMap_nil, List.append_nil, actions_of_remark]
    cases hname : first.name? <;> simp [hname]
  | cons next rest ih =>
    obtain ⟨gap, remark⟩ := next
    have hnext : transcript first ((gap, remark) :: rest) =
        first.line ++ (gap.text ++ transcript remark rest) := by
      simp [transcript]
    rw [hnext, actions_of_break, ih]
    cases hname : first.name? <;> simp [hname]

/-- **Actions are read line by line, and the announced ones are recovered.** -/
theorem actions_recovered (a b output : List Char) (first : Remark)
    (rest : List (LineBreak × Remark)) :
    actions (a ++ '\n' :: b) = actions a ++ actions b ∧
      (∀ name ∈ actions output, name ≠ [] ∧ Text.trim name = name ∧ '\n' ∉ name) ∧
      actions (transcript first rest) = (first :: rest.map Prod.snd).filterMap Remark.name? := by
  refine ⟨actions_append a b, ?_, actions_of_transcript first rest⟩
  intro name hname
  exact name_of_mem_actions hname

/-- A lead that nearly holds a marker, a name that does hold one, and lines of both kinds of end. -/
theorem actions_of_three_lines :
    let lead := "-> EXECUTE:".toList
    let text := "-> EXECUTE:-> EXECUTE: Cool\r\n->\n-> EXECUTE: a -> EXECUTE: b".toList
    let names := ["Cool".toList, "a -> EXECUTE: b".toList]
    ∃ (first : Remark) (rest : List (LineBreak × Remark)),
      first.line = lead ++ "-> EXECUTE: Cool".toList ∧
      transcript first rest = text ∧ actions text = names ∧
      "Cool".toList ∈ actions text ∧ Text.trim "Cool".toList = "Cool".toList := by
  intro lead text names
  let first : Remark := .announcement lead "Cool".toList (by decide) (by decide) (by decide)
  let plain : Remark := .plain "->".toList (by decide) (by decide)
  let last : Remark := .announcement [] "a -> EXECUTE: b".toList (by decide) (by decide) (by decide)
  let rest : List (LineBreak × Remark) := [(.returnNewline, plain), (.newline, last)]
  obtain ⟨-, hnames, hactions⟩ := actions_recovered [] [] text first rest
  have htext : transcript first rest = text := by decide
  rw [htext] at hactions
  have hmem : "Cool".toList ∈ actions text := by
    rw [hactions]
    exact List.mem_cons_self
  exact ⟨first, rest, rfl, htext, hactions, hmem, (hnames _ hmem).2.1⟩

end PolicyGate.Policy
