import Mathlib.Data.List.Basic
import PolicyGate.Proofs.Policy.Clause

/-!
# Rule lines are cut at their first separator

What stands behind the `IF` of a rule line is cut at a `THEN` between blanks.

* `Heads` — a trimmed line begins with a hyphen, `IF` and blanks.
* `Separates` — a text is a condition, `THEN` between blanks, and an action.

**Theorem (`cut_at_first_separator`).** A document has the rules of its lines, at most one of each.
A line that does not begin as a rule line has none. One that does, and that is separated anywhere
behind all its blanks, has the rule with the shortest condition, and with what follows that `THEN`
for its action.

The proof goes along the reader with the invariant that no condition can end in front of what it has
read (`prefix_of_cutAtThen`). A condition that ends among the blanks read last has its `THEN` right
behind them, and there the reader cuts.
-/

namespace PolicyGate.Policy

open PolicyGate

/-- A line begins, but for blanks, with a hyphen, `IF` and blanks. -/
def Heads (line rest : List Char) : Prop :=
  ∃ gap start space, Text.trim line = '-' :: (gap ++ (start ++ (space ++ rest))) ∧
    (∀ c ∈ gap, Text.isBlank c = true) ∧ Spells ['I', 'F'] start ∧ Blanks space

/-- A text is a condition, blanks, `THEN`, and behind it blanks and an action. -/
structure Separates (text condition behind : List Char) : Prop where
  condition_ne_nil : condition ≠ []
  eq : ∃ before word, Blanks before ∧ Spells ['T', 'H', 'E', 'N'] word ∧
    text = condition ++ (before ++ (word ++ behind))
  action : ∃ after action, Blanks after ∧ action ≠ [] ∧ behind = after ++ action

namespace Rule

variable {text body condition behind : List Char} {r : Rule}

/-! ## Behind a separator -/

/-- What follows a `THEN` is blanks and what is left when they are removed. -/
theorem afterThen?_of_separates {word : List Char} (hword : Spells ['T', 'H', 'E', 'N'] word)
    (h : Separates text condition behind) :
    afterThen? (word ++ behind) = some (behind.dropWhile Text.isBlank) := by
  obtain ⟨after, action, ⟨hne, hblank⟩, -, rfl⟩ := h.action
  refine afterThen?_eq_some.mpr ⟨word, (after ++ action).takeWhile Text.isBlank, hword, ⟨?_, ?_⟩,
    ?_, starts_dropWhile _⟩
  · rw [List.takeWhile_append_of_pos hblank]
    exact List.append_ne_nil_of_left_ne_nil hne _
  · exact fun c hc => List.mem_takeWhile_imp hc
  · rw [List.append_assoc, List.takeWhile_append_dropWhile]

/-- **What is read of a text is cut before any condition ends that goes on behind it.** -/
theorem prefix_of_cutAtThen {read blanks cs more before word action : List Char}
    (hb : ∀ c ∈ blanks, Text.isBlank c = true) (hbefore : Blanks before)
    (hword : Spells ['T', 'H', 'E', 'N'] word) (hafter : afterThen? (word ++ behind) = some action)
    (he : blanks.reverse ++ cs = more ++ (before ++ (word ++ behind))) :
    ∃ r, cutAtThen read blanks cs = some r ∧ r.condition <+: read.reverse ++ more := by
  induction cs generalizing read blanks more with
  | nil =>
    -- The word would stand among the blanks.
    obtain ⟨w, hw⟩ : ∃ w, w ∈ word := List.exists_mem_of_ne_nil word (by rintro rfl; cases hword)
    have hin : w ∈ blanks.reverse ++ [] := by
      rw [he]
      simp [hw]
    have hblank := hb w (by simpa using hin)
    rw [hword.not_isBlank not_isBlank_then hw] at hblank
    cases hblank
  | cons d cs ih =>
    rw [cutAtThen]
    by_cases hd : Text.isBlank d = true
    · rw [if_pos hd]
      refine ih ?_ (by simpa using he)
      intro c hc
      rcases List.mem_cons.mp hc with rfl | hc
      · exact hd
      · exact hb c hc
    rw [if_neg hd]
    split
    · exact ⟨_, rfl, List.prefix_append _ _⟩
    next hnone =>
    rcases List.append_eq_append_iff.mp he with ⟨rest, rfl, hrest⟩ | ⟨rest, hrest, htext⟩
    · -- The condition goes on behind the blanks, so it takes the next character too.
      cases rest with
      | nil =>
        obtain ⟨c, blank, rfl⟩ := List.exists_cons_of_ne_nil hbefore.1
        obtain ⟨rfl, -⟩ := List.cons.inj hrest
        exact absurd (hbefore.2 d List.mem_cons_self) hd
      | cons c rest =>
        obtain ⟨rfl, hcs⟩ := List.cons.inj hrest
        have hcs : ([] : List Char).reverse ++ cs = rest ++ (before ++ (word ++ behind)) := hcs
        obtain ⟨r, hr, hprefix⟩ :
            ∃ r, cutAtThen (d :: (blanks ++ read)) [] cs = some r ∧
              r.condition <+: (d :: (blanks ++ read)).reverse ++ rest := ih (by simp) hcs
        exact ⟨r, hr, by simpa using hprefix⟩
    · -- The condition ends among the blanks, so its `THEN` is what comes next.
      have hstart : Starts (word ++ behind) :=
        hword.starts_append not_isBlank_then (by simp) behind
      have hstart' : Starts (d :: cs) := by
        intro c hc
        obtain rfl : d = c := Option.some.inj hc
        simpa using hd
      have hrest' : ∀ c ∈ rest, Text.isBlank c = true := by
        intro c hc
        refine hb c (List.mem_reverse.mp ?_)
        rw [hrest]
        exact List.mem_append_right _ hc
      have hthen := congrArg (List.dropWhile Text.isBlank) htext
      rw [dropWhile_blanks hbefore.2 hstart, dropWhile_blanks hrest' hstart'] at hthen
      have hsome : blanks ≠ [] := by
        rintro rfl
        have hbetween := congrArg (List.takeWhile Text.isBlank) htext
        rw [takeWhile_blanks hbefore.2 hstart, takeWhile_blanks hrest' hstart'] at hbetween
        have hnil : more = [] ∧ rest = [] := by simpa using hrest
        exact hbefore.1 (hbetween.trans hnil.2)
      rw [if_neg (by simpa using hsome), ← hthen, hafter] at hnone
      cases hnone

/-- **A text is cut at its first separator**, if it begins with no blank. -/
theorem cutAtThen_of_separates (hstart : Starts text) (h : Separates text condition behind) :
    ∃ r, cutAtThen [] [] text = some r ∧ r.condition <+: condition := by
  obtain ⟨before, word, hbefore, hword, rfl⟩ := h.eq
  have hnone : ∀ c ∈ ([] : List Char), Text.isBlank c = true := by simp
  exact prefix_of_cutAtThen hnone hbefore hword (afterThen?_of_separates hword h)
    (List.nil_append _)

/-- A text that is cut is separated there. -/
theorem separates_of_cutAtThen (hstart : Starts text) (h : cutAtThen [] [] text = some r)
    (haction : r.action ≠ []) :
    ∃ behind, Separates text r.condition behind ∧ r.action = behind.dropWhile Text.isBlank := by
  obtain ⟨⟨⟨tail, word, space, htail, hword, hspace, he⟩, hstarts⟩, hsome, -⟩ :=
    divides_of_cutAtThen_nil h hstart
  refine ⟨space ++ r.action, ⟨hsome, ⟨tail, word, htail, hword, ?_⟩, ⟨space, r.action, hspace,
    haction, rfl⟩⟩, (dropWhile_blanks hspace.2 hstarts).symm⟩
  rw [he]
  simp

/-! ## The line -/

/-- A line that has a rule begins as a rule line. -/
theorem heads_of_ofLine? {line : List Char} (h : ofLine? line = some r) :
    ∃ rest, Heads line rest := by
  obtain ⟨gap, start, clause, htrim, hgap, hstart, hclause⟩ := ofLine?_eq_some.mp h
  obtain ⟨lead, rest, rfl, hlead, hrest⟩ := lead_of_clause clause
  have hne := ((ofClause?_append hlead hrest r).mp hclause).1
  exact ⟨rest, gap, start, lead, htrim, hgap, hstart, hne, hlead⟩

/-- A line that begins as a rule line has the rule at which the rest is cut, or one without a
condition. -/
theorem ofLine?_of_heads {line rest : List Char} (hline : Heads line rest) (hrest : Starts rest)
    (hsome : r.condition ≠ []) : ofLine? line = some r ↔ cutAtThen [] [] rest = some r := by
  obtain ⟨gap, start, space, htrim, hgap, hstart, hspace⟩ := hline
  rw [ofLine?_eq_some]
  constructor
  · rintro ⟨gap', start', clause, htrim', hgap', hstart', hclause⟩
    have hunique := clause_unique hgap' hgap hstart' hstart
      (List.cons.inj (htrim'.symm.trans htrim)).2
    rw [hunique] at hclause
    obtain ⟨-, hcut | ⟨-, -, hnil, -⟩⟩ := (ofClause?_append hspace.2 hrest r).mp hclause
    · exact hcut
    · exact absurd hnil hsome
  · intro hcut
    exact ⟨gap, start, space ++ rest, htrim, hgap, hstart,
      (ofClause?_append hspace.2 hrest r).mpr ⟨hspace.1, .inl hcut⟩⟩

/-- **A line that is separated has the rule of its first separator.** -/
theorem ofLine?_of_separates {line rest : List Char} (hline : Heads line rest)
    (hrest : Starts rest) (h : Separates rest condition behind) :
    ∃ r behind, ofLine? line = some r ∧ Separates rest r.condition behind ∧
      r.action = behind.dropWhile Text.isBlank ∧
      ∀ condition' behind', Separates rest condition' behind' → r.condition <+: condition' := by
  obtain ⟨r, hcut, -⟩ := cutAtThen_of_separates hrest h
  have hsome := (divides_of_cutAtThen_nil hcut hrest).2.1
  have hr : ofLine? line = some r := (ofLine?_of_heads hline hrest hsome).mpr hcut
  obtain ⟨behind', hsep, haction⟩ :=
    separates_of_cutAtThen hrest hcut (parts_of_ofLine? hr).action_ne_nil
  refine ⟨r, behind', hr, hsep, haction, ?_⟩
  intro condition'' behind'' h''
  obtain ⟨r'', hcut'', hprefix⟩ := cutAtThen_of_separates hrest h''
  rw [hcut] at hcut''
  rwa [Option.some.inj hcut'']

end Rule

/-! ## Documents -/

theorem rules_of_line {line : List Char} (h : '\n' ∉ line) :
    rules line = (Rule.ofLine? line).toList := by
  rw [rules, Text.lines, Text.pieces_of_not_mem h, List.filterMap_cons]
  cases Rule.ofLine? line <;> rfl

/-- **A document has the rules of its lines, and a line is cut at its first separator.** -/
theorem cut_at_first_separator (document : List Char) :
    rules document = (Text.lines document).flatMap rules ∧
    ∀ line ∈ Text.lines document,
      (rules line).length ≤ 1 ∧
      ((¬ ∃ rest, Heads line rest) → rules line = []) ∧
      ∀ rest, Heads line rest → Starts rest →
        (∀ condition behind, Separates rest condition behind →
          ∃ r behind', rules line = [r] ∧ Separates rest r.condition behind' ∧
            r.action = behind'.dropWhile Text.isBlank ∧
            ∀ condition' behind', Separates rest condition' behind' → r.condition <+: condition') ∧
        ((¬ ∃ condition behind, Separates rest condition behind) →
          ∀ r ∈ rules line, r.condition = []) := by
  have hline (line : List Char) (h : line ∈ Text.lines document) :
      rules line = (Rule.ofLine? line).toList := rules_of_line (Text.not_mem_of_mem_pieces h)
  refine ⟨?_, fun line h => ?_⟩
  · rw [rules, List.filterMap_eq_flatMap_toList]
    exact List.flatMap_congr fun line h => (hline line h).symm
  rw [hline line h]
  cases hr : Rule.ofLine? line with
  | none =>
    refine ⟨Nat.zero_le _, fun _ => rfl, fun rest hheads hrest => ⟨fun condition behind hsep => ?_,
      fun _ r hmem => absurd hmem List.not_mem_nil⟩⟩
    obtain ⟨r, -, hsome, -⟩ := Rule.ofLine?_of_separates hheads hrest hsep
    rw [hr] at hsome
    cases hsome
  | some r =>
    refine ⟨Nat.le_refl _, fun hnone => absurd (Rule.heads_of_ofLine? hr) hnone,
      fun rest hheads hrest => ⟨fun condition behind hsep => ?_, fun hnone r' hmem => ?_⟩⟩
    · obtain ⟨r', behind', hsome, hcut, haction, hleast⟩ :=
        Rule.ofLine?_of_separates hheads hrest hsep
      rw [hr] at hsome
      obtain rfl := Option.some.inj hsome
      exact ⟨r, behind', rfl, hcut, haction, hleast⟩
    · obtain rfl := List.mem_singleton.mp hmem
      by_contra hsome
      have hcut := (Rule.ofLine?_of_heads hheads hrest hsome).mp hr
      obtain ⟨behind, hsep, -⟩ :=
        Rule.separates_of_cutAtThen hrest hcut (Rule.parts_of_ofLine? hr).action_ne_nil
      exact hnone ⟨_, _, hsep⟩

/-- A condition may be the word `THEN`, and an action may hold further separators. -/
theorem cut_of_two_separators :
    let line := " -\tiF  then then b THEN c ".toList
    let rest := "then then b THEN c".toList
    Heads line rest ∧ Starts rest ∧ Separates rest "then then b".toList " c".toList ∧
      rules line = [⟨"then".toList, "b THEN c".toList⟩] ∧
      ∀ condition behind, Separates rest condition behind → "then".toList <+: condition := by
  intro line rest
  have hheads : Heads line rest :=
    ⟨['\t'], ['i', 'F'], [' ', ' '], by decide, List.all_eq_true.mp rfl, rfl, by decide,
      List.all_eq_true.mp rfl⟩
  have hrest : Starts rest := by
    intro c hc
    obtain rfl : 't' = c := by simpa [rest] using hc
    decide
  have hsep : Separates rest "then then b".toList " c".toList :=
    ⟨by decide, ⟨[' '], ['T', 'H', 'E', 'N'], ⟨by decide, List.all_eq_true.mp rfl⟩, rfl, by decide⟩,
      [' '], ['c'], ⟨by decide, List.all_eq_true.mp rfl⟩, by decide, by decide⟩
  have hrules : rules line = [⟨"then".toList, "b THEN c".toList⟩] := by decide
  obtain ⟨-, -, hcut⟩ := (cut_at_first_separator line).2 line (by decide)
  obtain ⟨r, behind, hr, -, -, hleast⟩ := (hcut rest hheads hrest).1 _ _ hsep
  rw [hrules] at hr
  obtain rfl := (List.cons.inj hr).1
  exact ⟨hheads, hrest, hsep, hrules, hleast⟩

end PolicyGate.Policy
