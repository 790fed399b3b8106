import Mathlib.Data.List.Basic
import Mathlib.Data.List.TakeWhile
import PolicyGate.Policy.Rule

/-!
# Rules are parts of their lines

A rule is read from one line, cut at blanks and at the words `IF` and `THEN`.

* `Blanks`, `Spells` — a run of blanks, and a word in any case of its letters.
* `Reads` — how a trimmed line is made of a rule: a hyphen, `IF`, the condition, `THEN` and the
  action, with blanks between them.
* `Hollow` — a line with nothing but blanks, three or more, between `IF` and `THEN`.

**Theorem (`parts_of_line`).** Every rule of a document stands on one of its lines, the condition in
front of the action. The action is not empty, and neither part has a blank at an end or contains a
newline. The condition is empty exactly on a hollow line.

That a condition may be empty is `condition_of_three_blanks`: a blank is given to each side of the
condition, and the one between them is its text, of which trimming leaves nothing.
-/

namespace PolicyGate.Policy

open PolicyGate

/-! ## Blanks and words -/

/-- A run of blanks. -/
def Blanks (cs : List Char) : Prop := cs ≠ [] ∧ ∀ c ∈ cs, Text.isBlank c = true

/-- A text has no blank in front. -/
def Starts (cs : List Char) : Prop := ∀ c, cs.head? = some c → Text.isBlank c = false

/-- A text has no blank at its end. -/
def Stops (cs : List Char) : Prop := ∀ c, cs.getLast? = some c → Text.isBlank c = false

/-- A text is an upper-case word in any case of its letters. -/
def Spells (word cs : List Char) : Prop := cs.map Char.toUpper = word

theorem Spells.length_eq {word cs : List Char} (h : Spells word cs) : cs.length = word.length := by
  rw [← h, List.length_map]

theorem toUpper_of_isBlank {c : Char} (h : Text.isBlank c = true) : c.toUpper = c := by
  unfold Char.toUpper
  rw [dif_neg]
  intro hc
  have hlow : 97 ≤ c.toNat ∧ c.toNat ≤ 122 := hc
  simp [Text.isBlank] at h
  omega

/-- No letter is a blank in either case. -/
theorem not_isBlank_of_toUpper {c d : Char} (h : c.toUpper = d) (hd : Text.isBlank d = false) :
    Text.isBlank c = false := by
  by_contra hc
  have hblank : Text.isBlank c = true := by simpa using hc
  rw [toUpper_of_isBlank hblank] at h
  rw [h, hd] at hblank
  cases hblank

theorem Spells.not_isBlank {word cs : List Char} (h : Spells word cs)
    (hw : ∀ d ∈ word, Text.isBlank d = false) {c : Char} (hc : c ∈ cs) :
    Text.isBlank c = false := by
  refine not_isBlank_of_toUpper rfl (hw _ ?_)
  rw [← h]
  exact List.mem_map_of_mem hc

theorem not_isBlank_then : ∀ d ∈ ['T', 'H', 'E', 'N'], Text.isBlank d = false := by
  simp [Text.isBlank]

theorem not_isBlank_if : ∀ d ∈ ['I', 'F'], Text.isBlank d = false := by
  simp [Text.isBlank]

/-- Blanks in front of a text without are dropped. -/
theorem dropWhile_blanks {b cs : List Char} (hb : ∀ c ∈ b, Text.isBlank c = true)
    (hcs : Starts cs) : (b ++ cs).dropWhile Text.isBlank = cs := by
  rw [List.dropWhile_append_of_pos hb]
  cases cs with
  | nil => rfl
  | cons c cs => exact List.dropWhile_cons_of_neg (by simp [hcs c rfl])

theorem takeWhile_blanks {b cs : List Char} (hb : ∀ c ∈ b, Text.isBlank c = true)
    (hcs : Starts cs) : (b ++ cs).takeWhile Text.isBlank = b := by
  rw [List.takeWhile_append_of_pos hb]
  cases cs with
  | nil => simp
  | cons c cs => rw [List.takeWhile_cons_of_neg (by simp [hcs c rfl]), List.append_nil]

theorem starts_dropWhile (cs : List Char) : Starts (cs.dropWhile Text.isBlank) :=
  fun _ h => Text.head?_dropWhile_blank cs h

theorem Spells.stops_append {word cs : List Char} (h : Spells word cs)
    (hw : ∀ d ∈ word, Text.isBlank d = false) (hne : word ≠ []) (before : List Char) :
    Stops (before ++ cs) := by
  intro c hc
  have hcs : cs ≠ [] := by
    rintro rfl
    exact hne h.symm
  rw [List.getLast?_append_of_ne_nil _ hcs] at hc
  exact h.not_isBlank hw (List.mem_of_getLast? hc)

/-- Blanks behind a text without are dropped. -/
theorem trimRight_blanks {cs b : List Char} (hcs : Stops cs)
    (hb : ∀ c ∈ b, Text.isBlank c = true) : Text.trimRight (cs ++ b) = cs := by
  have hstart : Starts cs.reverse := by
    intro c hc
    rw [List.head?_reverse] at hc
    exact hcs c hc
  unfold Text.trimRight
  rw [List.reverse_append, dropWhile_blanks (fun c hc => hb c (List.mem_reverse.mp hc)) hstart,
    List.reverse_reverse]

theorem Spells.starts_append {word cs : List Char} (h : Spells word cs)
    (hw : ∀ d ∈ word, Text.isBlank d = false) (hne : word ≠ []) (rest : List Char) :
    Starts (cs ++ rest) := by
  intro c hc
  cases cs with
  | nil => exact absurd h.symm hne
  | cons d ds =>
    obtain rfl : d = c := by simpa using hc
    exact h.not_isBlank hw List.mem_cons_self

namespace Rule

/-! ## Taking off words and blanks -/

theorem dropWord?_eq_some {word cs rest : List Char} :
    dropWord? word cs = some rest ↔ ∃ w, Spells word w ∧ cs = w ++ rest := by
  induction word generalizing cs with
  | nil => simp [dropWord?, Spells]
  | cons d word ih =>
    cases cs with
    | nil =>
      refine iff_of_false (by simp [dropWord?]) ?_
      rintro ⟨w, hw, he⟩
      obtain ⟨rfl, -⟩ := List.append_eq_nil_iff.mp he.symm
      cases hw
    | cons c cs =>
      simp only [dropWord?]
      constructor
      · intro h
        split at h
        · next hc =>
          obtain ⟨w, hw, rfl⟩ := ih.mp h
          exact ⟨c :: w, congrArg₂ List.cons hc hw, rfl⟩
        · cases h
      · rintro ⟨w, hw, he⟩
        cases w with
        | nil => cases hw
        | cons e w =>
          obtain ⟨rfl, rfl⟩ := List.cons.inj he
          obtain ⟨hc, hw⟩ := List.cons.inj hw
          rw [if_pos hc]
          exact ih.mpr ⟨w, hw, rfl⟩

theorem dropBlanks?_eq_some {cs rest : List Char} :
    dropBlanks? cs = some rest ↔ ∃ b, Blanks b ∧ cs = b ++ rest ∧ Starts rest := by
  constructor
  · intro h
    cases cs with
    | nil => cases h
    | cons c cs =>
      simp only [dropBlanks?] at h
      split at h
      · next hc =>
        obtain rfl := Option.some.inj h
        refine ⟨c :: cs.takeWhile Text.isBlank, ⟨List.cons_ne_nil _ _, ?_⟩, ?_, starts_dropWhile cs⟩
        · intro d hd
          rcases List.mem_cons.mp hd with rfl | hd
          · exact hc
          · exact List.mem_takeWhile_imp hd
        · rw [List.cons_append, List.takeWhile_append_dropWhile]
      · cases h
  · rintro ⟨b, ⟨hne, hb⟩, rfl, hrest⟩
    cases b with
    | nil => exact absurd rfl hne
    | cons c b =>
      have hb' : ∀ d ∈ b, Text.isBlank d = true := fun d hd => hb d (List.mem_cons_of_mem _ hd)
      simp [dropBlanks?, hb c List.mem_cons_self, dropWhile_blanks hb' hrest]

theorem afterThen?_eq_some {cs rest : List Char} :
    afterThen? cs = some rest ↔ ∃ word space, Spells ['T', 'H', 'E', 'N'] word ∧ Blanks space ∧
      cs = word ++ space ++ rest ∧ Starts rest := by
  unfold afterThen?
  rw [Option.bind_eq_some_iff]
  constructor
  · rintro ⟨after, hword, hblanks⟩
    obtain ⟨word, hw, rfl⟩ := dropWord?_eq_some.mp hword
    obtain ⟨space, hs, rfl, hrest⟩ := dropBlanks?_eq_some.mp hblanks
    exact ⟨word, space, hw, hs, (List.append_assoc ..).symm, hrest⟩
  · rintro ⟨word, space, hw, hs, rfl, hrest⟩
    refine ⟨space ++ rest, dropWord?_eq_some.mpr ⟨word, hw, List.append_assoc ..⟩, ?_⟩
    exact dropBlanks?_eq_some.mpr ⟨space, hs, rfl, hrest⟩

/-! ## The condition and the action -/

/-- How a text is made of a rule: the condition, `THEN` between blanks, and the action. -/
structure Divides (text : List Char) (r : Rule) : Prop where
  eq : ∃ tail word space, Blanks tail ∧ Spells ['T', 'H', 'E', 'N'] word ∧ Blanks space ∧
    text = r.condition ++ tail ++ word ++ space ++ r.action
  starts : Starts r.action

/-- What is cut is the condition read so far and what follows it. -/
theorem divides_of_cutAtThen {condition blanks cs : List Char} {r : Rule}
    (h : cutAtThen condition blanks cs = some r) (hb : ∀ c ∈ blanks, Text.isBlank c = true)
    (hc : ∀ c, condition.head? = some c → Text.isBlank c = false) :
    Divides (condition.reverse ++ blanks.reverse ++ cs) r ∧ condition.reverse <+: r.condition ∧
      Stops r.condition := by
  induction cs generalizing condition blanks with
  | nil => cases h
  | cons c cs ih =>
    simp only [cutAtThen] at h
    by_cases hblank : Text.isBlank c
    · rw [if_pos hblank] at h
      have hb' : ∀ d ∈ c :: blanks, Text.isBlank d = true := by
        intro d hd
        rcases List.mem_cons.mp hd with rfl | hd
        · exact hblank
        · exact hb d hd
      have hcut := ih h hb' hc
      simpa using hcut
    · rw [if_neg hblank] at h
      split at h
      · next action hafter =>
        obtain rfl := Option.some.inj h
        by_cases hnone : blanks.isEmpty
        · rw [if_pos hnone] at hafter
          cases hafter
        rw [if_neg hnone] at hafter
        obtain ⟨word, space, hw, hs, he, hrest⟩ := afterThen?_eq_some.mp hafter
        have htail : Blanks blanks.reverse :=
          ⟨by simpa using hnone, fun d hd => hb d (List.mem_reverse.mp hd)⟩
        refine ⟨⟨⟨blanks.reverse, word, space, htail, hw, hs, ?_⟩, hrest⟩, List.prefix_refl _, ?_⟩
        · rw [he]
          simp
        · intro d hd
          rw [List.getLast?_reverse] at hd
          exact hc d hd
      · have hc' : ∀ d, (c :: (blanks ++ condition)).head? = some d → Text.isBlank d = false := by
          intro d hd
          obtain rfl : c = d := by simpa using hd
          simpa using hblank
        obtain ⟨hcut, hpre, hstops⟩ := ih h (by simp) hc'
        refine ⟨by simpa using hcut, ?_, hstops⟩
        refine List.IsPrefix.trans ?_ hpre
        simp [List.append_assoc]

/-- A text that starts with no blank is cut behind a condition that has some. -/
theorem divides_of_cutAtThen_nil {body : List Char} {r : Rule} (h : cutAtThen [] [] body = some r)
    (hstart : Starts body) :
    Divides body r ∧ r.condition ≠ [] ∧ Starts r.condition ∧ Stops r.condition := by
  cases body with
  | nil => cases h
  | cons c cs =>
    have hc : Text.isBlank c = false := hstart c rfl
    have hstep : cutAtThen [] [] (c :: cs) = cutAtThen [c] [] cs := by
      simp [cutAtThen, hc]
    rw [hstep] at h
    obtain ⟨hcut, ⟨more, hmore⟩, hstops⟩ :=
      divides_of_cutAtThen h (by simp) (by simpa using hc)
    refine ⟨hcut, ?_, ?_, hstops⟩
    · rw [← hmore]
      simp
    · rw [← hmore]
      intro d hd
      obtain rfl : c = d := by simpa using hd
      exact hc

/-- The blanks in front of a clause and what comes behind them. -/
theorem lead_of_clause (clause : List Char) :
    ∃ lead body, clause = lead ++ body ∧ (∀ c ∈ lead, Text.isBlank c = true) ∧ Starts body := by
  refine ⟨clause.takeWhile Text.isBlank, clause.dropWhile Text.isBlank, ?_, ?_,
    starts_dropWhile clause⟩
  · exact List.takeWhile_append_dropWhile.symm
  · intro c hc
    exact List.mem_takeWhile_imp hc

/-- **A clause is read behind all its blanks, or else three of them stand for the condition.** -/
theorem ofClause?_append {lead body : List Char} (hlead : ∀ c ∈ lead, Text.isBlank c = true)
    (hbody : Starts body) (r : Rule) :
    ofClause? (lead ++ body) = some r ↔ lead ≠ [] ∧
      (cutAtThen [] [] body = some r ∨ cutAtThen [] [] body = none ∧ 3 ≤ lead.length ∧
        r.condition = [] ∧ afterThen? body = some r.action) := by
  unfold ofClause?
  simp only [takeWhile_blanks hlead hbody, dropWhile_blanks hlead hbody]
  by_cases hne : lead = []
  · simp [hne]
  rw [if_neg (by simpa using hne)]
  cases hcut : cutAtThen [] [] body with
  | some cut => simp [hne]
  | none =>
    by_cases hlen : lead.length < 3
    · rw [if_pos hlen]
      constructor
      · intro h
        cases h
      · rintro ⟨-, h | ⟨-, h, -⟩⟩
        · cases h
        · exact absurd hlen (Nat.not_lt.mpr h)
    · obtain ⟨condition, action⟩ := r
      simp only [if_neg hlen, Option.map_eq_some_iff, Rule.mk.injEq, reduceCtorEq, false_or]
      constructor
      · rintro ⟨after, hafter, rfl, rfl⟩
        exact ⟨hne, trivial, Nat.not_lt.mp hlen, rfl, hafter⟩
      · rintro ⟨-, -, -, rfl, hafter⟩
        exact ⟨action, hafter, rfl, rfl⟩

/-- A clause with nothing but blanks, three or more, in front of its `THEN`. -/
def HollowClause (clause action : List Char) : Prop :=
  ∃ blanks word space, clause = blanks ++ (word ++ space ++ action) ∧ 3 ≤ blanks.length ∧
    (∀ c ∈ blanks, Text.isBlank c = true) ∧ Spells ['T', 'H', 'E', 'N'] word ∧ Blanks space

/-- How a clause is made of its rule. -/
structure ClauseOf (clause : List Char) (r : Rule) : Prop where
  divides : ∃ lead text, clause = lead ++ text ∧ Blanks lead ∧ Divides text r
  starts : Starts r.condition
  stops : Stops r.condition
  hollow : r.condition = [] ↔ HollowClause clause r.action

/-- What is divided behind all blanks leaves no room for a condition of blanks. -/
theorem Divides.not_hollowClause {lead body : List Char} {r : Rule} (h : Divides body r)
    (hlead : ∀ c ∈ lead, Text.isBlank c = true) (hbody : Starts body) (hsome : r.condition ≠ []) :
    ¬ HollowClause (lead ++ body) r.action := by
  rintro ⟨blanks, word', space', he, -, hblanks, hword', -, hspace'⟩
  obtain ⟨tail, word, space, -, hword, ⟨-, hspace⟩, htext⟩ := h.eq
  have hstart : Starts (word' ++ space' ++ r.action) := by
    rw [List.append_assoc]
    exact hword'.starts_append not_isBlank_then (by simp) _
  have hrest : body = word' ++ space' ++ r.action := by
    rw [← dropWhile_blanks hlead hbody, he, dropWhile_blanks hblanks hstart]
  -- Without the action and the blanks in front of it, one side is a word and the other is longer.
  have hfront : r.condition ++ tail ++ word ++ space = word' ++ space' :=
    List.append_cancel_right (htext.symm.trans hrest)
  have htrim : r.condition ++ tail ++ word = word' := by
    rw [← trimRight_blanks (hword.stops_append not_isBlank_then (by simp) _) hspace, hfront]
    exact trimRight_blanks (hword'.stops_append not_isBlank_then (by simp) []) hspace'
  have hlen := congrArg List.length htrim
  rw [List.length_append, List.length_append, hword.length_eq, hword'.length_eq] at hlen
  have hpos := List.length_pos_iff.mpr hsome
  omega

theorem clauseOf_of_ofClause? {clause : List Char} {r : Rule} (h : ofClause? clause = some r) :
    ClauseOf clause r := by
  obtain ⟨lead, body, rfl, hlead, hbody⟩ := lead_of_clause clause
  obtain ⟨hne, hcut | ⟨-, hlen, hnone, hafter⟩⟩ := (ofClause?_append hlead hbody r).mp h
  · obtain ⟨hdiv, hsome, hstarts, hstops⟩ := divides_of_cutAtThen_nil hcut hbody
    refine ⟨⟨lead, body, rfl, ⟨hne, hlead⟩, hdiv⟩, hstarts, hstops, iff_of_false hsome ?_⟩
    exact hdiv.not_hollowClause hlead hbody hsome
  · obtain ⟨word, space, hword, hspace, hbody', haction⟩ := afterThen?_eq_some.mp hafter
    obtain ⟨first, rest, rfl⟩ : ∃ first rest, lead = first :: rest :=
      List.exists_cons_of_ne_nil hne
    have htail : Blanks rest := by
      refine ⟨?_, fun c hc => hlead c (List.mem_cons_of_mem _ hc)⟩
      rintro rfl
      simp at hlen
    -- The first blank is in front of the condition, and the others are behind it.
    refine ⟨⟨[first], rest ++ body, rfl, ⟨by simp, ?_⟩, ⟨⟨rest, word, space, htail, hword, hspace,
      ?_⟩, haction⟩⟩, ?_, ?_, ?_⟩
    · intro c hc
      exact hlead c (List.mem_singleton.mp hc ▸ List.mem_cons_self)
    · rw [hnone, hbody']
      simp
    · simp [Starts, hnone]
    · simp [Stops, hnone]
    · refine iff_of_true hnone ⟨first :: rest, word, space, ?_, hlen, hlead, hword, hspace⟩
      rw [hbody']

/-! ## The line -/

/-- A line is that of a rule if a clause follows its hyphen and `IF`. -/
theorem ofLine?_eq_some {line : List Char} {r : Rule} :
    ofLine? line = some r ↔ ∃ gap start clause, Text.trim line = '-' :: (gap ++ (start ++ clause)) ∧
      (∀ c ∈ gap, Text.isBlank c = true) ∧ Spells ['I', 'F'] start ∧
      ofClause? clause = some r := by
  unfold ofLine?
  constructor
  · intro h
    split at h
    · next rest htrim =>
      obtain ⟨gap, text, rfl, hgap, htext⟩ := lead_of_clause rest
      rw [dropWhile_blanks hgap htext, Option.bind_eq_some_iff] at h
      obtain ⟨clause, hword, hclause⟩ := h
      obtain ⟨start, hstart, rfl⟩ := dropWord?_eq_some.mp hword
      exact ⟨gap, start, clause, htrim, hgap, hstart, hclause⟩
    · cases h
  · rintro ⟨gap, start, clause, htrim, hgap, hstart, hclause⟩
    rw [htrim]
    simp only
    rw [dropWhile_blanks hgap (hstart.starts_append not_isBlank_if (by simp) _),
      Option.bind_eq_some_iff]
    exact ⟨clause, dropWord?_eq_some.mpr ⟨start, hstart, rfl⟩, hclause⟩

/-- A rule line has one hyphen, one gap and one `IF` in front. -/
theorem clause_unique {gap gap' start start' clause clause' : List Char}
    (hgap : ∀ c ∈ gap, Text.isBlank c = true) (hgap' : ∀ c ∈ gap', Text.isBlank c = true)
    (hstart : Spells ['I', 'F'] start) (hstart' : Spells ['I', 'F'] start')
    (h : gap ++ (start ++ clause) = gap' ++ (start' ++ clause')) : clause = clause' := by
  have hrest := congrArg (List.dropWhile Text.isBlank) h
  rw [dropWhile_blanks hgap (hstart.starts_append not_isBlank_if (by simp) _),
    dropWhile_blanks hgap' (hstart'.starts_append not_isBlank_if (by simp) _)] at hrest
  exact (List.append_inj hrest (hstart.length_eq.trans hstart'.length_eq.symm)).2

/-- A line with nothing but blanks, three or more, between its `IF` and a `THEN`, behind which the
action stands. -/
def Hollow (line action : List Char) : Prop :=
  ∃ gap start clause, Text.trim line = '-' :: (gap ++ (start ++ clause)) ∧
    (∀ c ∈ gap, Text.isBlank c = true) ∧ Spells ['I', 'F'] start ∧ HollowClause clause action

/-- How the parts of a rule stand on its line. -/
structure Parts (line : List Char) (r : Rule) : Prop where
  placed : ∃ before between after,
    line = before ++ r.condition ++ between ++ r.action ++ after
  action_ne_nil : r.action ≠ []
  trim_condition : Text.trim r.condition = r.condition
  trim_action : Text.trim r.action = r.action
  condition_eq_nil_iff : r.condition = [] ↔ Hollow line r.action

theorem parts_of_ofLine? {line : List Char} {r : Rule} (h : ofLine? line = some r) :
    Parts line r := by
  obtain ⟨gap, start, clause, htrim, hgap, hstart, hclause⟩ := ofLine?_eq_some.mp h
  have hc := clauseOf_of_ofClause? hclause
  obtain ⟨lead, text, he, -, ⟨⟨tail, word, space, -, -, hspace, rfl⟩, haction⟩⟩ := hc.divides
  have hline : Text.trim line =
      '-' :: (gap ++ start ++ lead) ++ r.condition ++ (tail ++ word ++ space) ++ r.action := by
    rw [htrim, he]
    simp
  have hne : r.action ≠ [] := by
    intro hnil
    -- The line would end with the blanks behind `THEN`.
    have hlast : (Text.trim line).getLast? = space.getLast? := by
      rw [hline, hnil, List.append_nil, ← List.append_assoc,
        List.getLast?_append_of_ne_nil _ hspace.1]
    have hc := List.getLast?_eq_some_getLast hspace.1
    have hblank := hspace.2 _ (List.getLast_mem hspace.1)
    rw [Text.getLast?_trim line (hlast.trans hc)] at hblank
    cases hblank
  have hstops : Stops r.action := by
    intro c hc
    refine Text.getLast?_trim line ?_
    rw [hline, List.getLast?_append_of_ne_nil _ hne]
    exact hc
  obtain ⟨before, after, hinfix⟩ := Text.trim_infix line
  refine ⟨⟨before ++ '-' :: (gap ++ start ++ lead), tail ++ word ++ space, after, ?_⟩, hne,
    Text.trim_eq_self hc.starts hc.stops, Text.trim_eq_self haction hstops, ?_⟩
  · rw [← hinfix, hline]
    simp
  · rw [hc.hollow]
    constructor
    · intro hhollow
      exact ⟨gap, start, clause, htrim, hgap, hstart, hhollow⟩
    · rintro ⟨gap', start', clause', htrim', hgap', hstart', hhollow⟩
      rw [clause_unique hgap hgap' hstart hstart' (List.cons.inj (htrim.symm.trans htrim')).2]
      exact hhollow

end Rule

/-! ## Documents -/

/-- **A rule is a part of a line, and its action has some text.** So has its condition, except on a
hollow line. -/
theorem parts_of_line (document : List Char) (r : Rule) (hr : r ∈ rules document) :
    ∃ line ∈ Text.lines document, Rule.ofLine? line = some r ∧ Rule.Parts line r ∧
      '\n' ∉ r.condition ∧ '\n' ∉ r.action := by
  obtain ⟨line, hline, hr⟩ := List.mem_filterMap.mp hr
  have hparts := Rule.parts_of_ofLine? hr
  have hnewline : '\n' ∉ line := Text.not_mem_of_mem_pieces hline
  obtain ⟨before, between, after, he⟩ := hparts.placed
  refine ⟨line, hline, hr, hparts, ?_, ?_⟩
  · intro hc
    apply hnewline
    rw [he]
    simp [hc]
  · intro ha
    apply hnewline
    rw [he]
    simp [ha]

/-- Three blanks between `IF` and `THEN` are read as a condition. -/
theorem condition_of_three_blanks :
    ¬ ∀ document : List Char, ∀ r ∈ rules document, r.condition ≠ [] ∧ r.action ≠ [] := by
  intro h
  have hr : (⟨[], ['x']⟩ : Rule) ∈ rules "- IF   THEN x".toList := by decide
  exact (h _ _ hr).1 rfl

/-- Of two rules, the one on the hollow line has no condition, and the other has one. -/
theorem parts_of_two_lines :
    let document := "-if  a  THEN b \n- IF   then c".toList
    (⟨['a'], ['b']⟩ : Rule) ∈ rules document ∧
      (∃ line ∈ Text.lines document, ¬ Rule.Hollow line ['b']) ∧
      (⟨[], ['c']⟩ : Rule) ∈ rules document ∧
      ∃ line ∈ Text.lines document, Rule.Hollow line ['c'] := by
  intro document
  have hfull : (⟨['a'], ['b']⟩ : Rule) ∈ rules document := by decide
  have hhollow : (⟨[], ['c']⟩ : Rule) ∈ rules document := by decide
  refine ⟨hfull, ?_, hhollow, ?_⟩
  · obtain ⟨line, hline, -, hparts, -⟩ := parts_of_line document _ hfull
    exact ⟨line, hline, mt hparts.condition_eq_nil_iff.mpr (by simp)⟩
  · obtain ⟨line, hline, -, hparts, -⟩ := parts_of_line document _ hhollow
    exact ⟨line, hline, hparts.condition_eq_nil_iff.mp rfl⟩

end PolicyGate.Policy
