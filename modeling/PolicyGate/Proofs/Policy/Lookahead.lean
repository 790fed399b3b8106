import Mathlib.Data.List.Basic
import PolicyGate.Policy.Line
import PolicyGate.Width

/-!
# Looking ahead and going on agree

A cursor is asked for the next line and for the next significant one, in any order.

* `Cursor.Ask`, `Cursor.ask` — a question, its answer, and the place after it.
* `Cursor.run` — the lines taken by some questions, and the place after them.
* `numbered` — the lines of a document, cut and counted without a cursor.

**Theorem (`lookahead_agrees`).** Whatever has been asked, the lines taken are the first lines of
the document, as many as were asked for. Looking ahead stays in place and finds the first
significant one of the lines that asking on and on takes from there. The lines passed are the lines
taken, and in the end their number is one more than that of the newlines.

What some questions do depends only on how often the next line is asked for (`run_eq`), so that
every interleaving comes down to a `take` and a `drop`.
-/

namespace PolicyGate

theorem Text.pieces_eq_splitOn (sep : Char) (cs : List Char) :
    Text.pieces sep cs = cs.splitOn sep := by
  induction cs with
  | nil => rfl
  | cons c cs ih =>
    rw [List.splitOn, List.splitOnP_cons_eq_if_modifyHead, ← List.splitOn, ← ih]
    by_cases h : c = sep
    · rw [if_pos (beq_iff_eq.mpr h), h, Text.pieces_sep]
    · obtain ⟨p, ps, hp, hcons⟩ := Text.pieces_cons h cs
      rw [if_neg (mt beq_iff_eq.mp h), hcons, hp, List.modifyHead_cons]

namespace Policy

/-- The lines of a document: the texts between its newlines, trimmed and counted from one. -/
def numbered (document : List Char) : List Line :=
  (document.splitOn '\n').mapIdx fun i raw => ⟨i + 1, Text.trim raw, classify (Text.trim raw)⟩

namespace Cursor

/-- What is asked of a cursor. -/
inductive Ask where
  | next
  | peek
  deriving DecidableEq, Repr

/-- The answer to a question, and the place after it. -/
def ask (c : Cursor) : Ask → Option Line × Cursor
  | .next =>
    match c.next with
    | none => (none, c)
    | some (line, c) => (some line, c)
  | .peek => (c.peek, c)

/-- Asks one question after the other. Gives the lines taken, in order, and the last place. -/
def run (c : Cursor) : List Ask → List Line × Cursor
  | [] => ([], c)
  | .next :: asks =>
    let (line, c) := c.ask .next
    let (lines, c) := run c asks
    (line.toList ++ lines, c)
  | .peek :: asks => run (c.ask .peek).2 asks

/-- Asks for the next line so many times. -/
def goOn (c : Cursor) (n : Nat) : List Line × Cursor := c.run (List.replicate n .next)

/-- The place so many lines further on, or the last one. -/
def skip (c : Cursor) (n : Nat) : Cursor :=
  ⟨c.consumed + min n c.rest.length, c.rest.drop n⟩

variable {c : Cursor} {document : List Char}

/-! ## Any questions -/

theorem skip_zero (c : Cursor) : c.skip 0 = c := by
  rw [skip, Nat.zero_min, List.drop_zero]
  rfl

/-- **What questions do depends on how often the next line is asked for.** -/
theorem run_eq (c : Cursor) (asks : List Ask) :
    c.run asks = (c.toLines.take (asks.count .next), c.skip (asks.count .next)) := by
  induction asks generalizing c with
  | nil => rw [List.count_nil, List.take_zero, skip_zero, run]
  | cons a asks ih =>
    cases a with
    | peek =>
      rw [List.count_cons_of_ne (by decide)]
      exact ih c
    | next =>
      rw [List.count_cons_self]
      obtain ⟨consumed, rest⟩ := c
      cases rest with
      | nil =>
        have hlast := ih ⟨consumed, []⟩
        simp only [toLines, List.mapIdx_nil, List.take_nil, skip, List.length_nil, Nat.min_zero,
          List.drop_nil] at hlast ⊢
        rw [run]
        exact congrArg (fun r => ([] ++ r.1, r.2)) hlast
      | cons raw rest =>
        have hnext := ih ⟨consumed + 1, rest⟩
        rw [run, next_eq ⟨consumed, raw :: rest⟩]
        refine (congrArg (fun r => ([_] ++ r.1, r.2)) hnext).trans ?_
        simp only [next, List.take_succ_cons, List.singleton_append, skip, List.drop_succ_cons,
          List.length_cons, Nat.add_min_add_right]
        rw [Nat.add_right_comm, Nat.add_assoc consumed]

theorem goOn_eq (c : Cursor) (n : Nat) : c.goOn n = (c.toLines.take n, c.skip n) := by
  rw [goOn, run_eq, List.count_replicate_self]

theorem length_toLines (c : Cursor) : c.toLines.length = c.rest.length := List.length_mapIdx

theorem next_eq_none_iff : c.next = none ↔ c.rest = [] := by
  obtain ⟨consumed, rest⟩ := c
  cases rest <;> simp [next]

/-- Whoever is told that no line is left has taken all of them. -/
theorem goOn_of_exhausted {n : Nat} (h : (c.goOn n).2.next = none) : (c.goOn n).1 = c.toLines := by
  rw [goOn_eq] at h ⊢
  rw [next_eq_none_iff, skip, List.drop_eq_nil_iff, ← length_toLines] at h
  exact List.take_of_length_le h

theorem exhausted_goOn (c : Cursor) : (c.goOn c.rest.length).2.next = none := by
  rw [goOn_eq, next_eq_none_iff]
  exact List.drop_length

/-! ## From the start -/

/-- As long as there are few enough lines, no number is cut off. -/
theorem toLines_start (hfew : document.count '\n' + 1 < Width.of32) :
    (start document).toLines = numbered document := by
  have hlength := Text.length_pieces '\n' document
  unfold toLines start numbered Text.lines
  rw [Text.pieces_eq_splitOn] at hlength ⊢
  refine List.mapIdx_eq_mapIdx_iff.mpr fun i hi => ?_
  change i < (document.splitOn '\n').length at hi
  have hlast : i + 1 ≤ Line.lastNumber :=
    Nat.le_of_lt_succ (Nat.lt_of_le_of_lt (Nat.le_trans hi (Nat.le_of_eq hlength)) hfew)
  rw [Line.ofRaw, Nat.zero_add, Nat.min_eq_left hlast]

theorem length_numbered (document : List Char) :
    (numbered document).length = 1 + document.count '\n' := by
  rw [numbered, List.length_mapIdx, ← Text.pieces_eq_splitOn, Text.length_pieces, Nat.add_comm]

/-- **Looking ahead agrees with going on**, after any questions and in any document. -/
theorem lookahead_agrees (document : List Char) (hfew : document.count '\n' + 1 < Width.of32)
    (asks : List Ask) :
    let (lines, here) := (start document).run asks
    lines = (numbered document).take (asks.count .next) ∧
      here = ((start document).goOn (asks.count .next)).2 ∧
      (here.ask .peek).2 = here ∧
      (∀ n, (here.goOn n).2.next = none →
        (here.ask .peek).1 = (here.goOn n).1.find? Line.isSignificant) ∧
      (∃ n, (here.goOn n).2.next = none) ∧
      here.seen = lines.length ∧
      (here.next = none → here.seen = 1 + document.count '\n') := by
  let taken := asks.count .next
  have hlines := toLines_start hfew
  have hlength := length_numbered document
  rw [← hlines, length_toLines] at hlength
  have hfewer : min taken (start document).rest.length ≤ Line.lastNumber := by
    refine Nat.le_trans (Nat.min_le_right _ _) ?_
    rw [hlength, Nat.add_comm]
    exact Nat.le_of_lt_succ hfew
  have hseen : ((start document).skip taken).seen = min taken (start document).rest.length := by
    rw [seen, skip, start, Nat.zero_add]
    exact Nat.min_eq_left hfewer
  rw [run_eq]
  refine ⟨by rw [hlines], by rw [goOn_eq], rfl, fun n hn => ?_, ?_, ?_, fun hend => ?_⟩
  · rw [goOn_of_exhausted hn]
    exact peek_eq _
  · exact ⟨_, exhausted_goOn ((start document).skip taken)⟩
  · rw [hseen, List.length_take, length_toLines]
  · rw [next_eq_none_iff, skip, List.drop_eq_nil_iff] at hend
    rw [hseen, Nat.min_eq_right hend, hlength]

/-- Looking ahead from behind the first of three lines, past a comment. -/
theorem lookahead_past_comment :
    let document := ['A', ':', '\n', '#', 'b', '\n', ' ', 'c']
    let (lines, here) := (start document).run [.peek, .next, .peek]
    document.count '\n' + 1 < Width.of32 ∧ lines = [⟨1, ['A', ':'], .header ['A'] false⟩] ∧
      (here.goOn 2).2.next = none ∧ (here.ask .peek).1 = some ⟨3, ['c'], .text⟩ ∧
      here.seen = 1 := by
  intro document
  have hfew : document.count '\n' + 1 < Width.of32 := by decide
  obtain ⟨hlines, -, -, hpeek, -, hseen, -⟩ := lookahead_agrees document hfew [.peek, .next, .peek]
  have hend : ((((start document).run [.peek, .next, .peek]).2).goOn 2).2.next = none := by decide
  exact ⟨hfew, hlines.trans (by decide), hend, (hpeek 2 hend).trans (by decide),
    hseen.trans (by decide)⟩

end Cursor

end Policy

end PolicyGate
