/-!
# Pieces of a text

`pieces sep` cuts a text at every `sep`, so that a text with `n` separators has `n + 1` pieces and
one that ends in a separator ends in an empty piece. Main statements: **joining the pieces gives the
text back** (`join_pieces`), and **pieces that are joined are found again** (`pieces_joinWith`).
-/

namespace PolicyGate.Text

namespace Pieces

/-- Cuts the rest of a text, given the finished pieces and the current one, both in reverse. -/
def cut (sep : Char) : List (List Char) → List Char → List Char → List (List Char)
  | done, piece, [] => (piece.reverse :: done).reverse
  | done, piece, c :: cs =>
    if c = sep then cut sep (piece.reverse :: done) [] cs else cut sep done (c :: piece) cs

end Pieces

/-- The parts of a text between occurrences of `sep`. -/
def pieces (sep : Char) (cs : List Char) : List (List Char) := Pieces.cut sep [] [] cs

/-- The lines of a text, a final newline opening one more. -/
def lines (cs : List Char) : List (List Char) := pieces '\n' cs

/-- Puts `sep` between the pieces. -/
def joinWith (sep : List Char) : List (List Char) → List Char
  | [] => []
  | [p] => p
  | p :: q :: ps => p ++ sep ++ joinWith sep (q :: ps)

/-! ## The cut as a recursion on the text -/

theorem Pieces.cut_eq (sep : Char) (done : List (List Char)) (piece cs : List Char) :
    cut sep done piece cs = done.reverse ++ cut sep [] piece cs := by
  induction cs generalizing done piece with
  | nil => simp [cut]
  | cons c cs ih =>
    simp only [cut]
    split
    · rw [ih (piece.reverse :: done), ih [piece.reverse]]
      simp
    · exact ih done (c :: piece)

@[simp] theorem pieces_nil (sep : Char) : pieces sep [] = [[]] := rfl

theorem pieces_sep (sep : Char) (cs : List Char) :
    pieces sep (sep :: cs) = [] :: pieces sep cs := by
  simp only [pieces, Pieces.cut, if_true]
  rw [Pieces.cut_eq]
  rfl

theorem Pieces.cut_piece (sep : Char) (piece cs : List Char) :
    ∃ p ps, cut sep [] [] cs = p :: ps ∧ cut sep [] piece cs = (piece.reverse ++ p) :: ps := by
  induction cs generalizing piece with
  | nil => exact ⟨[], [], rfl, by simp [cut]⟩
  | cons c cs ih =>
    simp only [cut]
    split
    · refine ⟨[], cut sep [] [] cs, ?_, ?_⟩ <;> rw [cut_eq] <;> simp
    · obtain ⟨p, ps, h, h₁⟩ := ih [c]
      obtain ⟨p', ps', h', h₂⟩ := ih (c :: piece)
      obtain ⟨rfl, rfl⟩ := List.cons.inj (h.symm.trans h')
      exact ⟨c :: p, ps, by simpa using h₁, by simpa using h₂⟩

theorem pieces_cons {sep c : Char} (h : c ≠ sep) (cs : List Char) :
    ∃ p ps, pieces sep cs = p :: ps ∧ pieces sep (c :: cs) = (c :: p) :: ps := by
  obtain ⟨p, ps, hp, hc⟩ := Pieces.cut_piece sep [c] cs
  exact ⟨p, ps, hp, by simpa [pieces, Pieces.cut, h] using hc⟩

theorem pieces_ne_nil (sep : Char) (cs : List Char) : pieces sep cs ≠ [] := by
  obtain ⟨p, ps, h, _⟩ := Pieces.cut_piece sep [] cs
  simp [pieces, h]

/-- Joining the pieces of a text gives the text. -/
theorem join_pieces (sep : Char) (cs : List Char) : joinWith [sep] (pieces sep cs) = cs := by
  induction cs with
  | nil => rfl
  | cons c cs ih =>
    by_cases h : c = sep
    · subst h
      rw [pieces_sep]
      cases hp : pieces c cs with
      | nil => exact absurd hp (pieces_ne_nil c cs)
      | cons p ps => rw [hp] at ih; simp [joinWith, ih]
    · obtain ⟨p, ps, hp, hc⟩ := pieces_cons h cs
      rw [hp] at ih
      rw [hc]
      cases ps <;> simp_all [joinWith]

theorem length_pieces (sep : Char) (cs : List Char) :
    (pieces sep cs).length = cs.count sep + 1 := by
  induction cs with
  | nil => rfl
  | cons c cs ih =>
    by_cases h : c = sep
    · subst h
      simp [pieces_sep, ih]
    · obtain ⟨p, ps, hp, hc⟩ := pieces_cons h cs
      simp_all

/-- A text without the separator is one piece. -/
theorem pieces_of_not_mem {sep : Char} {cs : List Char} (h : sep ∉ cs) : pieces sep cs = [cs] := by
  have hone : (pieces sep cs).length = 1 := by
    rw [length_pieces, List.count_eq_zero_of_not_mem h]
  obtain ⟨p, hp⟩ := List.length_eq_one_iff.mp hone
  have hjoin := join_pieces sep cs
  rw [hp] at hjoin
  rw [hp, ← hjoin]
  rfl

/-- No piece holds the separator. -/
theorem not_mem_of_mem_pieces {sep : Char} {cs p : List Char} (h : p ∈ pieces sep cs) :
    sep ∉ p := by
  induction cs generalizing p with
  | nil =>
    obtain rfl := List.mem_singleton.mp h
    exact List.not_mem_nil
  | cons c cs ih =>
    by_cases hc : c = sep
    · subst hc
      rw [pieces_sep] at h
      rcases List.mem_cons.mp h with rfl | h
      · exact List.not_mem_nil
      · exact ih h
    · obtain ⟨q, qs, hq, hcons⟩ := pieces_cons hc cs
      rw [hcons] at h
      rw [hq] at ih
      rcases List.mem_cons.mp h with rfl | h
      · have hfirst := ih List.mem_cons_self
        simp [Ne.symm hc, hfirst]
      · exact ih (List.mem_cons_of_mem _ h)

/-! ## Pieces of a text that was put together -/

theorem pieces_append_sep (sep : Char) (a b : List Char) :
    pieces sep (a ++ sep :: b) = pieces sep a ++ pieces sep b := by
  induction a with
  | nil => exact pieces_sep sep b
  | cons c a ih =>
    by_cases h : c = sep
    · subst h
      rw [List.cons_append, pieces_sep, pieces_sep, ih, List.cons_append]
    · obtain ⟨p, ps, hp, hcons⟩ := pieces_cons h a
      obtain ⟨q, qs, hq, hwhole⟩ := pieces_cons h (a ++ sep :: b)
      rw [ih, hp, List.cons_append] at hq
      obtain ⟨rfl, rfl⟩ := List.cons.inj hq
      rw [List.cons_append, hwhole, hcons, List.cons_append]

/-- Pieces that are joined are found again. -/
theorem pieces_joinWith {sep : Char} {ps : List (List Char)} (hne : ps ≠ [])
    (h : ∀ p ∈ ps, sep ∉ p) : pieces sep (joinWith [sep] ps) = ps := by
  induction ps with
  | nil => exact absurd rfl hne
  | cons p ps ih =>
    have hp : pieces sep p = [p] := pieces_of_not_mem (h p List.mem_cons_self)
    cases ps with
    | nil => exact hp
    | cons q qs =>
      have hrest := ih (List.cons_ne_nil q qs) fun p hp => h p (List.mem_cons_of_mem _ hp)
      rw [joinWith, List.append_assoc, List.singleton_append, pieces_append_sep, hp, hrest]
      rfl

/-- Pieces that each end with the separator are found again, and an empty one behind them. -/
theorem pieces_ended {sep : Char} {ps : List (List Char)} (h : ∀ p ∈ ps, sep ∉ p) :
    pieces sep (ps.flatMap (· ++ [sep])) = ps ++ [[]] := by
  induction ps with
  | nil => rfl
  | cons p ps ih =>
    have hp : pieces sep p = [p] := pieces_of_not_mem (h p List.mem_cons_self)
    rw [List.flatMap_cons, List.append_assoc, List.singleton_append, pieces_append_sep, hp,
      ih fun q hq => h q (List.mem_cons_of_mem p hq)]
    rfl

end PolicyGate.Text
