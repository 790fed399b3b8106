/-!
# Blank characters and trimming

`isBlank` is the Unicode property White_Space, a closed list of twenty-five characters. Trimming
drops blanks from both ends. Main statements: **a trimmed text neither starts nor ends with a
blank** (`head?_trim`, `getLast?_trim`), a text without blanks at its ends is its own trim
(`trim_eq_self`), and further blanks at the ends make no difference (`trim_pad`).
-/

namespace PolicyGate.Text

/-- The White_Space characters. -/
def isBlank (c : Char) : Bool :=
  let n := c.toNat
  (9 ≤ n && n ≤ 13) || n == 0x20 || n == 0x85 || n == 0xA0 || n == 0x1680 ||
    (0x2000 ≤ n && n ≤ 0x200A) || n == 0x2028 || n == 0x2029 || n == 0x202F || n == 0x205F ||
    n == 0x3000

/-- Drops the blanks at the front. -/
def trimLeft (cs : List Char) : List Char := cs.dropWhile isBlank

/-- Drops the blanks at the back. -/
def trimRight (cs : List Char) : List Char := (cs.reverse.dropWhile isBlank).reverse

/-- Drops the blanks at both ends. -/
def trim (cs : List Char) : List Char := trimRight (trimLeft cs)

/-- The text without the blanks at its ends. -/
def trimmed (s : String) : String := String.ofList (trim s.toList)

/-- Whether a text holds nothing but blanks. -/
def allBlank (s : String) : Bool := s.toList.all isBlank

/-! ## Both ends -/

theorem trimRight_append_of_not_blank (cs : List Char) {c : Char} (h : isBlank c = false) :
    trimRight (cs ++ [c]) = cs ++ [c] := by
  simp [trimRight, h]

theorem head?_dropWhile_blank (cs : List Char) {c : Char}
    (h : (cs.dropWhile isBlank).head? = some c) : isBlank c = false := by
  induction cs with
  | nil => simp at h
  | cons d ds ih =>
    by_cases hd : isBlank d
    · exact ih (by simpa [hd] using h)
    · have : d = c := by simpa [hd] using h
      simpa [← this] using hd

/-- The last character of a trimmed text is no blank. -/
theorem getLast?_trimRight (cs : List Char) {c : Char} (h : (trimRight cs).getLast? = some c) :
    isBlank c = false := by
  rw [trimRight, List.getLast?_reverse] at h
  exact head?_dropWhile_blank _ h

theorem trimRight_cons (c : Char) (cs : List Char) :
    trimRight (c :: cs) = if trimRight cs = [] ∧ isBlank c then [] else c :: trimRight cs := by
  simp only [trimRight, List.reverse_cons, List.dropWhile_append]
  by_cases h : (cs.reverse.dropWhile isBlank) = []
  · by_cases hc : isBlank c <;> simp [h, hc]
  · simp [h]

/-- The first character of a trimmed text is no blank. -/
theorem head?_trim (cs : List Char) {c : Char} (h : (trim cs).head? = some c) :
    isBlank c = false := by
  rw [trim] at h
  cases hl : trimLeft cs with
  | nil => simp [hl, trimRight] at h
  | cons d ds =>
    have hd : isBlank d = false := head?_dropWhile_blank cs (by rw [← trimLeft, hl]; rfl)
    rw [hl, trimRight_cons] at h
    simp only [hd, Bool.false_eq_true, and_false, if_false, List.head?_cons] at h
    simpa [← Option.some.inj h] using hd

theorem getLast?_trim (cs : List Char) {c : Char} (h : (trim cs).getLast? = some c) :
    isBlank c = false :=
  getLast?_trimRight _ h

/-- A text with no blank at either end is left alone. -/
theorem trim_eq_self {cs : List Char} (hh : ∀ c, cs.head? = some c → isBlank c = false)
    (hl : ∀ c, cs.getLast? = some c → isBlank c = false) : trim cs = cs := by
  have hleft : trimLeft cs = cs := by
    cases cs with
    | nil => rfl
    | cons c ds => simp [trimLeft, hh c rfl]
  rw [trim, hleft, trimRight]
  cases hr : cs.reverse with
  | nil => simpa using hr.symm
  | cons c ds =>
    have : cs.getLast? = some c := by rw [List.getLast?_eq_head?_reverse, hr]; rfl
    rw [List.dropWhile_cons_of_neg (by simp [hl c this]), ← hr, List.reverse_reverse]

theorem trim_trim (cs : List Char) : trim (trim cs) = trim cs :=
  trim_eq_self (fun _ h => head?_trim cs h) (fun _ h => getLast?_trim cs h)

/-- Nothing is left of a text exactly if all of it is blank. -/
theorem trim_eq_nil_iff {cs : List Char} : trim cs = [] ↔ ∀ c ∈ cs, isBlank c = true := by
  constructor
  · intro h
    have hleft : trimLeft cs = [] := by
      cases hl : trimLeft cs with
      | nil => rfl
      | cons c ds =>
        have hc : isBlank c = false := head?_dropWhile_blank cs (by rw [← trimLeft, hl]; rfl)
        rw [trim, hl, trimRight_cons, if_neg (by simp [hc])] at h
        cases h
    have hall : cs.takeWhile isBlank = cs := by
      rw [← List.append_nil (cs.takeWhile isBlank), ← hleft, trimLeft,
        List.takeWhile_append_dropWhile]
    rw [← List.all_eq_true, ← hall]
    exact List.all_takeWhile
  · intro h
    rw [trim, trimLeft, ← List.append_nil cs, List.dropWhile_append_of_pos h]
    rfl

/-- Trimming leaves a part of the text. -/
theorem trim_infix (cs : List Char) : trim cs <:+: cs := by
  have hleft : trimLeft cs <:+ cs := List.dropWhile_suffix _
  have hright : trimRight (trimLeft cs) <+: trimLeft cs := by
    rw [← List.reverse_suffix, trimRight, List.reverse_reverse]
    exact List.dropWhile_suffix _
  exact hright.isInfix.trans hleft.isInfix

theorem trimRight_append_blanks (cs : List Char) {back : List Char}
    (h : ∀ c ∈ back, isBlank c = true) : trimRight (cs ++ back) = trimRight cs := by
  have hback : ∀ c ∈ back.reverse, isBlank c = true := fun c hc => h c (List.mem_reverse.mp hc)
  rw [trimRight, List.reverse_append, List.dropWhile_append_of_pos hback, trimRight]

theorem trim_blanks_append {front : List Char} (h : ∀ c ∈ front, isBlank c = true)
    (cs : List Char) : trim (front ++ cs) = trim cs := by
  rw [trim, trimLeft, List.dropWhile_append_of_pos h, trim, trimLeft]

theorem trim_append_blanks (cs : List Char) {back : List Char}
    (h : ∀ c ∈ back, isBlank c = true) : trim (cs ++ back) = trim cs := by
  rw [trim, trim, trimLeft, List.dropWhile_append, ← trimLeft]
  split
  · next hempty =>
    have hnil : trimLeft cs = [] := List.isEmpty_iff.mp hempty
    have hnone : (back ++ []).dropWhile isBlank = [] := List.dropWhile_append_of_pos h
    rw [hnil, ← List.append_nil back, hnone]
  · exact trimRight_append_blanks _ h

/-- Blanks at the ends make no difference. -/
theorem trim_pad {front back : List Char} (hfront : ∀ c ∈ front, isBlank c = true)
    (hback : ∀ c ∈ back, isBlank c = true) (cs : List Char) :
    trim (front ++ cs ++ back) = trim cs := by
  rw [trim_append_blanks _ hback, trim_blanks_append hfront]

end PolicyGate.Text
