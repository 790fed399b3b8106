import PolicyGate.Proofs.Engine.Verdict
import PolicyGate.Proofs.Policy.Announcement

/-!
# What a stopped run surfaces

A run that is stopped keeps what was captured so far, and its failure is written behind it.

* `Watch.stoppedBy?` — the failure that stopped a run. A watch that is not settled is stopped at its
  deadline.
* `Failure.Plain` — the text of a failure is one line and holds no marker.
* `lineEnded` — a text whose last line has an end, unless there is no line.

**Theorem (`stopped_keeps_actions`).** A stopped run surfaces the standard output as it was
captured, and the error output with a plain failure on a line of its own behind it. The actions are
those announced in the standard output, or in the captured error output if there is no other.

A text is cut at its newlines before it is searched. So an ended line and what follows it are
searched apart, wherever the capture broke off (`actions_lineEnded_append`), and a plain text adds
nothing.
-/

namespace PolicyGate

open Policy (actions actions_append actions_of_line)
open Policy.Action (marker ofLine?_of_plain)

/-! ## Ended lines -/

/-- A text with a newline behind it if it has none at its end and is not empty. -/
def lineEnded (text : List Char) : List Char :=
  if text = [] ∨ text.getLast? = some '\n' then text else text ++ ['\n']

theorem lineEnded_cases (text : List Char) : (text = [] ∧ lineEnded text = []) ∨
    ∃ front, lineEnded text = front ++ ['\n'] ∧ (text = front ∨ text = front ++ ['\n']) := by
  unfold lineEnded
  split
  · next h =>
    rcases h with rfl | h
    · exact .inl ⟨rfl, rfl⟩
    · obtain ⟨front, rfl⟩ := List.getLast?_eq_some_iff.mp h
      exact .inr ⟨front, rfl, .inr rfl⟩
  · exact .inr ⟨text, rfl, .inl rfl⟩

/-- **Behind an ended line, actions are read apart.** -/
theorem actions_lineEnded_append (text later : List Char) :
    actions (lineEnded text ++ later) = actions text ++ actions later := by
  have hnone : actions [] = [] := rfl
  rcases lineEnded_cases text with ⟨rfl, hended⟩ | ⟨front, hended, rfl | rfl⟩
  · rw [hended, hnone, List.nil_append, List.nil_append]
  · rw [hended, List.append_assoc, List.singleton_append, actions_append]
  · rw [hended, List.append_assoc, List.singleton_append, actions_append, actions_append, hnone,
      List.append_nil]

/-- What follows an ended line is a line of its own. -/
theorem getLast?_lines_lineEnded_append (text : List Char) {line : List Char} (h : '\n' ∉ line) :
    (Text.lines (lineEnded text ++ line)).getLast? = some line := by
  have hline : Text.lines line = [line] := Text.pieces_of_not_mem h
  rcases lineEnded_cases text with ⟨-, hended⟩ | ⟨front, hended, -⟩
  · rw [hended, List.nil_append, hline]
    rfl
  · have happend : Text.lines (front ++ '\n' :: line) = Text.lines front ++ Text.lines line :=
      Text.pieces_append_sep '\n' front line
    rw [hended, List.append_assoc, List.singleton_append, happend, hline, List.getLast?_concat]

/-! ## Failure texts -/

/-- The text of a failure is one line, in which no action is announced. -/
structure Failure.Plain (f : Failure) : Prop where
  one_line : '\n' ∉ f.message.toList
  no_marker : ¬ marker <:+: f.message.toList

namespace Failure

variable {f : Failure}

theorem Plain.announced_eq (h : f.Plain) : announced f.message = [] := by
  unfold announced
  rw [actions_of_line h.one_line, ofLine?_of_plain h.no_marker]
  rfl

theorem plain_timeout : Plain .timeout := ⟨by decide, by decide⟩

theorem plain_outputTooLarge : Plain .outputTooLarge := ⟨by decide, by decide⟩

/-- A read error is as plain as its reason. -/
theorem plain_io {reason : String} (hline : '\n' ∉ reason.toList)
    (hmarker : ¬ marker <:+: reason.toList) : Plain (.io reason) := by
  have hlead : '\n' ∉ "engine io failed: ".toList ∧ '-' ∉ "engine io failed: ".toList := by decide
  have htext : (Failure.io reason).message.toList = "engine io failed: ".toList ++ reason.toList :=
    String.toList_append
  constructor
  · rw [htext, List.mem_append]
    exact not_or.mpr ⟨hlead.1, hline⟩
  · rw [htext]
    rintro ⟨before, after, h⟩
    rw [List.append_assoc] at h
    -- The marker begins with a hyphen, and in front of the reason there is none.
    rcases List.append_eq_append_iff.mp h with ⟨more, hfront, hrest⟩ | ⟨more, -, hrest⟩
    · cases more with
      | nil => exact hmarker ⟨[], after, hrest⟩
      | cons c more =>
        obtain ⟨rfl, -⟩ := List.cons.inj hrest
        refine hlead.2 ?_
        rw [hfront]
        exact List.mem_append_right _ List.mem_cons_self
    · exact hmarker ⟨more, after, by rw [hrest, List.append_assoc]⟩

end Failure

namespace Watch

/-! ## The outcome -/

/-- The failure that stopped a run. -/
def stoppedBy? (w : Watch) : Option Failure :=
  match w.settled with
  | some (.stopped f) => some f
  | some (.exited _) => none
  | none => some .timeout

theorem toList_appendFailure (stderr : String) (f : Failure) :
    (appendFailure stderr f).toList = lineEnded stderr.toList ++ f.message.toList := by
  have hempty : stderr.isEmpty = true ↔ stderr.toList = [] := by
    rw [String.isEmpty_iff, ← String.toList_eq_nil_iff]
  unfold appendFailure lineEnded
  by_cases h : stderr.toList = [] ∨ stderr.toList.getLast? = some '\n'
  · have hlead : (stderr.isEmpty || stderr.toList.getLast? = some '\n') = true := by
      simpa [hempty] using h
    rw [if_pos h, if_pos hlead, String.toList_append]
  · have hlead : ¬ (stderr.isEmpty || stderr.toList.getLast? = some '\n') = true := by
      simpa [hempty] using h
    rw [if_neg h, if_neg hlead, String.toList_append, String.toList_push]

/-- **A failure adds the actions of its own text.** -/
theorem announced_appendFailure (stderr : String) (f : Failure) :
    announced (appendFailure stderr f) = announced stderr ++ announced f.message := by
  unfold announced
  rw [toList_appendFailure, actions_lineEnded_append, List.map_append]

/-- What a stopped run gives. -/
theorem outcome_of_stopped (policyCodes : List Int) {w : Watch} {f : Failure}
    (h : w.stoppedBy? = some f) :
    let o := w.outcome policyCodes
    o.failure = some f ∧ o.stdout = w.stdout.text ∧ o.stderr = appendFailure w.stderr.text f ∧
      o.actions = announced (if o.stdout.isEmpty then o.stderr else o.stdout) := by
  have hsettled : w.settled = some (.stopped f) ∨ w.settled = none ∧ f = .timeout := by
    unfold stoppedBy? at h
    split at h
    · next hw => exact .inl (hw.trans (congrArg _ (congrArg _ (Option.some.inj h))))
    · cases h
    · next hw => exact .inr ⟨hw, (Option.some.inj h).symm⟩
  have hsource (f : Failure) (a b : String) :
      (if (some f).isNone || !a.isEmpty then a else b) = if a.isEmpty then b else a := by
    cases a.isEmpty <;> rfl
  unfold outcome
  rcases hsettled with hw | ⟨hw, rfl⟩
  · rw [hw]
    dsimp only
    exact ⟨rfl, rfl, rfl, congrArg announced (hsource _ _ _)⟩
  · rw [hw]
    dsimp only
    exact ⟨rfl, rfl, rfl, congrArg announced (hsource _ _ _)⟩

/-- **Only a read error brings a text from outside**, so the failure of a stopped run is plain
otherwise. -/
theorem Schedule.plain_of_stopped {cap : Nat} {es : List ProcessEvent} (h : Schedule cap es)
    {f : Failure} (hf : ((Watch.start cap).run es).stoppedBy? = some f)
    (hreason : ∀ reason, f = .io reason →
      '\n' ∉ reason.toList ∧ ¬ marker <:+: reason.toList) : f.Plain := by
  by_cases hlarge : f = .outputTooLarge
  · rw [hlarge]
    exact Failure.plain_outputTooLarge
  unfold stoppedBy? at hf
  split at hf
  · next g hg =>
    obtain rfl := Option.some.inj hf
    obtain ⟨e, -, he⟩ := (h.settled_iff (by simpa using hlarge)).mp hg
    cases e with
    | deadline =>
      cases he
      exact Failure.plain_timeout
    | readFailed reason =>
      cases he
      exact Failure.plain_io (hreason reason rfl).1 (hreason reason rfl).2
    | waitFailed reason =>
      cases he
      exact Failure.plain_io (hreason reason rfl).1 (hreason reason rfl).2
    | read pipe chunk => cases he
    | closed pipe => cases he
    | exited status => cases he
  · cases hf
  · obtain rfl := Option.some.inj hf
    exact Failure.plain_timeout

/-- **A stopped run keeps what was captured, and its failure text changes no action.** -/
theorem stopped_keeps_actions (policyCodes : List Int) (w : Watch) (f : Failure)
    (hstop : w.stoppedBy? = some f) (hline : '\n' ∉ f.message.toList)
    (hmarker : ¬ marker <:+: f.message.toList) :
    let o := w.outcome policyCodes
    let captured := w.stderr.text
    let ended := captured = "" ∨ captured.toList.getLast? = some '\n'
    o.failure = some f ∧ o.stdout = w.stdout.text ∧
      (ended → o.stderr = captured ++ f.message) ∧
      (¬ ended → o.stderr = captured ++ "\n" ++ f.message) ∧
      (Text.lines o.stderr.toList).getLast? = some f.message.toList ∧
      (w.stdout.text ≠ "" → o.actions = announced w.stdout.text) ∧
      (w.stdout.text = "" → o.actions = announced captured) := by
  intro o captured ended
  obtain ⟨hfailure, hstdout, hstderr, hactions⟩ := outcome_of_stopped policyCodes hstop
  have hplain : announced f.message = [] := Failure.Plain.announced_eq ⟨hline, hmarker⟩
  have htext : o.stderr.toList = lineEnded captured.toList ++ f.message.toList := by
    rw [← toList_appendFailure]
    exact congrArg String.toList hstderr
  have hempty : captured = "" ↔ captured.toList = [] := String.toList_eq_nil_iff.symm
  refine ⟨hfailure, hstdout, ?_, ?_, ?_, ?_, ?_⟩
  · intro h
    apply String.toList_inj.mp
    rw [htext, String.toList_append, lineEnded, if_pos (h.imp_left hempty.mp)]
  · intro h
    apply String.toList_inj.mp
    rw [htext, String.toList_append, String.toList_append, lineEnded,
      if_neg (mt (Or.imp_left hempty.mpr) h)]
    rfl
  · rw [htext]
    exact getLast?_lines_lineEnded_append captured.toList hline
  · intro h
    rw [hstdout, if_neg (by simpa using h)] at hactions
    exact hactions
  · intro h
    rw [hstdout, if_pos (by simpa using h), hstderr, announced_appendFailure, hplain,
      List.append_nil] at hactions
    exact hactions

/-- An announcement that breaks off in its name, behind which the run is stopped. -/
theorem stopped_in_announcement :
    let capture (s : String) : Capture := ⟨(Utf8.encode s).toArray, 16, false, false⟩
    let f : Failure := .io "broken pipe"
    let w : Watch := ⟨capture "", capture "-> EXECUTE: Co", some (.stopped f)⟩
    w.stoppedBy? = some f ∧ '\n' ∉ f.message.toList ∧ ¬ marker <:+: f.message.toList ∧
      w.stderr.text = "-> EXECUTE: Co" ∧
      (w.outcome []).stderr = "-> EXECUTE: Co\nengine io failed: broken pipe" ∧
      (w.outcome []).actions = ["Co"] := by
  intro capture f w
  have htext (s : String) : (capture s).text = s := by
    unfold Capture.text
    rw [Utf8.lossy_encode, String.ofList_toList]
  have hcaptured : w.stderr.text = "-> EXECUTE: Co" := htext _
  obtain ⟨-, -, -, hstderr, -, -, hactions⟩ :=
    stopped_keeps_actions [] w f rfl (by decide) (by decide)
  rw [hcaptured] at hstderr hactions
  exact ⟨rfl, by decide, by decide, hcaptured, hstderr (by decide),
    (hactions (htext "")).trans (by decide)⟩

end Watch

end PolicyGate
