import PolicyGate.Engine.Capture
import PolicyGate.Host.Behaviour

/-!
# A watch under every schedule

A watched process writes to two pipes, and the watch sees reads and ends of either, a read error,
its deadline and the exit, in an order that nobody controls.

* `Schedule` — the events that a watch takes, one by one: each can come after those before it, and
  none comes once a pipe brought in more than its ceiling or the run is decided.
* `delivered` — what the reads of a pipe brought in.
* `Delivers` — what was brought in is what the process wrote, from the start and, once the pipe has
  ended, to the last byte.
* `Follows` — what the watch knows is what its schedule says.

**Theorem (`Schedule.follows`).** A watch knows of every schedule what it has come to: the bytes up
to the ceiling of each pipe, which pipes have ended, and how it was settled.

**Theorem (`Schedule.length_le`).** A schedule has at most `2 * cap + 3` events, with a deadline or
without.

The invariant `Follows` is kept by each event that can come (`Follows.next`). For the length, every
read brings in at least a byte of the room that is left, and every pipe ends once.
-/

namespace PolicyGate

open Host.Behaviour (readSize)

/-! ## Schedules -/

theorem Pipe.forall_iff {p : Pipe → Prop} : (∀ pipe, p pipe) ↔ p .stdout ∧ p .stderr := by
  constructor
  · intro h
    exact ⟨h .stdout, h .stderr⟩
  · rintro ⟨hout, herr⟩ (_ | _)
    · exact hout
    · exact herr

instance {p : Pipe → Prop} [DecidablePred p] : Decidable (∀ pipe, p pipe) :=
  decidable_of_iff _ Pipe.forall_iff.symm

namespace ProcessEvent

/-- What an event brings in from a pipe. -/
def bytes (pipe : Pipe) : ProcessEvent → List UInt8
  | .read p chunk => if p = pipe then chunk else []
  | _ => []

/-- How an event ends a watch, if it does so by itself. -/
def settles? : ProcessEvent → Option Settled
  | .read .. | .closed _ => none
  | .readFailed reason | .waitFailed reason => some (.stopped (.io reason))
  | .deadline => some (.stopped .timeout)
  | .exited status => some (.exited status)

end ProcessEvent

namespace Watch

/-- What the reads of a pipe brought in. -/
def delivered (pipe : Pipe) (es : List ProcessEvent) : List UInt8 := es.flatMap (·.bytes pipe)

/-- A watch goes on after some events: no pipe is over its ceiling, and nothing has ended it. -/
structure Going (cap : Nat) (es : List ProcessEvent) : Prop where
  delivered_le : ∀ pipe, (delivered pipe es).length ≤ cap
  settles?_eq_none : ∀ e ∈ es, e.settles? = none

instance (cap : Nat) (es : List ProcessEvent) : Decidable (Going cap es) :=
  decidable_of_iff
    ((∀ pipe, (delivered pipe es).length ≤ cap) ∧ ∀ e ∈ es, e.settles? = none)
    ⟨fun h => ⟨h.1, h.2⟩, fun h => ⟨h.1, h.2⟩⟩

/-- Whether an event can come after some others. -/
def Due (es : List ProcessEvent) : ProcessEvent → Prop
  | .read pipe chunk => .closed pipe ∉ es ∧ chunk ≠ [] ∧ chunk.length ≤ readSize
  | .closed pipe => .closed pipe ∉ es
  | .readFailed _ => ¬ ∀ pipe, .closed pipe ∈ es
  | .deadline => True
  | .exited _ | .waitFailed _ => ∀ pipe, .closed pipe ∈ es

instance (es : List ProcessEvent) : (e : ProcessEvent) → Decidable (Due es e)
  | .read pipe chunk =>
    inferInstanceAs (Decidable (.closed pipe ∉ es ∧ chunk ≠ [] ∧ chunk.length ≤ readSize))
  | .closed pipe => inferInstanceAs (Decidable (.closed pipe ∉ es))
  | .readFailed _ => inferInstanceAs (Decidable (¬ ∀ pipe, .closed pipe ∈ es))
  | .deadline => inferInstanceAs (Decidable True)
  | .exited _ | .waitFailed _ => inferInstanceAs (Decidable (∀ pipe, .closed pipe ∈ es))

/-- The events that a watch takes, in order. -/
inductive Schedule (cap : Nat) : List ProcessEvent → Prop
  | start : Schedule cap []
  | next {es : List ProcessEvent} {e : ProcessEvent} (h : Schedule cap es) (hgoing : Going cap es)
      (hdue : Due es e) : Schedule cap (es ++ [e])

/-- What was brought in comes from a process that wrote the given bytes. -/
structure Delivers (written : Pipe → List UInt8) (es : List ProcessEvent) : Prop where
  isPrefix : ∀ pipe, delivered pipe es <+: written pipe
  whole : ∀ pipe, .closed pipe ∈ es → delivered pipe es = written pipe

variable {cap : Nat} {es : List ProcessEvent} {e : ProcessEvent} {w : Watch} {pipe : Pipe}

theorem delivered_snoc (pipe : Pipe) (es : List ProcessEvent) (e : ProcessEvent) :
    delivered pipe (es ++ [e]) = delivered pipe es ++ e.bytes pipe := by
  simp [delivered]

theorem going_nil (cap : Nat) : Going cap [] := by
  constructor <;> simp [delivered]

theorem going_snoc : Going cap (es ++ [e]) ↔ Going cap es ∧ e.settles? = none ∧
    ∀ pipe, (delivered pipe es ++ e.bytes pipe).length ≤ cap := by
  constructor
  · rintro ⟨hle, hnone⟩
    refine ⟨⟨?_, ?_⟩, ?_, ?_⟩
    · intro pipe
      have := hle pipe
      rw [delivered_snoc, List.length_append] at this
      omega
    · intro e' he'
      exact hnone e' (List.mem_append_left _ he')
    · exact hnone e (by simp)
    · intro pipe
      rw [← delivered_snoc]
      exact hle pipe
  · rintro ⟨hgoing, hnone, hle⟩
    refine ⟨?_, ?_⟩
    · intro pipe
      rw [delivered_snoc]
      exact hle pipe
    · intro e' he'
      rcases List.mem_append.mp he' with he' | he'
      · exact hgoing.settles?_eq_none e' he'
      · rw [List.mem_singleton.mp he']
        exact hnone

/-- An event that ends a watch brings nothing in. -/
theorem bytes_of_settles {s : Settled} (h : e.settles? = some s) (pipe : Pipe) :
    e.bytes pipe = [] := by
  cases e <;> first | rfl | cases h

/-- **What a schedule has come to.** It goes on, or it was ended by its last event. -/
theorem Schedule.cases_end (h : Schedule cap es) :
    Going cap es ∨ ∃ before e, es = before ++ [e] ∧ Going cap before ∧ Due before e ∧
      ((∃ pipe, cap < (delivered pipe es).length) ∨ ∃ s, e.settles? = some s) := by
  cases h with
  | start => exact .inl (going_nil cap)
  | @next before e h hgoing hdue =>
    by_cases hover : ∃ pipe, cap < (delivered pipe (before ++ [e])).length
    · exact .inr ⟨before, e, rfl, hgoing, hdue, .inl hover⟩
    cases hs : e.settles? with
    | some s => exact .inr ⟨before, e, rfl, hgoing, hdue, .inr ⟨s, hs⟩⟩
    | none =>
      refine .inl (going_snoc.mpr ⟨hgoing, hs, ?_⟩)
      intro pipe
      rw [← delivered_snoc]
      exact Nat.not_lt.mp fun hlt => hover ⟨pipe, hlt⟩

/-! ## What an event does to the captures -/

@[simp] theorem capture_setCapture (w : Watch) (c : Capture) (pipe pipe' : Pipe) :
    (w.setCapture c pipe).capture pipe' = if pipe = pipe' then c else w.capture pipe' := by
  cases pipe <;> cases pipe' <;> rfl

@[simp] theorem settled_setCapture (w : Watch) (c : Capture) (pipe : Pipe) :
    (w.setCapture c pipe).settled = w.settled := by
  cases pipe <;> rfl

@[simp] theorem capture_stop (w : Watch) (f : Failure) (pipe : Pipe) :
    (w.stop f).capture pipe = w.capture pipe := by
  cases pipe <;> rfl

@[simp] theorem capture_checkCeiling (w : Watch) (pipe : Pipe) :
    w.checkCeiling.capture pipe = w.capture pipe := by
  unfold checkCeiling
  split
  · exact capture_stop ..
  · rfl

theorem settled_checkCeiling_of_truncated {w : Watch}
    (h : (w.capture pipe).truncated = true) :
    w.checkCeiling.settled = some (.stopped .outputTooLarge) := by
  have hany : (w.stdout.truncated || w.stderr.truncated) = true := by
    cases pipe with
    | stdout => exact Bool.or_eq_true_iff.mpr (.inl h)
    | stderr => exact Bool.or_eq_true_iff.mpr (.inr h)
  unfold checkCeiling
  rw [if_pos hany]
  rfl

theorem checkCeiling_eq_self {w : Watch} (h : ∀ pipe, (w.capture pipe).truncated = false) :
    w.checkCeiling = w := by
  have hout : w.stdout.truncated = false := h .stdout
  have herr : w.stderr.truncated = false := h .stderr
  unfold checkCeiling
  simp [hout, herr]

theorem drained_iff (w : Watch) : w.drained = true ↔ ∀ pipe, (w.capture pipe).closed = true := by
  rw [Pipe.forall_iff, drained, Bool.and_eq_true]
  rfl

theorem run_snoc (w : Watch) (es : List ProcessEvent) (e : ProcessEvent) :
    w.run (es ++ [e]) = if (w.run es).settled.isSome then w.run es else (w.run es).step e := by
  induction es generalizing w with
  | nil => rfl
  | cons e' es ih =>
    by_cases h : w.settled.isSome
    · simp [run, h]
    · simp only [List.cons_append, run, if_neg h]
      exact ih _

/-! ## The watch follows its schedule -/

/-- What a capture knows of its pipe after some events. -/
structure Captured (cap : Nat) (es : List ProcessEvent) (pipe : Pipe) (c : Capture) : Prop where
  cap_eq : c.cap = cap
  bytes_eq : c.bytes.toList = (delivered pipe es).take cap
  truncated_iff : c.truncated = true ↔ cap < (delivered pipe es).length
  closed_iff : c.closed = true ↔ .closed pipe ∈ es

namespace Captured

variable {c : Capture}

theorem start (cap : Nat) (pipe : Pipe) : Captured cap [] pipe (.start cap) := by
  constructor <;> simp [Capture.start, delivered]

theorem size_le (h : Captured cap es pipe c) : c.bytes.size ≤ cap := by
  have := congrArg List.length h.bytes_eq
  rw [Array.length_toList, List.length_take] at this
  omega

/-- A read adds its bytes to what fitted so far. -/
theorem read (h : Captured cap es pipe c) (hle : (delivered pipe es).length ≤ cap)
    (chunk : List UInt8) : Captured cap (es ++ [.read pipe chunk]) pipe (c.read chunk) := by
  have hroom : c.bytes.size ≤ c.cap := by
    rw [h.cap_eq]
    exact h.size_le
  have hbytes : c.bytes.toList = delivered pipe es := by
    rw [h.bytes_eq, List.take_of_length_le hle]
  have hsize : c.bytes.size = (delivered pipe es).length := by
    rw [← Array.length_toList, hbytes]
  have hnext : delivered pipe (es ++ [.read pipe chunk]) = delivered pipe es ++ chunk := by
    rw [delivered_snoc]
    simp [ProcessEvent.bytes]
  refine ⟨?_, ?_, ?_, ?_⟩
  · rw [Capture.cap_read, h.cap_eq]
  · rw [Capture.toList_read c chunk hroom, hbytes, h.cap_eq, hnext]
  · have hfits : c.truncated = false := by
      rw [← Bool.not_eq_true, h.truncated_iff]
      omega
    rw [Capture.truncated_read c chunk hroom, hfits, hsize, h.cap_eq, hnext, Bool.false_or,
      decide_eq_true_iff, List.length_append]
  · rw [Capture.closed_read, h.closed_iff]
    simp

theorem close (h : Captured cap es pipe c) :
    Captured cap (es ++ [.closed pipe]) pipe c.close := by
  have hnext : delivered pipe (es ++ [.closed pipe]) = delivered pipe es := by
    simp [delivered_snoc, ProcessEvent.bytes]
  refine ⟨h.cap_eq, ?_, ?_, ?_⟩
  · rw [hnext]
    exact h.bytes_eq
  · rw [hnext]
    exact h.truncated_iff
  · simp [Capture.close]

/-- An event that is no concern of the pipe changes nothing. -/
theorem other (h : Captured cap es pipe c) (hbytes : e.bytes pipe = [])
    (hclosed : e ≠ .closed pipe) : Captured cap (es ++ [e]) pipe c := by
  have hnext : delivered pipe (es ++ [e]) = delivered pipe es := by
    rw [delivered_snoc, hbytes, List.append_nil]
  refine ⟨h.cap_eq, ?_, ?_, ?_⟩
  · rw [hnext]
    exact h.bytes_eq
  · rw [hnext]
    exact h.truncated_iff
  · rw [h.closed_iff]
    simp [hclosed.symm]

end Captured

/-- What a watch knows after some events. -/
structure Follows (cap : Nat) (es : List ProcessEvent) (w : Watch) : Prop where
  captured : ∀ pipe, Captured cap es pipe (w.capture pipe)
  of_over : (∃ pipe, cap < (delivered pipe es).length) →
    w.settled = some (.stopped .outputTooLarge)
  of_settles : ∀ e ∈ es, ∀ s, e.settles? = some s → w.settled = some s
  of_going : Going cap es → w.settled = none

theorem follows_start (cap : Nat) : Follows cap [] (start cap) where
  captured pipe := by
    cases pipe with
    | stdout => exact Captured.start cap .stdout
    | stderr => exact Captured.start cap .stderr
  of_over h := by simp [delivered] at h
  of_settles e h := absurd h List.not_mem_nil
  of_going _ := rfl

namespace Follows

theorem drained_iff (h : Follows cap es w) :
    w.drained = true ↔ ∀ pipe, .closed pipe ∈ es := by
  rw [Watch.drained_iff]
  exact forall_congr' fun pipe => (h.captured pipe).closed_iff

/-- What a due event does to the captures. -/
theorem captured_next (h : Follows cap es w) (hgoing : Going cap es) (hdue : Due es e)
    (pipe : Pipe) : Captured cap (es ++ [e]) pipe ((w.step e).capture pipe) := by
  have hc := h.captured pipe
  cases e with
  | read p chunk =>
    have hopen : ¬ (w.capture p).closed = true := mt (h.captured p).closed_iff.mp hdue.1
    simp only [step, if_neg hopen, capture_checkCeiling, capture_setCapture]
    by_cases hp : p = pipe
    · subst hp
      rw [if_pos rfl]
      exact hc.read (hgoing.delivered_le p) chunk
    · rw [if_neg hp]
      exact hc.other (by simp [ProcessEvent.bytes, hp]) (by simp)
  | closed p =>
    simp only [step, capture_setCapture]
    by_cases hp : p = pipe
    · subst hp
      rw [if_pos rfl]
      exact hc.close
    · rw [if_neg hp]
      exact hc.other rfl (by simpa using hp)
  | readFailed reason =>
    have hkeep : (w.step (.readFailed reason)).capture pipe = w.capture pipe := by
      simp only [step]
      split <;> simp
    rw [hkeep]
    exact hc.other rfl (by simp)
  | deadline =>
    simp only [step, capture_stop]
    exact hc.other rfl (by simp)
  | exited status =>
    have hkeep : (w.step (.exited status)).capture pipe = w.capture pipe := by
      simp only [step]
      split <;> cases pipe <;> rfl
    rw [hkeep]
    exact hc.other rfl (by simp)
  | waitFailed reason =>
    have hkeep : (w.step (.waitFailed reason)).capture pipe = w.capture pipe := by
      simp only [step]
      split <;> simp
    rw [hkeep]
    exact hc.other rfl (by simp)

/-- A due event that ends a watch does so. -/
theorem settled_of_settles (h : Follows cap es w) (hdue : Due es e) {s : Settled}
    (hs : e.settles? = some s) : (w.step e).settled = some s := by
  cases e with
  | read p chunk => cases hs
  | closed p => cases hs
  | readFailed reason =>
    have hopen : ¬ w.drained = true := mt h.drained_iff.mp hdue
    simp only [step, if_neg hopen]
    exact hs
  | deadline => exact hs
  | exited status =>
    simp only [step, if_pos (h.drained_iff.mpr hdue)]
    exact hs
  | waitFailed reason =>
    simp only [step, if_pos (h.drained_iff.mpr hdue)]
    exact hs

/-- An event that ends nothing settles a watch only by passing a ceiling. -/
theorem settled_of_none (h : Follows cap es w) (hgoing : Going cap es) (hdue : Due es e)
    (hs : e.settles? = none) : ((∃ pipe, cap < (delivered pipe (es ++ [e])).length) →
      (w.step e).settled = some (.stopped .outputTooLarge)) ∧
    ((∀ pipe, (delivered pipe (es ++ [e])).length ≤ cap) → (w.step e).settled = none) := by
  have hnone := h.of_going hgoing
  cases e with
  | read p chunk =>
    have hopen : ¬ (w.capture p).closed = true := mt (h.captured p).closed_iff.mp hdue.1
    have hnext := h.captured_next hgoing hdue
    simp only [step, if_neg hopen, capture_checkCeiling] at hnext ⊢
    constructor
    · rintro ⟨pipe, hover⟩
      exact settled_checkCeiling_of_truncated ((hnext pipe).truncated_iff.mpr hover)
    · intro hle
      rw [checkCeiling_eq_self, settled_setCapture, hnone]
      intro pipe
      rw [← Bool.not_eq_true, (hnext pipe).truncated_iff]
      exact Nat.not_lt.mpr (hle pipe)
  | closed p =>
    constructor
    · rintro ⟨pipe, hover⟩
      have hle := hgoing.delivered_le pipe
      simp [delivered_snoc, ProcessEvent.bytes] at hover
      omega
    · intro _
      simp only [step, settled_setCapture, hnone]
  | readFailed reason => cases hs
  | deadline => cases hs
  | exited status => cases hs
  | waitFailed reason => cases hs

/-- **A watch follows each event that is due.** -/
theorem next (h : Follows cap es w) (hgoing : Going cap es) (hdue : Due es e) :
    Follows cap (es ++ [e]) (w.step e) := by
  have hbefore : ∀ e' ∈ es, e'.settles? = none := hgoing.settles?_eq_none
  cases hs : e.settles? with
  | some s =>
    have hsettled := h.settled_of_settles hdue hs
    refine ⟨h.captured_next hgoing hdue, ?_, ?_, ?_⟩
    · rintro ⟨pipe, hover⟩
      rw [delivered_snoc, bytes_of_settles hs, List.append_nil] at hover
      exact absurd hover (Nat.not_lt.mpr (hgoing.delivered_le pipe))
    · intro e' he' s' hs'
      rcases List.mem_append.mp he' with he' | he'
      · rw [hbefore e' he'] at hs'
        cases hs'
      · rw [List.mem_singleton.mp he', hs] at hs'
        rw [hsettled, hs']
    · intro hgoing'
      rw [(going_snoc.mp hgoing').2.1] at hs
      cases hs
  | none =>
    obtain ⟨hover, hfits⟩ := h.settled_of_none hgoing hdue hs
    refine ⟨h.captured_next hgoing hdue, hover, ?_, fun hgoing' => hfits hgoing'.delivered_le⟩
    intro e' he' s' hs'
    rcases List.mem_append.mp he' with he' | he'
    · rw [hbefore e' he'] at hs'
      cases hs'
    · rw [List.mem_singleton.mp he', hs] at hs'
      cases hs'

end Follows

/-- **A watch follows its schedule.** -/
theorem Schedule.follows (h : Schedule cap es) : Follows cap es ((Watch.start cap).run es) := by
  induction h with
  | start => exact follows_start cap
  | @next es e h hgoing hdue ih =>
    have hopen : ¬ ((Watch.start cap).run es).settled.isSome := by
      rw [ih.of_going hgoing]
      exact Bool.false_ne_true
    rw [run_snoc, if_neg hopen]
    exact ih.next hgoing hdue

/-! ## How long a schedule is -/

/-- One for a pipe that has ended, and zero for one that is open. -/
def ends (pipe : Pipe) (es : List ProcessEvent) : Nat := if .closed pipe ∈ es then 1 else 0

theorem ends_le_one (pipe : Pipe) (es : List ProcessEvent) : ends pipe es ≤ 1 := by
  unfold ends
  split <;> omega

theorem ends_snoc_read (pipe p : Pipe) (chunk : List UInt8) (es : List ProcessEvent) :
    ends pipe (es ++ [.read p chunk]) = ends pipe es := by
  simp [ends]

theorem ends_snoc_closed {p : Pipe} (h : .closed p ∉ es) (pipe : Pipe) :
    ends pipe (es ++ [.closed p]) = ends pipe es + if pipe = p then 1 else 0 := by
  unfold ends
  by_cases hp : pipe = p
  · subst hp
    simp [h]
  · simp [hp]

/-- **Each event of a watch that goes on takes a byte of room or an end.** -/
theorem Schedule.length_le_of_going (h : Schedule cap es) (hgoing : Going cap es) :
    es.length ≤ (delivered .stdout es).length + (delivered .stderr es).length +
      (ends .stdout es + ends .stderr es) := by
  induction h with
  | start => exact Nat.zero_le _
  | @next es e h hbefore hdue ih =>
    have hlen := ih hbefore
    have hnone := (going_snoc.mp hgoing).2.1
    rw [delivered_snoc, delivered_snoc, List.length_append, List.length_append, List.length_append,
      List.length_singleton]
    cases e with
    | read p chunk =>
      have hpos : 0 < chunk.length := List.length_pos_iff.mpr hdue.2.1
      rw [ends_snoc_read, ends_snoc_read]
      cases p <;> simp [ProcessEvent.bytes] <;> omega
    | closed p =>
      rw [ends_snoc_closed hdue, ends_snoc_closed hdue]
      cases p <;> simp [ProcessEvent.bytes] <;> omega
    | readFailed reason => cases hnone
    | deadline => cases hnone
    | exited status => cases hnone
    | waitFailed reason => cases hnone

/-- **A watch ends without its deadline.** -/
theorem Schedule.length_le (h : Schedule cap es) : es.length ≤ 2 * cap + 3 := by
  -- All but the last event belong to a watch that goes on.
  have hgone {es : List ProcessEvent} (h : Schedule cap es) (hgoing : Going cap es) :
      es.length ≤ 2 * cap + 2 := by
    have hlen := h.length_le_of_going hgoing
    have hout := hgoing.delivered_le .stdout
    have herr := hgoing.delivered_le .stderr
    have hends := ends_le_one .stdout es
    have hends' := ends_le_one .stderr es
    omega
  cases h with
  | start => exact Nat.zero_le _
  | next h hgoing hdue =>
    have hlen := hgone h hgoing
    rw [List.length_append, List.length_singleton]
    omega

/-- Past its ceiling, a pipe brings in no more than one read. -/
theorem Schedule.delivered_le (h : Schedule cap es) (pipe : Pipe) :
    (delivered pipe es).length ≤ cap + readSize := by
  cases h with
  | start => exact Nat.zero_le _
  | @next es e h hgoing hdue =>
    have hle := hgoing.delivered_le pipe
    have hlast : (e.bytes pipe).length ≤ readSize := by
      cases e with
      | read p chunk =>
        simp only [ProcessEvent.bytes]
        split
        · exact hdue.2.2
        · exact Nat.zero_le _
      | closed p => exact Nat.zero_le _
      | readFailed reason => exact Nat.zero_le _
      | deadline => exact Nat.zero_le _
      | exited status => exact Nat.zero_le _
      | waitFailed reason => exact Nat.zero_le _
    rw [delivered_snoc, List.length_append]
    omega

end Watch

end PolicyGate
