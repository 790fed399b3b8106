import PolicyGate.Proofs.Gateway.Trace

/-!
# The course of a request

A trace mixes what happens to many requests. The *dossier* of a request holds what concerns it: each
attempt of an engine and how it ended, whether the caller left meanwhile, and the answers. It is
read off the trace and knows nothing of the gateway.

* `Course` — the few dossiers that a request can have, given what it was found to be on arrival. It
  was closed at once; or an engine runs for it; or the last engine has ended.
* `Surfaces` — the result that ended attempts give.

**Theorem (`course_of_request`).** In every run the dossier of every request is one of a `Course`.

An event about another request leaves the dossier and the task alone. An event about the request
itself finds its task in the state that the dossier tells, so the same way is gone in both
(`Way.course`).
-/

namespace PolicyGate

/-! ## Dossiers -/

/-- A run of an engine for a request, and how it ended, if it has. -/
structure Attempt where
  role : EngineRole
  input : EngineInput
  ending : Option Ending
  deriving DecidableEq

/-- Ends an attempt that has not ended. -/
def Attempt.conclude (e : Ending) (t : Attempt) : Attempt :=
  { t with ending := t.ending.or (some e) }

/-- What is seen of a request. -/
structure Dossier where
  attempts : List Attempt
  /-- Whether the caller left while an engine ran. -/
  left : Bool
  answers : List Answer

namespace Dossier

/-- Nothing seen yet. -/
def empty : Dossier := ⟨[], false, []⟩

/-- Whether an engine runs. -/
def isOpen (d : Dossier) : Bool := d.attempts.any fun t => t.ending.isNone

/-- Takes in an event, if it concerns the request. -/
def happen (n : Nat) (d : Dossier) : Event → Dossier
  | .ended m e => if m = n then { d with attempts := d.attempts.map (.conclude e) } else d
  | .left m => if m = n ∧ d.isOpen then { d with left := true } else d
  | _ => d

/-- Takes in a reaction, if it concerns the request. -/
def react (n : Nat) (d : Dossier) : Reaction → Dossier
  | .called m role input =>
    if m = n then { d with attempts := d.attempts ++ [⟨role, input, none⟩] } else d
  | .answered m a => if m = n then { d with answers := d.answers ++ [a] } else d

/-- Takes in an event and then the reaction to it. -/
def follow (n : Nat) (d : Dossier) (seen : Gateway.Seen) : Dossier :=
  seen.2.elim (d.happen n seen.1) ((d.happen n seen.1).react n)

end Dossier

/-- What a trace shows of a request. -/
def Gateway.dossier (n : Nat) (trace : List Gateway.Seen) : Dossier :=
  trace.foldl (Dossier.follow n) .empty

/-- The number of the request that a reaction is about. -/
def Reaction.number : Reaction → Nat
  | .answered n _ | .called n _ _ => n

/-- The answer to a request that a reaction is. -/
def Reaction.answerTo? (n : Nat) : Reaction → Option Answer
  | .answered m a => if m = n then some a else none
  | .called .. => none

theorem Reaction.answerTo?_eq_some {n : Nat} {r : Reaction} {a : Answer} :
    r.answerTo? n = some a ↔ r = .answered n a := by
  cases r with
  | called m role input => exact iff_of_false nofun nofun
  | answered m b =>
    by_cases h : m = n <;> simp [answerTo?, h]

/-- The call for a request that a reaction is. -/
def Reaction.callFor? (n : Nat) : Reaction → Option (EngineRole × EngineInput)
  | .called m role input => if m = n then some (role, input) else none
  | .answered .. => none

namespace Dossier

variable {d : Dossier} {n : Nat} {e : Event} {r : Reaction}

@[simp] theorem follow_none (d : Dossier) (n : Nat) (e : Event) :
    d.follow n (e, none) = d.happen n e := rfl

@[simp] theorem follow_some (d : Dossier) (n : Nat) (e : Event) (r : Reaction) :
    d.follow n (e, some r) = (d.happen n e).react n r := rfl

theorem react_of_ne (h : r.number ≠ n) : d.react n r = d := by
  cases r with
  | answered m a => exact if_neg h
  | called m role input => exact if_neg h

theorem answers_happen (d : Dossier) (n : Nat) (e : Event) :
    (d.happen n e).answers = d.answers := by
  unfold happen
  split
  · split <;> rfl
  · split <;> rfl
  · rfl

theorem answers_follow (d : Dossier) (n : Nat) (seen : Gateway.Seen) :
    (d.follow n seen).answers =
      d.answers ++ (seen.2.bind (Reaction.answerTo? n)).toList := by
  obtain ⟨e, _ | r⟩ := seen
  · simp [answers_happen]
  · rw [follow_some]
    cases r with
    | answered m a =>
      by_cases hm : m = n <;> simp [react, hm, answers_happen, Reaction.answerTo?]
    | called m role input =>
      by_cases hm : m = n <;> simp [react, hm, answers_happen, Reaction.answerTo?]

theorem calls_happen (d : Dossier) (n : Nat) (e : Event) :
    (d.happen n e).attempts.map (fun t => (t.role, t.input)) =
      d.attempts.map fun t => (t.role, t.input) := by
  unfold happen
  split
  · split
    · simp [Attempt.conclude]
    · rfl
  · split <;> rfl
  · rfl

theorem calls_follow (d : Dossier) (n : Nat) (seen : Gateway.Seen) :
    (d.follow n seen).attempts.map (fun t => (t.role, t.input)) =
      d.attempts.map (fun t => (t.role, t.input)) ++
        (seen.2.bind (Reaction.callFor? n)).toList := by
  obtain ⟨e, _ | r⟩ := seen
  · simp [calls_happen]
  · rw [follow_some]
    cases r with
    | answered m a =>
      by_cases hm : m = n <;> simp [react, hm, calls_happen, Reaction.callFor?]
    | called m role input =>
      by_cases hm : m = n <;> simp [react, hm, calls_happen, Reaction.callFor?]

/-- What has ended does not end again. -/
theorem map_conclude {ts : List Attempt} (h : ∀ t ∈ ts, t.ending.isSome) (x : Ending) :
    ts.map (.conclude x) = ts := by
  refine (List.map_congr_left fun t ht => ?_).trans (List.map_id _)
  obtain ⟨y, hy⟩ := Option.isSome_iff_exists.mp (h t ht)
  obtain ⟨role, input, ending⟩ := t
  obtain rfl : ending = some y := hy
  rfl

/-- Once all engines have ended, no event changes a dossier. -/
theorem happen_of_concluded (h : ∀ t ∈ d.attempts, t.ending.isSome) (n : Nat) (e : Event) :
    d.happen n e = d := by
  have hopen : d.isOpen = false := by
    unfold isOpen
    rw [List.any_eq_false]
    intro t ht
    simpa using Option.isSome_iff_ne_none.mp (h t ht)
  unfold happen
  split
  · rw [map_conclude h, ite_self]
  · rw [hopen]
    simp
  · rfl

end Dossier

namespace Gateway

/-- What every reaction adds to a part of the dossier is there after a run, and no more. -/
theorem part_dossier {α : Type} {n : Nat} (part : Dossier → List α) {pick : Reaction → Option α}
    (hempty : part .empty = [])
    (hfollow : ∀ d seen, part (d.follow n seen) = part d ++ (seen.2.bind pick).toList)
    (g : Gateway) (es : List (Moment × Event)) :
    part (dossier n (g.trace es)) = (g.run es).2.filterMap pick := by
  have hfold (d : Dossier) (trace : List Seen) : part (trace.foldl (Dossier.follow n) d) =
      part d ++ (trace.filterMap Prod.snd).filterMap pick := by
    induction trace generalizing d with
    | nil => simp
    | cons seen trace ih =>
      rw [List.foldl_cons, ih, hfollow, List.append_assoc]
      obtain ⟨e, _ | r⟩ := seen
      · simp
      · cases hr : pick r <;> simp [hr]
  rw [reactions_trace]
  unfold dossier
  rw [hfold, hempty, List.nil_append]

/-- **The answers in a dossier are those given.** -/
theorem answers_dossier (g : Gateway) (es : List (Moment × Event)) (n : Nat) :
    (dossier n (g.trace es)).answers = (g.run es).2.filterMap (Reaction.answerTo? n) :=
  part_dossier Dossier.answers rfl (fun d => d.answers_follow n) g es

/-- **The attempts in a dossier are the calls made.** -/
theorem calls_dossier (g : Gateway) (es : List (Moment × Event)) (n : Nat) :
    (dossier n (g.trace es)).attempts.map (fun t => (t.role, t.input)) =
      (g.run es).2.filterMap (Reaction.callFor? n) :=
  part_dossier (fun d => d.attempts.map fun t => (t.role, t.input)) rfl
    (fun d => d.calls_follow n) g es

theorem mem_answers_dossier (g : Gateway) (es : List (Moment × Event)) (n : Nat) (a : Answer) :
    a ∈ (dossier n (g.trace es)).answers ↔ .answered n a ∈ (g.run es).2 := by
  simp only [answers_dossier, List.mem_filterMap, Reaction.answerTo?_eq_some, exists_eq_right]

end Gateway

/-! ## What attempts give -/

/-- A failure that is none of the policy: any but an exit that the engine's command lists as one. -/
def Outcome.Broke (o : Outcome) : Prop := ∃ f, o.failure = some f ∧ ∀ code, f ≠ .exit code true

/-- The result that ended attempts give: that of the secondary engine if it ran, whatever it is, and
else that of the primary, under no engine's name if it broke. -/
inductive Surfaces : List Attempt → EngineResult → Prop
  | primary {input : EngineInput} {o : Outcome} (h : ¬ o.Broke) :
    Surfaces [⟨.primary, input, some (.outcome o)⟩]
      ⟨o.stdout, o.stderr, o.actions, .primary, o.failure.isSome⟩
  | stranded {input : EngineInput} {o : Outcome} (h : o.Broke) :
    Surfaces [⟨.primary, input, some (.outcome o)⟩]
      ⟨o.stdout, o.stderr, o.actions, .none, o.failure.isSome⟩
  | secondary {first : Attempt} {input : EngineInput} {o : Outcome} :
    Surfaces [first, ⟨.secondary, input, some (.outcome o)⟩]
      ⟨o.stdout, o.stderr, o.actions, .secondary, o.failure.isSome⟩

/-- Attempts give at most one result. -/
theorem Surfaces.unique {ts : List Attempt} {r r' : EngineResult} (h : Surfaces ts r)
    (h' : Surfaces ts r') : r = r' := by
  cases h with
  | primary hb =>
    cases h' with
    | primary => rfl
    | stranded hb' => exact absurd hb' hb
  | stranded hb =>
    cases h' with
    | primary hb' => exact absurd hb hb'
    | stranded => rfl
  | secondary => cases h'; rfl

theorem Failure.isInfrastructure_iff (f : Failure) :
    f.isInfrastructure = true ↔ ∀ code, f ≠ .exit code true := by
  cases f with
  | exit code policy => cases policy <;> simp [isInfrastructure]
  | _ => simp [isInfrastructure]

theorem EngineResult.ofOutcome_eq (o : Outcome) (engine : EngineTag) :
    ofOutcome o engine = ⟨o.stdout, o.stderr, o.actions, engine, o.failure.isSome⟩ := by
  unfold ofOutcome Outcome.isOk
  cases o.failure <;> rfl

/-- What is left to do after the primary engine. -/
theorem Remainder.after_primary (canFallBack : Bool) (o : Outcome) :
    (o.Broke ∧ canFallBack = true ∧ after canFallBack .primary (.outcome o) = .secondary) ∨
    (o.Broke ∧ canFallBack = false ∧
      after canFallBack .primary (.outcome o) = .surface (.ofOutcome o .none)) ∨
    (¬ o.Broke ∧ after canFallBack .primary (.outcome o) = .surface (.ofOutcome o .primary)) := by
  unfold Outcome.Broke after Verdict.ofPrimary
  cases hf : o.failure with
  | none => simp [hf]
  | some f =>
    have hi := f.isInfrastructure_iff
    cases h : f.isInfrastructure <;> cases canFallBack <;> simp_all

/-! ## Courses -/

/-- What was tried for a request before an engine runs for it. The secondary engine runs once the
primary has broken. -/
inductive Tried (canFallBack : Bool) (input : EngineInput) : EngineRole → List Attempt → Prop
  | nothing : Tried canFallBack input .primary []
  | primary {o : Outcome}
    (h : Remainder.after canFallBack .primary (.outcome o) = .secondary) :
    Tried canFallBack input .secondary [⟨.primary, input, some (.outcome o)⟩]

/-- The dossier that a request can have, with its task, given what it was found to be. -/
inductive Course (canFallBack : Bool) (v : Visit) : Finding → Dossier → Option Task → Prop
  | closed {found : Finding} {c : Closing} (now : Moment) (h : Closing.ofFinding? found = some c) :
    Course canFallBack v found ⟨[], false, [c.answer v now]⟩ none
  | running {input : EngineInput} {rules : List Policy.Rule} {role : EngineRole}
    {earlier : List Attempt} (left : Bool) (h : Tried canFallBack input role earlier) :
    Course canFallBack v (.sound input rules) ⟨earlier ++ [⟨role, input, none⟩], left, []⟩
      (some ⟨v, input, rules, role, !left⟩)
  | finished {input : EngineInput} {rules : List Policy.Rule} {role : EngineRole}
    {earlier : List Attempt} {e : Ending} {c : Closing} (left : Bool) (now : Moment)
    (h : Tried canFallBack input role earlier)
    (hc : Closing.ofRemainder? rules (.after canFallBack role e) = some c) :
    Course canFallBack v (.sound input rules)
      ⟨earlier ++ [⟨role, input, some e⟩], left, if left then [] else [c.answer v now]⟩ none

variable {canFallBack : Bool} {v : Visit} {found : Finding} {d : Dossier}

theorem Tried.concluded {input : EngineInput} {role : EngineRole} {earlier : List Attempt}
    (h : Tried canFallBack input role earlier) : ∀ t ∈ earlier, t.ending.isSome := by
  cases h with
  | nothing => exact fun t ht => absurd ht List.not_mem_nil
  | primary h =>
    intro t ht
    rw [List.mem_singleton.mp ht]
    rfl

/-- After a primary engine that broke, the secondary is tried. -/
theorem Tried.of_secondary {input : EngineInput} {role : EngineRole} {earlier : List Attempt}
    {x : Ending} (ht : Tried canFallBack input role earlier)
    (h : Remainder.after canFallBack role x = .secondary) :
    Tried canFallBack input .secondary (earlier ++ [⟨role, input, some x⟩]) := by
  cases ht with
  | nothing =>
    cases x with
    | crashed => cases h
    | outcome o => exact .primary h
  | primary h' => cases x <;> cases h

/-- The last attempt ends, and those before have ended. -/
theorem Tried.happen_ended {input : EngineInput} {role : EngineRole} {earlier : List Attempt}
    (ht : Tried canFallBack input role earlier) (n : Nat) (x : Ending)
    (left : Bool) (answers : List Answer) :
    Dossier.happen n ⟨earlier ++ [⟨role, input, none⟩], left, answers⟩ (.ended n x) =
      ⟨earlier ++ [⟨role, input, some x⟩], left, answers⟩ := by
  simp only [Dossier.happen, if_true, List.map_append, Dossier.map_conclude ht.concluded]
  rfl

/-- Unless another engine has to run, the request is closed. -/
theorem Remainder.exists_closing {r : Remainder} (h : r ≠ .secondary) (rules : List Policy.Rule) :
    ∃ c, Closing.ofRemainder? rules r = some c := by
  cases r with
  | secondary => exact absurd rfl h
  | surface r => exact ⟨_, rfl⟩
  | crash => exact ⟨_, rfl⟩

/-- Only a crash leaves nothing to surface. -/
theorem Remainder.after_eq_crash {role : EngineRole} {x : Ending} :
    Remainder.after canFallBack role x = .crash ↔ x = .crashed := by
  cases x with
  | crashed => exact iff_of_true rfl rfl
  | outcome o =>
    refine iff_of_false ?_ nofun
    cases role with
    | secondary => exact nofun
    | primary =>
      obtain ⟨-, -, h⟩ | ⟨-, -, h⟩ | ⟨-, h⟩ := Remainder.after_primary canFallBack o <;>
        rw [h] <;> exact nofun

/-- The remainder of the last engine is the result that all attempts give. -/
theorem Tried.surfaces {input : EngineInput} {role : EngineRole} {earlier : List Attempt}
    {x : Ending} {r : EngineResult} (ht : Tried canFallBack input role earlier)
    (h : Remainder.after canFallBack role x = .surface r) :
    Surfaces (earlier ++ [⟨role, input, some x⟩]) r := by
  cases x with
  | crashed => cases h
  | outcome o =>
    cases ht with
    | primary h' =>
      obtain rfl := Remainder.surface.inj h
      rw [EngineResult.ofOutcome_eq]
      exact .secondary
    | nothing =>
      obtain ⟨-, -, he⟩ | ⟨hb, -, he⟩ | ⟨hb, he⟩ := Remainder.after_primary canFallBack o
      · rw [he] at h
        cases h
      · rw [he] at h
        obtain rfl := Remainder.surface.inj h
        rw [EngineResult.ofOutcome_eq]
        exact .stranded hb
      · rw [he] at h
        obtain rfl := Remainder.surface.inj h
        rw [EngineResult.ofOutcome_eq]
        exact .primary hb

/-- Without a task all engines have ended. -/
theorem Course.concluded (h : Course canFallBack v found d none) :
    ∀ t ∈ d.attempts, t.ending.isSome := by
  cases h with
  | closed now h => exact fun t ht => absurd ht List.not_mem_nil
  | finished left now h hc =>
    intro t ht
    rcases List.mem_append.mp ht with ht | ht
    · exact h.concluded t ht
    · rw [List.mem_singleton.mp ht]
      rfl

/-- What is closed on arrival is answered once, and no engine is called. -/
theorem Course.of_closing {c : Closing} {task : Option Task} (h : Course canFallBack v found d task)
    (hc : Closing.ofFinding? found = some c) : ∃ now, d = ⟨[], false, [c.answer v now]⟩ := by
  cases h with
  | closed now h =>
    obtain rfl := Option.some.inj (hc.symm.trans h)
    exact ⟨now, rfl⟩
  | running left h => cases hc
  | finished left now h hr => cases hc

/-- A refusal other than for a breakdown is for the fault that was found on arrival. -/
theorem Course.refused {task : Option Task} (h : Course canFallBack v found d task) {a : Answer}
    (ha : a ∈ d.answers) (h200 : a.status ≠ 200) (h500 : a.status ≠ 500) :
    ∃ f, found = .faulty f ∧ f.code.status = a.status := by
  cases h with
  | @closed found c now h =>
    obtain rfl := List.mem_singleton.mp ha
    rw [Closing.status_answer] at h200 ⊢
    exact Closing.exists_faulty h h200
  | running left h => exact absurd ha List.not_mem_nil
  | @finished input rules role earlier e c left now h hc =>
    have hmem : a ∈ [c.answer v now] := by
      cases left with
      | true => exact absurd ha List.not_mem_nil
      | false => exact ha
    obtain rfl := List.mem_singleton.mp hmem
    rw [Closing.status_answer] at h200 h500
    rcases Closing.status_of_remainder hc with hs | hs
    · exact absurd hs h200
    · exact absurd hs h500

/-- For a sound request an engine runs or has ended, after those that were tried. -/
theorem Course.attempts_sound {input : EngineInput} {rules : List Policy.Rule} {task : Option Task}
    (h : Course canFallBack v (.sound input rules) d task) :
    ∃ role earlier ending, Tried canFallBack input role earlier ∧
      d.attempts = earlier ++ [⟨role, input, ending⟩] ∧
      ∀ x, ending = some x → Remainder.after canFallBack role x ≠ .secondary := by
  cases h with
  | closed now h => cases h
  | running left h => exact ⟨_, _, _, h, rfl, nofun⟩
  | finished left now h hc =>
    refine ⟨_, _, _, h, rfl, fun x hx => ?_⟩
    obtain rfl := Option.some.inj hx
    exact Closing.ne_secondary hc

/-- If all engines have given an outcome, the request is answered with the result of these, unless
its caller has left. -/
theorem Course.surfaced {input : EngineInput} {rules : List Policy.Rule} {task : Option Task}
    (h : Course canFallBack v (.sound input rules) d task)
    (hall : ∀ t ∈ d.attempts, ∃ o, t.ending = some (.outcome o)) :
    ∃ r now, Surfaces d.attempts r ∧
      d.answers = if d.left then [] else [(Closing.ran r rules).answer v now] := by
  cases h with
  | closed now h => cases h
  | running left h =>
    obtain ⟨o, ho⟩ := hall _ (List.mem_append_right _ (List.mem_singleton_self _))
    cases ho
  | @finished input rules role earlier e c left now h hc =>
    obtain ⟨o, ho⟩ := hall _ (List.mem_append_right _ (List.mem_singleton_self _))
    obtain rfl : e = .outcome o := Option.some.inj ho
    cases hrem : Remainder.after canFallBack role (.outcome o) with
    | secondary => exact absurd hrem (Closing.ne_secondary hc)
    | crash => cases Remainder.after_eq_crash.mp hrem
    | surface r =>
      rw [hrem] at hc
      obtain rfl := Option.some.inj hc
      exact ⟨r, now, h.surfaces hrem, rfl⟩

namespace Gateway

variable {g : Gateway} {now : Moment} {e : Event} {s : Gateway × Option Reaction} {n : Nat}

/-! ## The task of a request -/

theorem task?_recorded (g : Gateway) (v : Visit) (now : Moment) (c : Closing) (n : Nat) :
    (g.recorded v now c).task? n = g.task? n := by
  unfold task?
  rw [tasks_recorded]

theorem task?_update (g : Gateway) (m n : Nat) (f : Task → Task)
    (hf : ∀ t, (f t).visit = t.visit) :
    (g.update m f).task? n = (g.task? n).map fun t => if m = n then f t else t := by
  have hsame (t : Task) : (if t.visit.number = m then f t else t).visit = t.visit := by
    split
    · exact hf t
    · rfl
  unfold task? update
  rw [List.find?_map]
  simp only [Function.comp_def, hsame]
  cases ht : g.tasks.find? fun t => t.visit.number = n with
  | none => rfl
  | some t =>
    have hnum : t.visit.number = n := by simpa using List.find?_some ht
    simp only [Option.map_some, hnum, eq_comm]

theorem task?_finish (g : Gateway) (t : Task) (n : Nat) :
    (g.finish t).task? n = if t.visit.number = n then none else g.task? n := by
  unfold task? finish release
  rw [List.find?_filter]
  split
  · next h =>
    rw [List.find?_eq_none]
    intro u _
    simp [h]
  · next h =>
    refine congrArg (fun p => List.find? p g.tasks) (funext fun u => ?_)
    by_cases hu : u.visit.number = n
    · simp [hu, Ne.symm h]
    · simp [hu]

theorem task?_launch (g : Gateway) (input : EngineInput) (rules : List Policy.Rule) (v : Visit)
    (n : Nat) : (g.launch input rules v).1.task? n =
      (g.task? n).or (if v.number = n then some ⟨v, input, rules, .primary, true⟩ else none) := by
  unfold task? launch
  rw [List.find?_append]
  by_cases h : v.number = n <;> simp [h]

/-! ## Every event keeps the course -/

/-- The end of an engine does not touch another request. -/
theorem Way.task?_ended (h : Way g now e s) {m : Nat} {x : Ending} (he : e = .ended m x)
    (hm : m ≠ n) : s.1.task? n = g.task? n ∧ ∀ r, s.2 = some r → r.number ≠ n := by
  have other {t : Task} (ht : g.task? m = some t) : t.visit.number ≠ n := by
    rw [(task?_eq_some ht).2]
    exact hm
  cases h with
  | stray h => exact ⟨rfl, fun r hr => absurd hr nofun⟩
  | @fellBack m' x' t ht h =>
    obtain ⟨rfl, rfl⟩ := Event.ended.inj he
    refine ⟨?_, fun r hr => ?_⟩
    · refine (task?_update g _ n (fun t => { t with role := .secondary }) fun _ => rfl).trans ?_
      simp only [if_neg (other ht), Option.map_id']
    · obtain rfl := Option.some.inj hr
      exact other ht
  | @finished m' x' t c ht hw h =>
    obtain ⟨rfl, rfl⟩ := Event.ended.inj he
    refine ⟨?_, fun r hr => ?_⟩
    · show ((g.finish t).recorded t.visit now c).task? n = g.task? n
      rw [task?_recorded, task?_finish, if_neg (other ht)]
    · obtain rfl := Option.some.inj hr
      exact other ht
  | @abandoned m' x' t ht hw h =>
    obtain ⟨rfl, rfl⟩ := Event.ended.inj he
    refine ⟨?_, fun r hr => absurd hr nofun⟩
    show (g.finish t).task? n = g.task? n
    rw [task?_finish, if_neg (other ht)]
  | _ => cases he

/-- A request that has arrived is not touched by another one's arrival. -/
theorem Way.task?_arrived (h : Way g now e s) {a : Arrival} (he : e = .arrived a)
    (hn : n < g.arrived) : s.1.task? n = g.task? n ∧ ∀ r, s.2 = some r → r.number ≠ n := by
  cases h with
  | @closed a' c h =>
    refine ⟨task?_recorded (g.entered a' now) _ now c n, fun r hr => ?_⟩
    obtain rfl := Option.some.inj hr
    exact Nat.ne_of_gt hn
  | @launched a' input rules h =>
    refine ⟨?_, fun r hr => ?_⟩
    · have hnew : ¬ (g.visit a' now).number = n := Nat.ne_of_gt hn
      show ((g.entered a' now).occupy.launch input rules (g.visit a' now)).1.task? n = g.task? n
      rw [task?_launch, if_neg hnew, Option.or_none]
      rfl
    · obtain rfl := Option.some.inj hr
      exact Nat.ne_of_gt hn
  | _ => cases he

theorem follow_of_other {d : Dossier} {r : Option Reaction} (he : d.happen n e = d)
    (hr : ∀ x, r = some x → x.number ≠ n) : d.follow n (e, r) = d := by
  cases r with
  | none => exact he
  | some x => rw [Dossier.follow_some, he, Dossier.react_of_ne (hr x rfl)]

/-- The end of an engine makes the task of its request fall back, or ends it. -/
theorem Way.course_ended (h : Way g now e s) {x : Ending} (he : e = .ended v.number x)
    (hc : Course g.canFallBack v found d (g.task? v.number)) :
    Course g.canFallBack v found (d.follow v.number (e, s.2)) (s.1.task? v.number) := by
  cases h with
  | stray h =>
    obtain ⟨rfl, rfl⟩ := Event.ended.inj he
    rw [h] at hc
    rw [Dossier.follow_none, Dossier.happen_of_concluded hc.concluded, h]
    exact hc
  | fellBack ht h =>
    obtain ⟨rfl, rfl⟩ := Event.ended.inj he
    rw [ht] at hc
    cases hc with
    | @running input rules role earlier left htried =>
      have htask : (g.update v.number fun t => { t with role := .secondary }).task? v.number =
          some ⟨v, input, rules, .secondary, !left⟩ := by
        refine (task?_update g _ _ (fun t => { t with role := .secondary }) fun _ => rfl).trans ?_
        rw [ht, Option.map_some, if_pos rfl]
      rw [htask, Dossier.follow_some, htried.happen_ended, Dossier.react, if_pos rfl]
      exact .running left (htried.of_secondary h)
  | @finished m x' t c ht hw h =>
    obtain ⟨rfl, rfl⟩ := Event.ended.inj he
    rw [ht] at hc
    cases hc with
    | @running input rules role earlier left htried =>
      obtain rfl : left = false := by simpa using hw
      have htask : ((g.finish ⟨v, input, rules, role, !false⟩).recorded v now c).task? v.number =
          none := by
        rw [task?_recorded, task?_finish, if_pos rfl]
      show Course _ _ _ _ (((g.finish ⟨v, input, rules, role, !false⟩).recorded v now c).task? _)
      rw [htask]
      show Course _ _ _
        ((Dossier.happen _ _ _).react v.number (.answered v.number (c.answer v now))) _
      rw [htried.happen_ended, Dossier.react, if_pos rfl]
      exact .finished false now htried h
  | abandoned ht hw h =>
    obtain ⟨rfl, rfl⟩ := Event.ended.inj he
    rw [ht] at hc
    cases hc with
    | @running input rules role earlier left htried =>
      obtain rfl : left = true := by simpa using hw
      obtain ⟨c, hclose⟩ := Remainder.exists_closing h rules
      rw [task?_finish, if_pos rfl, Dossier.follow_none, htried.happen_ended]
      exact .finished true now htried hclose
  | _ => cases he

theorem Way.course_left (h : Way g now e s) {m : Nat} (he : e = .left m)
    (hc : Course g.canFallBack v found d (g.task? v.number)) :
    Course g.canFallBack v found (d.follow v.number (e, s.2)) (s.1.task? v.number) := by
  cases h with
  | left m' =>
    obtain rfl := Event.left.inj he
    have htask : (g.update m' fun t => { t with awaited := false }).task? v.number =
        (g.task? v.number).map fun t => if m' = v.number then { t with awaited := false } else t :=
      task?_update g _ _ (fun t => { t with awaited := false }) fun _ => rfl
    rw [Dossier.follow_none, htask]
    by_cases hm : m' = v.number
    · subst hm
      cases ht : g.task? v.number with
      | none =>
        rw [ht] at hc
        rw [Dossier.happen_of_concluded hc.concluded]
        exact hc
      | some t =>
        rw [ht] at hc
        cases hc with
        | @running input rules role earlier left htried =>
          have hopen : Dossier.isOpen ⟨earlier ++ [⟨role, input, none⟩], left, []⟩ = true := by
            simp [Dossier.isOpen]
          rw [Option.map_some, if_pos rfl, Dossier.happen, if_pos ⟨rfl, hopen⟩]
          exact .running true htried
    · rw [Dossier.happen, if_neg fun h => hm h.1]
      simpa only [if_neg hm, Option.map_id'] using hc
  | _ => cases he

/-- **An event keeps the course of every request that has arrived.** -/
theorem Way.course (h : Way g now e s) (hn : v.number < g.arrived)
    (hc : Course g.canFallBack v found d (g.task? v.number)) :
    Course g.canFallBack v found (d.follow v.number (e, s.2)) (s.1.task? v.number) := by
  have quiet (hd : d.happen v.number e = d) (ht : s.1.task? v.number = g.task? v.number ∧
      ∀ r, s.2 = some r → r.number ≠ v.number) :
      Course g.canFallBack v found (d.follow v.number (e, s.2)) (s.1.task? v.number) := by
    rw [follow_of_other hd ht.2, ht.1]
    exact hc
  cases e with
  | arrived a => exact quiet rfl (h.task?_arrived rfl hn)
  | ended m x =>
    by_cases hm : m = v.number
    · subst hm
      exact h.course_ended rfl hc
    · exact quiet (if_neg hm) (h.task?_ended rfl hm)
  | left m => exact h.course_left rfl hc
  | drain => cases h; exact hc
  | resetLimiter => cases h; exact hc
  | resetTelemetry => cases h; exact hc

/-! ## Runs -/

/-- **A run keeps the course of every request that has arrived.** -/
theorem course_run (hn : v.number < g.arrived)
    (hc : Course g.canFallBack v found d (g.task? v.number)) (es : List (Moment × Event)) :
    Course g.canFallBack v found ((g.trace es).foldl (Dossier.follow v.number) d)
      ((g.run es).1.task? v.number) := by
  induction es generalizing g d with
  | nil => exact hc
  | cons e es ih =>
    obtain ⟨now, e⟩ := e
    have hw := step_way g now e
    have hnext := hw.course hn hc
    rw [← hw.settings.2.1] at hnext
    have hrest := ih (Nat.lt_of_lt_of_le hn hw.arrived_le) hnext
    rw [hw.settings.2.1] at hrest
    exact hrest

theorem task?_of_arrived_le (ho : Orderly g) (hn : g.arrived ≤ n) : g.task? n = none := by
  cases ht : g.task? n with
  | none => rfl
  | some t =>
    obtain ⟨hmem, rfl⟩ := task?_eq_some ht
    exact absurd (ho.known _ (mem_underway hmem)) (Nat.not_lt.mpr hn)

/-- The gateway reacts to none but requests that have arrived. -/
theorem Way.number_lt (h : Way g now e s) (ho : Orderly g) {r : Reaction} (hr : s.2 = some r) :
    r.number < s.1.arrived := by
  have known {m : Nat} {t : Task} (ht : g.task? m = some t) : t.visit.number < g.arrived :=
    ho.known _ (mem_underway (task?_eq_some ht).1)
  cases h with
  | @closed a c h =>
    obtain rfl := Option.some.inj hr
    show g.arrived < ((g.entered a now).recorded (g.visit a now) now c).arrived
    rw [arrived_recorded]
    exact Nat.lt_succ_self _
  | launched h =>
    obtain rfl := Option.some.inj hr
    exact Nat.lt_succ_self _
  | fellBack ht h =>
    obtain rfl := Option.some.inj hr
    exact known ht
  | @finished m x t c ht hw h =>
    obtain rfl := Option.some.inj hr
    show t.visit.number < ((g.finish t).recorded t.visit now c).arrived
    rw [arrived_recorded]
    exact known ht
  | _ => cases hr

theorem number_lt_run (ho : Orderly g) {es : List (Moment × Event)} {r : Reaction}
    (hr : r ∈ (g.run es).2) : r.number < (g.run es).1.arrived := by
  induction es generalizing g with
  | nil => exact absurd hr List.not_mem_nil
  | cons e es ih =>
    obtain ⟨now, e⟩ := e
    have hw := step_way g now e
    rw [run_cons, List.mem_append, Option.mem_toList] at hr
    rcases hr with hr | hr
    · show _ < ((g.step now e).1.run es).1.arrived
      rw [arrived_run]
      exact Nat.lt_add_right _ (hw.number_lt ho hr)
    · exact ih (hw.orderly ho) hr

/-- **Every reaction is about a request that has arrived.** -/
theorem arrival_of_reaction (ho : Orderly g) (h₀ : g.arrived = 0) {es : List (Moment × Event)}
    {r : Reaction} (hr : r ∈ (g.run es).2) :
    ∃ before now a after, es = before ++ (now, .arrived a) :: after ∧
      (g.run before).1.arrived = r.number :=
  exists_arrival (h₀ ▸ Nat.zero_le _) (number_lt_run ho hr)

/-- Nothing is seen of a request before it arrives. -/
theorem dossier_of_arrived_le (ho : Orderly g) {es : List (Moment × Event)}
    (hn : (g.run es).1.arrived ≤ n) : dossier n (g.trace es) = .empty := by
  induction es generalizing g with
  | nil => rfl
  | cons e es ih =>
    obtain ⟨now, e⟩ := e
    have hw := step_way g now e
    have hle : (g.step now e).1.arrived ≤ n :=
      Nat.le_trans (run_keeps (P := fun g' => (g.step now e).1.arrived ≤ g'.arrived)
        (fun g' now e h => Nat.le_trans h (step_way g' now e).arrived_le) (Nat.le_refl _) es) hn
    have hfirst : Dossier.empty.follow n (e, (g.step now e).2) = .empty := by
      refine follow_of_other (Dossier.happen_of_concluded (fun t ht => ?_) n e) fun r hr => ?_
      · exact absurd ht List.not_mem_nil
      · exact Nat.ne_of_lt (Nat.lt_of_lt_of_le (hw.number_lt ho hr) hle)
    unfold dossier
    rw [trace, List.foldl_cons, hfirst]
    exact ih (hw.orderly ho) hn

/-- On arrival a request is closed, or its primary engine runs. -/
theorem Way.course_arrived (h : Way g now e s) (ho : Orderly g) {a : Arrival}
    (he : e = .arrived a) :
    Course g.canFallBack (g.visit a now) (g.screened a now)
      (Dossier.empty.follow g.arrived (e, s.2)) (s.1.task? g.arrived) := by
  have hnone := task?_of_arrived_le ho (Nat.le_refl _)
  cases h with
  | @closed a' c h =>
    obtain rfl := Event.arrived.inj he
    have htask : ((g.entered a' now).recorded (g.visit a' now) now c).task? g.arrived = none :=
      (task?_recorded (g.entered a' now) _ now c _).trans hnone
    show Course _ _ _ (Dossier.empty.react g.arrived (.answered g.arrived _))
      (((g.entered a' now).recorded (g.visit a' now) now c).task? g.arrived)
    rw [htask, Dossier.react, if_pos rfl]
    exact .closed now h
  | @launched a' input rules h =>
    obtain rfl := Event.arrived.inj he
    have htask : ((g.entered a' now).occupy.launch input rules (g.visit a' now)).1.task? g.arrived =
        some ⟨g.visit a' now, input, rules, .primary, true⟩ := by
      have hsame : (g.entered a' now).occupy.task? g.arrived = none := hnone
      rw [task?_launch, hsame, Option.none_or]
      exact if_pos rfl
    show Course _ _ _ (Dossier.empty.react g.arrived (.called g.arrived .primary input)) _
    rw [htask, Dossier.react, if_pos rfl, h]
    exact .running false .nothing
  | _ => cases he

/-- **The dossier of every request is one of a course.** It begins with what the request was found
to be when it arrived. -/
theorem course_of_request (ho : Orderly g) (before : List (Moment × Event)) (now : Moment)
    (a : Arrival) (after : List (Moment × Event)) :
    let g' := (g.run before).1
    let es := before ++ (now, .arrived a) :: after
    Course g.canFallBack (g'.visit a now) (g'.screened a now) (dossier g'.arrived (g.trace es))
      ((g.run es).1.task? g'.arrived) := by
  intro g' es
  have ho' : Orderly g' := orderly_run ho before
  have hset := (settings_run g before).2.1
  have hw := step_way g' now (.arrived a)
  have hbefore : dossier g'.arrived (g.trace before) = .empty :=
    dossier_of_arrived_le ho (Nat.le_refl _)
  have hfirst := hw.course_arrived ho' rfl
  have hnum : (g'.visit a now).number < (g'.step now (.arrived a)).1.arrived := by
    rw [arrived_step]
    exact Nat.lt_succ_self _
  rw [← hw.settings.2.1] at hfirst
  have hrest := course_run hnum hfirst after
  rw [hw.settings.2.1, hset] at hrest
  have hdossier : dossier g'.arrived (g.trace es) =
      ((g'.step now (.arrived a)).1.trace after).foldl (Dossier.follow g'.arrived)
        (Dossier.empty.follow g'.arrived (.arrived a, (g'.step now (.arrived a)).2)) := by
    rw [← hbefore]
    unfold dossier
    rw [trace_append, List.foldl_append]
    rfl
  have hgateway : (g.run es).1 = ((g'.step now (.arrived a)).1.run after).1 := by
    rw [run_append]
    rfl
  rw [hdossier, hgateway]
  exact hrest

/-- **A fault with a status of its own is answered exactly if it was found on arrival.** -/
theorem refused_iff (ho : Orderly g) {before after : List (Moment × Event)} {a : Arrival}
    (f : Fault) (hown : ∀ f' : Fault, f'.code.status = f.code.status → f' = f)
    (h200 : f.code.status ≠ 200) (h500 : f.code.status ≠ 500) :
    (∃ ans, .answered (g.run before).1.arrived ans ∈
        (g.run (before ++ (now, .arrived a) :: after)).2 ∧ ans.status = f.code.status) ↔
      (g.run before).1.screened a now = .faulty f := by
  have hc := course_of_request ho before now a after
  constructor
  · rintro ⟨ans, hm, hst⟩
    rw [← hst] at h200 h500
    obtain ⟨f', hf, hst'⟩ := Course.refused hc ((mem_answers_dossier ..).mpr hm) h200 h500
    rw [← hown f' (hst'.trans hst)]
    exact hf
  · intro hf
    obtain ⟨at', hd⟩ := Course.of_closing hc (congrArg Closing.ofFinding? hf)
    refine ⟨(Closing.fault f).answer ((g.run before).1.visit a now) at', ?_, rfl⟩
    rw [← mem_answers_dossier, hd]
    exact List.mem_singleton_self _

end Gateway

end PolicyGate
