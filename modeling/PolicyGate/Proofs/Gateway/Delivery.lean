import Mathlib.Data.List.Induction
import PolicyGate.Proofs.Gateway.Shapes

/-!
# What becomes of a body by its size

A body is read under a limit one byte past its ceiling, and then held against the ceiling. So it can
be refused for its size in two places, and the sender can break off in front of either.

* `Overruns` — some chunk takes what was delivered over a limit.
* `ReadsUnder` — what a reader of bodies is expected to do: it fails at such a chunk, and otherwise
  only if the sender breaks off.
* `RejectsBody` — the answer that refuses a body for its size.

**Theorem (`verdict_by_size`).** With any such reader a request is refused for the size of its body
if and only if this is over the ceiling, or over the ceiling by more than one byte if the sender
breaks off behind it. In this last case all other requests are failed calls. Otherwise the stages
behind the reading get the bytes of all chunks together, and how they were cut into chunks makes no
difference to anything.

A limit is overrun by some chunk if and only if it is below the total (`overruns_iff`).
-/

namespace PolicyGate

namespace Upload

variable {limit : Nat} {chunks : List (List UInt8)} {u : Upload} {limits : Limits}

/-! ## Readers -/

/-- Some chunk takes what was delivered over a limit. -/
def Overruns (limit : Nat) (chunks : List (List UInt8)) : Prop :=
  ∃ before chunk after, chunks = before ++ chunk :: after ∧ before.flatten.length ≤ limit ∧
    limit < before.flatten.length + chunk.length

/-- Why a body was not delivered. -/
inductive Failure where
  | overrun
  | brokenOff

/-- A reader fails at the first chunk that takes what was delivered over its limit, and otherwise
only if the sender breaks off. -/
structure ReadsUnder (reader : Nat → Upload → Except Failure (List UInt8)) : Prop where
  overrun : ∀ limit u, Overruns limit u.chunks → reader limit u = .error .overrun
  brokenOff : ∀ limit u, ¬ Overruns limit u.chunks → u.broken = true →
    reader limit u = .error .brokenOff
  delivered : ∀ limit u, ¬ Overruns limit u.chunks → u.broken = false → reader limit u = .ok u.bytes

/-- Reads a body with a reader, and checks its ceiling. -/
def readBy (reader : Nat → Upload → Except Failure (List UInt8)) (limits : Limits) (u : Upload) :
    Except Fault (List UInt8) :=
  match reader limits.readLimit u with
  | .error .overrun => .error (.tooLarge .body)
  | .error .brokenOff => .error (.internal "request body read failed")
  | .ok bytes => (limits.check .body bytes.length).map fun _ => bytes

/-- **A limit is overrun by a chunk if and only if all chunks together are over it.** -/
theorem overruns_iff : Overruns limit chunks ↔ limit < chunks.flatten.length := by
  constructor
  · rintro ⟨before, chunk, after, rfl, -, hover⟩
    rw [List.flatten_append, List.flatten_cons, List.length_append, List.length_append]
    omega
  · intro h
    induction chunks using List.reverseRecOn with
    | nil => exact absurd h (Nat.not_lt_zero limit)
    | append_singleton chunks chunk ih =>
      by_cases hbefore : limit < chunks.flatten.length
      · obtain ⟨before, chunk', after, rfl, hle, hover⟩ := ih hbefore
        exact ⟨before, chunk', after ++ [chunk], by simp, hle, hover⟩
      · refine ⟨chunks, chunk, [], rfl, Nat.not_lt.mp hbefore, ?_⟩
        simpa using h

/-- Gathers the chunks, and tells why it could not. -/
def gathered (limit : Nat) (u : Upload) : Except Failure (List UInt8) :=
  match gather limit [] u.chunks with
  | none => .error .overrun
  | some bytes => if u.broken then .error .brokenOff else .ok bytes

theorem readsUnder_gathered : ReadsUnder gathered := by
  have hover {limit : Nat} {u : Upload} (h : Overruns limit u.chunks) :
      gather limit [] u.chunks = none := by
    rw [gather_eq [] (Nat.zero_le limit), List.nil_append,
      if_neg (Nat.not_le.mpr (overruns_iff.mp h))]
  have hfits {limit : Nat} {u : Upload} (h : ¬ Overruns limit u.chunks) :
      gather limit [] u.chunks = some u.bytes := by
    rw [gather_eq [] (Nat.zero_le limit), List.nil_append,
      if_pos (Nat.not_lt.mp (mt overruns_iff.mpr h))]
    rfl
  refine ⟨fun limit u h => ?_, fun limit u h hb => ?_, fun limit u h hb => ?_⟩
  · simp only [gathered, hover h]
  · simp only [gathered, hfits h, hb, if_true]
  · simp only [gathered, hfits h, hb, Bool.false_eq_true, if_false]

/-- **All such readers do the same.** -/
theorem readBy_eq {reader : Nat → Upload → Except Failure (List UInt8)} (h : ReadsUnder reader)
    (limits : Limits) (u : Upload) : readBy reader limits u = u.read limits := by
  have hiff : Overruns limits.readLimit u.chunks ↔ limits.readLimit < u.bytes.length :=
    overruns_iff
  rw [read_eq]
  unfold readBy
  by_cases hover : Overruns limits.readLimit u.chunks
  · rw [h.overrun _ _ hover, if_neg (Nat.not_le.mpr (hiff.mp hover))]
  · rw [if_pos (Nat.not_lt.mp (mt hiff.mpr hover))]
    cases hb : u.broken with
    | true => rw [h.brokenOff _ _ hover hb, if_pos rfl]
    | false => rw [h.delivered _ _ hover hb, if_neg Bool.false_ne_true]

theorem read_congr {u' : Upload} (hbytes : u'.bytes = u.bytes) (hbroken : u'.broken = u.broken)
    (limits : Limits) : u'.read limits = u.read limits := by
  rw [read_eq, read_eq, hbytes, hbroken]

end Upload

/-! ## Refused for the size of the body -/

/-- The answer that refuses a body for its size. -/
structure RejectsBody (ans : Answer) : Prop where
  refused : Refused ans
  status : ans.status = 413
  notices : ans.reply.notices = [⟨0, "Payload too large."⟩]

theorem Fault.eq_tooLarge_body {f : Fault} (hs : f.code.status = 413)
    (hm : f.clientMessage = "Payload too large.") : f = .tooLarge .body := by
  cases f with
  | tooLarge part =>
    cases part with
    | body => rfl
    | code => exact absurd hm (by decide)
    | context => exact absurd hm (by decide)
  | _ => exact absurd hs (by simp [code, FaultCode.status])

namespace Gateway

variable {g : Gateway} {now : Moment} {a : Arrival} {canFallBack : Bool} {task : Option Task}
  {d : Dossier}

/-- Nothing else is answered as a body that is too large. -/
theorem rejectsBody_iff (hc : Course canFallBack (g.visit a now) (g.screened a now) d task) :
    (∃ ans ∈ d.answers, RejectsBody ans) ↔ g.Stopped now a (.tooLarge .body) := by
  constructor
  · rintro ⟨ans, hans, hr⟩
    obtain ⟨f, hf⟩ | ⟨s, hs⟩ := stages g now a
    · obtain ⟨ans', hans', -, hstatus, hnotices⟩ := answered_of_stopped hc hf
      rw [hans'] at hans
      obtain rfl := List.mem_singleton.mp hans
      rw [hr.notices] at hnotices
      have hmessage : "Payload too large." = f.clientMessage :=
        (Notice.mk.inj (List.cons.inj hnotices).1).2
      rwa [Fault.eq_tooLarge_body (hstatus.symm.trans hr.status) hmessage.symm] at hf
    · obtain ⟨f, hf, -⟩ := hc.refused hans (by rw [hr.status]; decide) (by rw [hr.status]; decide)
      rw [hs.screened] at hf
      exact absurd hf (Finding.ofTexts_ne_faulty s f)
  · intro hf
    obtain ⟨ans, hans, hr, hstatus, hnotices⟩ := answered_of_stopped hc hf
    exact ⟨ans, hans ▸ List.mem_singleton_self _, hr, hstatus, hnotices⟩

/-- A body that arrives as a whole is refused if it is over its ceiling. -/
theorem stopped_body_iff_of_whole (hmax : g.config.limits.maxBody < largestSize)
    (hb : a.upload.broken = false) :
    g.Stopped now a (.tooLarge .body) ↔ g.config.limits.maxBody < a.upload.bytes.length := by
  have hlimit : g.config.limits.readLimit = g.config.limits.maxBody + 1 :=
    Nat.min_eq_left hmax
  constructor
  · intro h
    cases h with
    | overlong h => omega
    | body hlen hwhole h => exact h
  · intro h
    by_cases hlen : a.upload.bytes.length ≤ g.config.limits.readLimit
    · exact .body hlen hb h
    · exact .overlong (Nat.not_le.mp hlen)

/-- One behind which the sender breaks off may be over it by one byte, and is not looked at. -/
theorem stopped_body_iff_of_broken (hmax : g.config.limits.maxBody < largestSize)
    (hb : a.upload.broken = true) :
    g.Stopped now a (.tooLarge .body) ↔ g.config.limits.maxBody + 1 < a.upload.bytes.length := by
  have hlimit : g.config.limits.readLimit = g.config.limits.maxBody + 1 :=
    Nat.min_eq_left hmax
  rw [← hlimit]
  constructor
  · intro h
    cases h with
    | overlong h => exact h
    | body hlen hwhole h =>
      rw [hb] at hwhole
      cases hwhole
  · exact .overlong

/-- A body that fits is handed on as it is. -/
theorem step_of_fits (h : a.upload.Fits g.config.limits) :
    g.step now (.arrived a) =
      { g with arrived := g.arrived + 1 }.received a.client a.upload.bytes (g.visit a now) now := by
  show g.arrive a now = _
  unfold arrive
  simp only [Upload.read_of_fits h]
  rfl

/-- What cannot be read is an error on record. -/
theorem errors_of_internal {detail : String} (h : g.Stopped now a (.internal detail)) :
    (g.step now (.arrived a)).1.telemetry.errors = Telemetry.plus g.telemetry.errors 1 := by
  rw [step_of_closing (congrArg Closing.ofFinding? h.screened)]
  rfl

/-- A step depends on the bytes of a body and not on its chunks. -/
theorem step_congr {u : Upload} (hbytes : u.bytes = a.upload.bytes)
    (hbroken : u.broken = a.upload.broken) :
    g.step now (.arrived { a with upload := u }) = g.step now (.arrived a) := by
  show g.arrive { a with upload := u } now = g.arrive a now
  unfold arrive
  simp only [Upload.read_congr hbytes hbroken]

/-- **What becomes of a body is decided by its size, and by whether the sender breaks off.** -/
theorem verdict_by_size {reader : Nat → Upload → Except Upload.Failure (List UInt8)}
    (hreader : Upload.ReadsUnder reader) (config : Config) (canFallBack : Bool) (begin : Moment)
    (before : List (Moment × Event)) (now : Moment) (a : Arrival) (after : List (Moment × Event))
    (hmax : config.limits.maxBody < largestSize) :
    let g₀ := start config canFallBack begin
    let g := (g₀.run before).1
    let reactions := (g₀.run (before ++ (now, .arrived a) :: after)).2
    let rejected := ∃ ans, .answered g.arrived ans ∈ reactions ∧ RejectsBody ans
    let size := a.upload.bytes.length
    Upload.readBy reader g.config.limits a.upload = a.upload.read g.config.limits ∧
    (a.upload.broken = false →
      (rejected ↔ config.limits.maxBody < size) ∧
      (size ≤ config.limits.maxBody → g.step now (.arrived a) =
        { g with arrived := g.arrived + 1 }.received a.client a.upload.bytes (g.visit a now)
          now)) ∧
    (a.upload.broken = true →
      (rejected ↔ config.limits.maxBody + 1 < size) ∧
      (size ≤ config.limits.maxBody + 1 →
        (∃ ans, (∀ ans', .answered g.arrived ans' ∈ reactions ↔ ans' = ans) ∧ Refused ans ∧
          ans.status = 500) ∧
        (g.step now (.arrived a)).1.telemetry.errors = Telemetry.plus g.telemetry.errors 1)) ∧
    ∀ chunks : List (List UInt8), chunks.flatten = a.upload.bytes →
      g.step now (.arrived { a with upload.chunks := chunks }) = g.step now (.arrived a) := by
  intro g₀ g reactions rejected size
  have hconfig : g.config = config := (settings_run g₀ before).1
  have hc := course_of_request (orderly_start config canFallBack begin) before now a after
  rw [← hconfig] at hmax ⊢
  have hrejected : rejected ↔ g.Stopped now a (.tooLarge .body) := by
    rw [← rejectsBody_iff hc]
    exact exists_congr fun ans => and_congr_left fun _ => (mem_answers_dossier g₀ _ _ ans).symm
  refine ⟨Upload.readBy_eq hreader _ _, fun hb => ⟨?_, fun hsize => ?_⟩,
    fun hb => ⟨?_, fun hsize => ?_⟩, fun chunks hchunks => step_congr hchunks rfl⟩
  · exact hrejected.trans (stopped_body_iff_of_whole hmax hb)
  · exact step_of_fits ⟨hb, Nat.le_min.mpr ⟨hsize, by omega⟩⟩
  · exact hrejected.trans (stopped_body_iff_of_broken hmax hb)
  · have hlimit : g.config.limits.readLimit = g.config.limits.maxBody + 1 :=
      Nat.min_eq_left hmax
    have hbroken : g.Stopped now a (.internal "request body read failed") :=
      .broken (hlimit ▸ hsize) hb
    obtain ⟨ans, hans, hrefused, hstatus, -⟩ := answered_of_stopped hc hbroken
    refine ⟨⟨ans, fun ans' => ?_, hrefused, hstatus⟩, errors_of_internal hbroken⟩
    rw [← mem_answers_dossier, hans, List.mem_singleton]

/-- Settings with a ceiling of three bytes for a body. -/
def narrowConfig : Config := { limits := { maxBody := 3, maxCode := 3, maxContext := 3 } }

/-- Four bytes are one too many, unless the sender breaks off behind them: then the call failed. -/
theorem verdict_of_four_bytes :
    let g₀ := start narrowConfig true 0
    let chunks : List (List UInt8) := [[0x20], [], [0x20, 0x20], [0x20]]
    let reactions (broken : Bool) := (g₀.run [(7, .arrived ⟨"r0", "a", ⟨chunks, broken⟩⟩)]).2
    (∃ ans, .answered 0 ans ∈ reactions false ∧ RejectsBody ans) ∧
      (∃ ans, .answered 0 ans ∈ reactions true ∧ ans.status = 500) ∧
      ¬ ∃ ans, .answered 0 ans ∈ reactions true ∧ RejectsBody ans := by
  intro g₀ chunks reactions
  obtain ⟨-, hwhole, -⟩ := verdict_by_size Upload.readsUnder_gathered narrowConfig true 0 [] 7
    ⟨"r0", "a", ⟨chunks, false⟩⟩ [] (by decide)
  obtain ⟨-, -, hbroken, -⟩ := verdict_by_size Upload.readsUnder_gathered narrowConfig true 0 [] 7
    ⟨"r0", "a", ⟨chunks, true⟩⟩ [] (by decide)
  obtain ⟨hrejected, hfails⟩ := hbroken rfl
  obtain ⟨⟨ans, hans, -, hstatus⟩, -⟩ := hfails (by decide)
  exact ⟨(hwhole rfl).1.mpr (by decide), ⟨ans, (hans ans).mpr rfl, hstatus⟩,
    fun h => absurd (hrejected.mp h) (by decide)⟩

end Gateway

end PolicyGate
