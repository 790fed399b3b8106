import PolicyGate.Proofs.Engine.Verdict

/-!
# Output does not depend on how it comes in

A pipe gives its bytes in chunks of any size, and nobody controls where they are cut.

* `Chunked` — reads that bring in a stream: none is empty, and none has more bytes than a read can.
* `Capture.drain` — reads until the pipe has ended, which an empty read shows, or was cut.
* `Watch.EndsWell` — a watch has come to an end, and no event but an exit with success ended it.

**Theorem (`output_unchunked`).** Of a stream that is read to its end, the bytes up to the ceiling
are left, and it counts as cut exactly if there were more. A process that writes a text within its
ceilings and ends well surfaces that text and the actions announced in it.

The reads up to the end are one induction, with the capture's bytes in front of those to come
(`Capture.readAll_spec`). The bytes are turned into text only when all have come, so a character may
be cut anywhere.
-/

namespace PolicyGate

open Host.Behaviour (readSize)

/-! ## One pipe -/

/-- Reads that bring in a stream. -/
structure Chunked (stream : List UInt8) (chunks : List (List UInt8)) : Prop where
  flatten_eq : chunks.flatten = stream
  ne_nil : ∀ chunk ∈ chunks, chunk ≠ []
  length_le : ∀ chunk ∈ chunks, chunk.length ≤ readSize

namespace Capture

/-- One read. If it brings in nothing, the pipe has ended. -/
def readChunk (c : Capture) (chunk : List UInt8) : Capture :=
  if chunk = [] then c.close else c.read chunk

/-- Reads until the pipe has ended or was cut. -/
def drain (c : Capture) : List (List UInt8) → Capture
  | [] => c
  | chunk :: rest => if c.closed || c.truncated then c else drain (c.readChunk chunk) rest

variable {c : Capture} {chunks : List (List UInt8)}

theorem readAll_of_truncated (h : c.truncated = true) (chunks : List (List UInt8)) :
    c.readAll chunks = c := by
  cases chunks with
  | nil => rfl
  | cons chunk rest => rw [readAll, if_pos h]

theorem drain_of_done (h : c.closed = true ∨ c.truncated = true) (chunks : List (List UInt8)) :
    c.drain chunks = c := by
  cases chunks with
  | nil => rfl
  | cons chunk rest => rw [drain, if_pos (by simpa using h)]

/-- **What the reads of a stream leave.** The bytes so far and all that come are kept up to the
ceiling. -/
theorem readAll_spec (hopen : c.truncated = false) (hsize : c.bytes.size ≤ c.cap)
    (chunks : List (List UInt8)) :
    (c.readAll chunks).bytes.toList = (c.bytes.toList ++ chunks.flatten).take c.cap ∧
      ((c.readAll chunks).truncated = true ↔
        c.cap < c.bytes.size + chunks.flatten.length) := by
  induction chunks generalizing c with
  | nil =>
    have hfits : c.bytes.toList.length ≤ c.cap := hsize
    rw [readAll, List.flatten_nil, List.append_nil, List.take_of_length_le hfits, hopen]
    simpa using hsize
  | cons chunk rest ih =>
    have hbytes := toList_read c chunk hsize
    have hcut := truncated_read c chunk hsize
    rw [hopen, Bool.false_or] at hcut
    rw [readAll, if_neg (by simp [hopen]), List.flatten_cons, List.length_append]
    by_cases hover : c.cap < c.bytes.size + chunk.length
    · -- The chunk is cut, and nothing after it is read.
      rw [decide_eq_true hover] at hcut
      have hlong : c.cap ≤ (c.bytes.toList ++ chunk).length := by
        rw [List.length_append, Array.length_toList]
        exact Nat.le_of_lt hover
      rw [readAll_of_truncated hcut, hbytes, hcut, ← List.append_assoc,
        List.take_append_of_le_length hlong]
      refine ⟨rfl, iff_of_true rfl ?_⟩
      omega
    · rw [decide_eq_false hover] at hcut
      have hfits : (c.bytes.toList ++ chunk).length ≤ c.cap := by
        rw [List.length_append, Array.length_toList]
        exact Nat.not_lt.mp hover
      rw [List.take_of_length_le hfits] at hbytes
      have hlength : (c.read chunk).bytes.size = c.bytes.size + chunk.length := by
        rw [← Array.length_toList, hbytes, List.length_append, Array.length_toList]
      obtain ⟨hleft, htruncated⟩ := ih hcut (by rw [cap_read]; exact size_read c chunk hsize)
      rw [hleft, htruncated, hbytes, hlength, cap_read, List.append_assoc, Nat.add_assoc]
      exact ⟨rfl, Iff.rfl⟩

theorem closed_readAll (c : Capture) (chunks : List (List UInt8)) :
    (c.readAll chunks).closed = c.closed := by
  induction chunks generalizing c with
  | nil => rfl
  | cons chunk rest ih =>
    rw [readAll]
    split
    · rfl
    · rw [ih, closed_read]

/-- Reads that are not empty are all taken in, up to the cut, and then the end is found. -/
theorem drain_eq_readAll (hopen : c.closed = false) (hchunks : ∀ chunk ∈ chunks, chunk ≠ [])
    (later : List (List UInt8)) :
    c.drain (chunks ++ [] :: later) =
      if (c.readAll chunks).truncated = true then c.readAll chunks
      else (c.readAll chunks).close := by
  induction chunks generalizing c with
  | nil =>
    rw [List.nil_append, readAll]
    split
    · next h => exact drain_of_done (.inr h) _
    · next h =>
      rw [drain, if_neg (by simp [hopen, h]), readChunk, if_pos rfl]
      exact drain_of_done (.inl rfl) _
  | cons chunk rest ih =>
    rw [List.cons_append]
    by_cases h : c.truncated = true
    · rw [drain_of_done (.inr h), readAll_of_truncated h, if_pos h]
    · rw [drain, if_neg (by simp [hopen, h]), readChunk, if_neg (hchunks chunk List.mem_cons_self),
        readAll, if_neg h]
      refine ih (by rw [closed_read, hopen]) fun next hnext => ?_
      exact hchunks next (List.mem_cons_of_mem _ hnext)

/-- **A stream is kept up to the ceiling, however it is chunked.** -/
theorem drain_start (cap : Nat) {stream : List UInt8} (hchunks : Chunked stream chunks)
    (later : List (List UInt8)) :
    let c := (start cap).drain (chunks ++ [] :: later)
    c.bytes.toList = stream.take cap ∧ (c.truncated = true ↔ cap < stream.length) ∧
      (c.closed = true ↔ stream.length ≤ cap) := by
  intro c
  obtain ⟨hbytes, hcut⟩ := readAll_spec (c := start cap) rfl (Nat.zero_le cap) chunks
  have hstream : (start cap).bytes.toList ++ chunks.flatten = stream := hchunks.flatten_eq
  have hlength : (start cap).bytes.size + chunks.flatten.length = stream.length := by
    rw [hchunks.flatten_eq]
    exact Nat.zero_add _
  have hcap : (start cap).cap = cap := rfl
  have hc : c = if ((start cap).readAll chunks).truncated = true then (start cap).readAll chunks
      else ((start cap).readAll chunks).close := drain_eq_readAll rfl hchunks.ne_nil later
  rw [hstream, hcap] at hbytes
  rw [hlength, hcap] at hcut
  rw [hc]
  split
  · next h =>
    refine ⟨hbytes, hcut, ?_⟩
    rw [closed_readAll]
    exact iff_of_false Bool.false_ne_true (Nat.not_le.mpr (hcut.mp h))
  · next h => exact ⟨hbytes, hcut, iff_of_true rfl (Nat.not_lt.mp (mt hcut.mpr h))⟩

end Capture

/-! ## A process that writes a text -/

namespace Watch

variable {cap : Nat} {es : List ProcessEvent} {written : Pipe → List UInt8}

/-- A watch has come to an end, and no event ended it but an exit with success. -/
structure EndsWell (cap : Nat) (es : List ProcessEvent) : Prop where
  ended : ¬ Going cap es
  success : ∀ e ∈ es, ∀ s, e.settles? = some s → s = .exited (.code 0)

/-- **A process within its ceilings that ends well is settled by its exit.** -/
theorem Schedule.settled_of_endsWell (h : Schedule cap es) (hw : Delivers written es)
    (hend : EndsWell cap es) (hle : ∀ pipe, (written pipe).length ≤ cap) :
    ((Watch.start cap).run es).settled = some (.exited (.code 0)) := by
  obtain hgoing | ⟨before, e, rfl, -, -, ⟨pipe, hover⟩ | ⟨s, hs⟩⟩ := h.cases_end
  · exact absurd hgoing hend.ended
  · have hall := (hw.isPrefix pipe).length_le
    have hcap := hle pipe
    omega
  · have hlast : e ∈ before ++ [e] := by simp
    obtain rfl := hend.success e hlast s hs
    exact (h.settled_iff (by simp)).mpr ⟨e, hlast, hs⟩

/-- What the exit of a process with success gives. -/
theorem outcome_of_success (policyCodes : List Int) {w : Watch}
    (h : w.settled = some (.exited (.code 0))) :
    w.outcome policyCodes = ⟨w.stdout.text, w.stderr.text, announced w.stdout.text, none⟩ := by
  have hnone : exitFailure policyCodes (.code 0) = none :=
    (exitFailure_eq_none_iff policyCodes (.code 0)).mpr rfl
  unfold outcome
  rw [h]
  simp only [hnone, Option.isNone_none, Bool.true_or, if_true]

/-- **What a process wrote is surfaced**, if it stays within its ceilings and ends well. -/
theorem Schedule.outcome_of_endsWell (h : Schedule cap es) (hw : Delivers written es)
    (hend : EndsWell cap es) (hle : ∀ pipe, (written pipe).length ≤ cap) {s : String}
    (hout : written .stdout = Utf8.encode s) (policyCodes : List Int) :
    let o := ((Watch.start cap).run es).outcome policyCodes
    o.stdout = s ∧ o.actions = announced s ∧ o.failure = none := by
  have hsettled := h.settled_of_endsWell hw hend hle
  have hcomplete := ((h.settled_exited_iff hw (.code 0)).mp hsettled).1 .stdout
  have htext : ((Watch.start cap).run es).stdout.text = s := by
    have hbytes : ((Watch.start cap).run es).stdout.bytes.toList = Utf8.encode s :=
      hcomplete.2.trans hout
    rw [Capture.text, hbytes, Utf8.lossy_encode, String.ofList_toList]
  rw [outcome_of_success policyCodes hsettled, htext]
  exact ⟨rfl, rfl, rfl⟩

/-- **Captured output does not depend on how it is chunked.** -/
theorem output_unchunked (cap : Nat) (stream : List UInt8) (chunks later : List (List UInt8))
    (hchunks : Chunked stream chunks) (policyCodes : List Int) (written : Pipe → List UInt8)
    (es : List ProcessEvent) (hs : Schedule cap es) (hw : Delivers written es)
    (hend : EndsWell cap es) (s : String) (hout : written .stdout = Utf8.encode s)
    (hle : ∀ pipe, (written pipe).length ≤ cap) :
    let c := (Capture.start cap).drain (chunks ++ [] :: later)
    let o := ((Watch.start cap).run es).outcome policyCodes
    (c.bytes.toList = stream.take cap ∧ (c.truncated = true ↔ cap < stream.length) ∧
        (c.closed = true ↔ stream.length ≤ cap)) ∧
      o.stdout = s ∧ o.actions = announced s ∧ o.failure = none := by
  intro c o
  exact ⟨Capture.drain_start cap hchunks later, hs.outcome_of_endsWell hw hend hle hout policyCodes⟩

/-- A character and a marker that come in pieces, and output of exactly the ceiling's size. -/
theorem output_of_split_character :
    let s := "é -> EXECUTE: Go"
    let chunks : List (List UInt8) := [[0xC3], [0xA9, 0x20, 0x2D, 0x3E, 0x20, 0x45],
      [0x58, 0x45, 0x43, 0x55, 0x54, 0x45, 0x3A, 0x20, 0x47, 0x6F]]
    let written : Pipe → List UInt8
      | .stdout => Utf8.encode s
      | .stderr => [0x78]
    let es : List ProcessEvent := [.read .stdout [0xC3], .read .stderr [0x78],
      .read .stdout [0xA9, 0x20, 0x2D, 0x3E, 0x20, 0x45], .closed .stderr,
      .read .stdout [0x58, 0x45, 0x43, 0x55, 0x54, 0x45, 0x3A, 0x20, 0x47, 0x6F], .closed .stdout,
      .exited (.code 0)]
    Chunked (Utf8.encode s) chunks ∧ Schedule 17 es ∧ Delivers written es ∧ EndsWell 17 es ∧
      (∀ pipe, (written pipe).length ≤ 17) ∧
      ((Capture.start 17).drain (chunks ++ [[]])).bytes.toList = Utf8.encode s ∧
      ((Capture.start 17).drain (chunks ++ [[]])).closed = true ∧
      (((start 17).run es).outcome []).stdout = s ∧
      (((start 17).run es).outcome []).actions = ["Go"] := by
  intro s chunks written es
  have hchunks : Chunked (Utf8.encode s) chunks := ⟨by decide, by decide, by decide⟩
  have h₁ : Schedule 17 (es.take 1) := .next .start (by decide) (by decide)
  have h₂ : Schedule 17 (es.take 2) := .next h₁ (by decide) (by decide)
  have h₃ : Schedule 17 (es.take 3) := .next h₂ (by decide) (by decide)
  have h₄ : Schedule 17 (es.take 4) := .next h₃ (by decide) (by decide)
  have h₅ : Schedule 17 (es.take 5) := .next h₄ (by decide) (by decide)
  have h₆ : Schedule 17 (es.take 6) := .next h₅ (by decide) (by decide)
  have hs : Schedule 17 es := .next h₆ (by decide) (by decide)
  have hw : Delivers written es := ⟨by decide, by decide⟩
  have hend : EndsWell 17 es := ⟨by decide, by simp [es, ProcessEvent.settles?]⟩
  have hle : ∀ pipe, (written pipe).length ≤ 17 := by decide
  obtain ⟨⟨hbytes, -, hclosed⟩, hout, hactions, -⟩ :=
    output_unchunked 17 (Utf8.encode s) chunks [] hchunks [] written es hs hw hend s rfl hle
  exact ⟨hchunks, hs, hw, hend, hle, hbytes.trans (by decide), hclosed.mpr (by decide), hout,
    hactions.trans (by decide)⟩

end Watch

end PolicyGate
