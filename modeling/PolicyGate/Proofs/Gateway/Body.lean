import PolicyGate.Proofs.Gateway.Shapes
import PolicyGate.Proofs.Json.Walk

/-!
# Which bodies are decoded

* `IsRequest` — a body of blanks, `null`, or a JSON object.
* `Pair` — an array of at most two texts, each of which may be `null`.

**Theorem (`bodies_by_form`).** A body that is decoded is a request or such an array. Every other
body is a failed call: its request has one answer, which refuses it and says nothing of the policy,
with status 500 unless the request was stopped before its body was looked at.

That arrays are decoded is `array_is_decoded`: the reader of the two texts by name takes them by
place too.

Each reader of the body takes one rule of the grammar, and what it passes over is left to the walk
over values. The answer then follows from the stages, of which none behind the body is reached.
-/

namespace PolicyGate

open Json

/-! ## The forms of a body -/

/-- A text, or `null`. -/
inductive Nullable : List UInt8 → List UInt8 → Prop
  | null {r} : Nullable (Json.null ++ r) r
  | text {s r} (h : Chars s r) : Nullable (0x22 :: s) r

/-- An array of at most two texts, each of which may be `null`. -/
inductive Pair : List UInt8 → List UInt8 → Prop
  | none {s r} (he : Blanks s (0x5D :: r)) : Pair (0x5B :: s) r
  | one {s t u r} (hb : Blanks s t) (h : Nullable t u) (he : Blanks u (0x5D :: r)) :
    Pair (0x5B :: s) r
  | two {s t u v w r} (hb : Blanks s t) (h : Nullable t u) (hc : Mark 0x2C u v)
    (h' : Nullable v w) (he : Blanks w (0x5D :: r)) : Pair (0x5B :: s) r

/-- A body of blanks, `null`, or a JSON object. -/
inductive IsRequest (body : List UInt8) : Prop
  | blank (h : body.all Submission.isAsciiBlank = true)
  | null (h : Whole (fun s r => s = Json.null ++ r) body)
  | object (h : Whole (Derives .object) body)

variable {s t r : List UInt8} {first : Bool}

theorem Nullable.value (h : Nullable s r) : Derives .value s r := by
  cases h with
  | null => exact .null
  | text h => exact .string h

/-- What a body begins with tells its form. -/
theorem IsRequest.head {body : List UInt8} (h : IsRequest body) :
    body.all Submission.isAsciiBlank = true ∨
      ∃ c ∈ [0x6E, 0x7B], (skipBlanks body).head? = some c := by
  cases h with
  | blank h => exact .inl h
  | null h =>
    obtain ⟨s, r, hb, rfl, -⟩ := h
    refine .inr ⟨0x6E, by decide, ?_⟩
    rw [skipBlanks_of_blanks hb (by decide)]
    rfl
  | object h =>
    obtain ⟨s, r, hb, hobject, -⟩ := h
    refine .inr ⟨0x7B, by decide, ?_⟩
    cases hobject <;> (rw [skipBlanks_of_blanks hb (by decide)]; rfl)

theorem not_isRequest_of_head {body : List UInt8} {c : UInt8}
    (hblank : body.all Submission.isAsciiBlank = false)
    (hhead : (skipBlanks body).head? = some c) (hc : c ∉ [0x6E, 0x7B]) : ¬ IsRequest body := by
  intro h
  obtain h | ⟨d, hd, h⟩ := h.head
  · rw [hblank] at h
    cases h
  · rw [hhead] at h
    obtain rfl := Option.some.inj h
    exact hc hd

theorem head_of_pair {body : List UInt8} (h : Whole Pair body) :
    (skipBlanks body).head? = some 0x5B := by
  obtain ⟨s, r, hb, hpair, -⟩ := h
  cases hpair <;> (rw [skipBlanks_of_blanks hb (by decide)]; rfl)

namespace Submission

/-! ## Readers of a body -/

theorem eq_of_bind {α β : Type} {x : Except Stop α} {f : α → Except Stop β} {b : β}
    (h : x.bind f = .ok b) : ∃ a, x = .ok a ∧ f a = .ok b := by
  cases x with
  | error e => cases h
  | ok a => exact ⟨a, rfl, h⟩

theorem nullable_of_optionalText {x : Option String} (h : optionalText s = .ok (x, r)) :
    ∃ t, Blanks s t ∧ Nullable t r := by
  have hb := blanks_skipBlanks s
  unfold optionalText at h
  split at h
  · cases h
  · next c t hc =>
    rw [hc] at hb
    split at h
    · next hnull =>
      subst hnull
      obtain ⟨u, hu, he⟩ := Walk.eq_of_map h
      obtain ⟨-, rfl⟩ := Prod.mk.inj he
      refine ⟨_, hb, ?_⟩
      rw [eq_append_of_literal hu]
      exact .null
    · split at h
      · next hquote =>
        subst hquote
        obtain ⟨⟨cs, u⟩, hu, he⟩ := Walk.eq_of_map h
        obtain ⟨-, rfl⟩ := Prod.mk.inj he
        exact ⟨_, hb, .text (chars_of_keepString hu)⟩
      · cases h

/-- The value of a member is one of the grammar, whether it is read or passed over. -/
theorem entry_of_member {m m' : Members} {key : String} (h : member m key s = .ok (m', r)) :
    ∃ t, Blanks s (0x3A :: t) ∧ Entry .array t r := by
  have read {α : Type} {f : List UInt8 → Except Stop α} {g : α → Members × List UInt8}
      (hf : ∀ t a, f t = .ok a → (g a).2 = r → Entry .array t r)
      (hr : ((Walk.colon s).bind fun s => (f s).map g) = .ok (m', r)) :
      ∃ t, Blanks s (0x3A :: t) ∧ Entry .array t r := by
    obtain ⟨t, hc, ht⟩ := eq_of_bind hr
    obtain ⟨a, ha, he⟩ := Walk.eq_of_map ht
    exact ⟨t, blanks_of_colon hc, hf t a ha (congrArg Prod.snd he)⟩
  have text (t : List UInt8) (a : Option String × List UInt8) (ha : optionalText t = .ok a)
      (hr : a.2 = r) : Entry .array t r := by
    subst hr
    obtain ⟨u, hb, hu⟩ := nullable_of_optionalText (x := a.1) ha
    exact ⟨u, hb, hu.value⟩
  have value (t : List UInt8) (a : List UInt8) (ha : skipValue t = .ok a) (hr : a = r) :
      Entry .array t r := by
    subst hr
    exact entry_of_skipValue ha
  unfold member at h
  split at h
  · split at h
    · cases h
    · exact read text h
  · split at h
    · split at h
      · cases h
      · exact read text h
    · exact read value h

/-- Members end, or a key follows, with a comma in front if it is not the first. -/
theorem blanks_of_nextKey {more : Bool} (h : nextKey first s = .ok (more, t)) :
    more = false ∧ Blanks s (0x7D :: t) ∨
      more = true ∧ if first then Blanks s (0x22 :: t) else Mark 0x2C s (0x22 :: t) := by
  have hb := blanks_skipBlanks s
  unfold nextKey at h
  extract_lets start at h
  have hstart (v : List UInt8) (hv : start v = .ok (more, t)) : more = true ∧ v = 0x22 :: t := by
    simp only [start] at hv
    split at hv
    · cases hv
    · split at hv
      · next hquote =>
        subst hquote
        obtain ⟨rfl, rfl⟩ := Prod.mk.inj (Except.ok.inj hv)
        exact ⟨rfl, rfl⟩
      · split at hv <;> cases hv
  split at h
  · cases h
  · next c u hc =>
    rw [hc] at hb
    split at h
    · next hbrace =>
      subst hbrace
      obtain ⟨rfl, rfl⟩ := Prod.mk.inj (Except.ok.inj h)
      exact .inl ⟨rfl, hb⟩
    · cases first with
      | true =>
        rw [if_pos rfl] at h
        obtain ⟨hmore, hkey⟩ := hstart (c :: u) h
        rw [hkey] at hb
        exact .inr ⟨hmore, hb⟩
      | false =>
        rw [if_neg Bool.false_ne_true] at h
        split at h
        · next hcomma =>
          subst hcomma
          obtain ⟨hmore, hkey⟩ := hstart (skipBlanks u) h
          exact .inr ⟨hmore, u, hb, blanks_of_skipBlanks hkey⟩
        · cases h

/-- Members are read from the inside of an object, or from what comes behind its first member. -/
theorem rest_of_members {m m' : Members} (h : members first m s = .ok (m', r)) :
    if first then Body .object s r else Rest .object s r := by
  fun_induction members first m s with
  | case1 => cases h
  | case2 first m s t hn =>
    obtain ⟨-, rfl⟩ := Prod.mk.inj (Except.ok.inj h)
    obtain ⟨-, hb⟩ | ⟨hmore, -⟩ := blanks_of_nextKey hn
    · cases first with
      | true => exact .inl hb
      | false => exact .close hb
    · cases hmore
  | case3 => cases h
  | case4 => cases h
  | case5 first m s t hn key u hk m'' v hm ih =>
    have hrest : Rest .object v r := ih h
    obtain ⟨w, hcolon, x, hb, hv⟩ := entry_of_member hm
    have hmember : Derives .member (0x22 :: t) v :=
      .member (chars_of_keepString hk) ⟨w, hcolon, hb⟩ hv
    obtain ⟨hmore, -⟩ | ⟨-, hkey⟩ := blanks_of_nextKey hn
    · cases hmore
    · cases first with
      | true => exact .inr ⟨v, ⟨_, hkey, hmember⟩, hrest⟩
      | false => exact .more hkey hmember hrest

/-- Items end, with the bracket left, or one follows, with a comma in front if it is not the
first. -/
theorem blanks_of_nextItem {more : Bool} (h : nextItem first s = .ok (more, t)) :
    more = false ∧ Blanks s t ∧ t.head? = some 0x5D ∨
      more = true ∧ if first then Blanks s t else Mark 0x2C s t := by
  have hb := blanks_skipBlanks s
  unfold nextItem at h
  split at h
  · cases h
  · next c u hc =>
    rw [hc] at hb
    split at h
    · next hbracket =>
      subst hbracket
      obtain ⟨rfl, rfl⟩ := Prod.mk.inj (Except.ok.inj h)
      exact .inl ⟨rfl, hb, rfl⟩
    · cases first with
      | true =>
        obtain ⟨rfl, rfl⟩ := Prod.mk.inj (Except.ok.inj h)
        exact .inr ⟨rfl, hb⟩
      | false =>
        rw [if_neg Bool.false_ne_true] at h
        split at h
        · next hcomma =>
          subst hcomma
          have hb' := blanks_skipBlanks u
          split at h
          · cases h
          · next d v hd =>
            rw [hd] at hb'
            split at h
            · cases h
            · obtain ⟨rfl, rfl⟩ := Prod.mk.inj (Except.ok.inj h)
              exact .inr ⟨rfl, u, hb, hb'⟩
        · cases h

theorem blanks_of_arrayEnd (h : arrayEnd s = .ok r) : Blanks s (0x5D :: r) := by
  have hb := blanks_skipBlanks s
  unfold arrayEnd at h
  split at h
  · cases h
  · next c t hc =>
    rw [hc] at hb
    split at h
    · next hbracket =>
      subst hbracket
      obtain rfl := Except.ok.inj h
      exact hb
    · split at h
      · split at h <;> cases h
      · cases h

/-- There is a text or `null`, or no further item. -/
theorem nullable_of_item {x : Option String} (h : item first s = .ok (x, t)) :
    Blanks s t ∧ t.head? = some 0x5D ∨
      ∃ u, (if first then Blanks s u else Mark 0x2C s u) ∧ Nullable u t := by
  obtain ⟨⟨more, u⟩, hn, hx⟩ := eq_of_bind h
  obtain ⟨rfl, hb, hbracket⟩ | ⟨rfl, hb⟩ := blanks_of_nextItem hn
  · obtain ⟨-, rfl⟩ := Prod.mk.inj (Except.ok.inj hx)
    exact .inl ⟨hb, hbracket⟩
  · obtain ⟨v, hv, hitem⟩ := nullable_of_optionalText hx
    refine .inr ⟨v, ?_, hitem⟩
    cases first with
    | true => exact hb.trans hv
    | false => exact hb.trans hv

theorem pair_of_items {x : Submission} (h : items s = .ok (x, r)) : Pair (0x5B :: s) r := by
  obtain ⟨⟨a, t⟩, ha, h⟩ := eq_of_bind h
  obtain ⟨⟨b, u⟩, hb, h⟩ := eq_of_bind h
  obtain ⟨v, hv, he⟩ := Walk.eq_of_map h
  obtain ⟨-, rfl⟩ := Prod.mk.inj he
  have hend : Blanks u (0x5D :: v) := blanks_of_arrayEnd hv
  obtain ⟨hs, hbracket⟩ | ⟨w, hw, hfirst⟩ := nullable_of_item ha
  · obtain ⟨t, rfl⟩ := List.head?_eq_some_iff.mp hbracket
    obtain ⟨ht, -⟩ | ⟨w, ⟨x, hcomma, -⟩, -⟩ := nullable_of_item hb
    · exact .none (hs.trans (ht.trans hend))
    · -- What begins with a bracket has no comma in front.
      cases hcomma.eq_of_head (by decide)
  · obtain ⟨ht, -⟩ | ⟨w', hcomma, hsecond⟩ := nullable_of_item hb
    · exact .one hw hfirst (ht.trans hend)
    · exact .two hw hfirst hcomma hsecond hend

/-- **What is read as a submission is `null`, an object or a pair.** -/
theorem form_of_reading {x : Submission} (h : reading s = .ok (x, r)) :
    ∃ t, Blanks s t ∧ (t = Json.null ++ r ∨ Derives .object t r ∨ Pair t r) := by
  have hb := blanks_skipBlanks s
  unfold reading at h
  split at h
  · cases h
  · next c t hc =>
    rw [hc] at hb
    refine ⟨_, hb, ?_⟩
    split at h
    · next hnull =>
      subst hnull
      obtain ⟨u, hu, he⟩ := Walk.eq_of_map h
      obtain ⟨-, rfl⟩ := Prod.mk.inj he
      rw [eq_append_of_literal hu]
      exact .inl rfl
    · split at h
      · next harray =>
        subst harray
        exact .inr (.inr (pair_of_items h))
      · split at h
        · next hobject =>
          subst hobject
          obtain ⟨⟨m, u⟩, hu, he⟩ := Walk.eq_of_map h
          obtain ⟨-, rfl⟩ := Prod.mk.inj he
          have hbody : Body .object t u := rest_of_members hu
          exact .inr (.inl hbody.derives)
        · cases h

theorem form_of_whole {body : List UInt8} {x : Submission} (h : whole body = .ok x) :
    IsRequest body ∨ Whole Pair body := by
  unfold whole at h
  split at h
  · cases h
  · next x r hread =>
    split at h
    · next hend =>
      have hr : Blanks r [] := blanks_of_skipBlanks hend
      obtain ⟨t, hb, hnull | hobject | hpair⟩ := form_of_reading hread
      · exact .inl (.null ⟨t, r, hb, hnull, hr⟩)
      · exact .inl (.object ⟨t, r, hb, hobject, hr⟩)
      · exact .inr ⟨t, r, hb, hpair, hr⟩
    · cases h

theorem form_of_decode {body : List UInt8} {x : Submission} (h : decode body = .ok x) :
    IsRequest body ∨ Whole Pair body := by
  unfold decode at h
  split at h
  · next hblank => exact .inl (.blank hblank)
  · cases hw : whole body with
    | error e =>
      rw [hw] at h
      cases h
    | ok x => exact form_of_whole hw

end Submission

/-! ## Bodies that are not decoded -/

theorem decodeBody_eq_ok {body : List UInt8} {x : Submission} :
    decodeBody body = .ok x ↔ Submission.decode body = .ok x := by
  unfold decodeBody
  cases Submission.decode body with
  | error e =>
    constructor
    · intro h
      cases h
    · intro h
      cases h
  | ok y =>
    constructor
    · intro h
      exact congrArg Except.ok (Except.ok.inj h)
    · intro h
      exact congrArg Except.ok (Except.ok.inj h)

namespace Gateway

/-- **A body that is decoded is a request or an array of its texts, and every other body is a failed
call.** -/
theorem bodies_by_form (config : Config) (canFallBack : Bool) (begin : Moment)
    (before : List (Moment × Event)) (now : Moment) (a : Arrival)
    (after : List (Moment × Event)) :
    let g₀ := start config canFallBack begin
    let g := (g₀.run before).1
    let es := before ++ (now, .arrived a) :: after
    let body := a.upload.bytes
    (∀ x, decodeBody body = .ok x → IsRequest body ∨ Whole Pair body) ∧
    (¬ (IsRequest body ∨ Whole Pair body) →
      (∃ message, decodeBody body = .error (.internal message)) ∧
      ∃ ans, (∀ ans', .answered g.arrived ans' ∈ (g₀.run es).2 ↔ ans' = ans) ∧ Refused ans ∧
        (Admits g now a → ans.status = 500)) := by
  intro g₀ g es body
  have hform (x : Submission) (hx : decodeBody body = .ok x) : IsRequest body ∨ Whole Pair body :=
    Submission.form_of_decode (decodeBody_eq_ok.mp hx)
  refine ⟨hform, ?_⟩
  intro hother
  have hnot (x : Submission) : decodeBody body ≠ .ok x := fun hx => hother (hform x hx)
  have hfault : ∃ message, decodeBody body = .error (.internal message) := by
    cases hd : decodeBody body with
    | ok x => exact absurd hd (hnot x)
    | error f =>
      obtain ⟨message, rfl⟩ := decodeBody_error hd
      exact ⟨message, rfl⟩
  refine ⟨hfault, ?_⟩
  have ho₀ : Orderly g₀ := orderly_start config canFallBack begin
  have hc := course_of_request ho₀ before now a after
  have hanswers (ans' : Answer) : .answered g.arrived ans' ∈ (g₀.run es).2 ↔
      ans' ∈ (dossier g.arrived (g₀.trace es)).answers :=
    (mem_answers_dossier g₀ es g.arrived ans').symm
  by_cases hin : Admits g now a
  · -- The body is looked at, and it is the stage that fails.
    cases hd : Submission.decode body with
    | ok x => exact absurd (decodeBody_eq_ok.mpr hd) (hnot x)
    | error e =>
      obtain ⟨ans, hans, hrefused, hstatus, -⟩ := answered_of_stopped hc (.garbled hin hd)
      refine ⟨ans, ?_, hrefused, fun _ => hstatus⟩
      intro ans'
      rw [hanswers, hans, List.mem_singleton]
  · obtain ⟨f, hf⟩ | ⟨x, hx⟩ := stages g now a
    · obtain ⟨ans, hans, hrefused, -⟩ := answered_of_stopped hc hf
      refine ⟨ans, ?_, hrefused, fun h => absurd h hin⟩
      intro ans'
      rw [hanswers, hans, List.mem_singleton]
    · exact absurd hx.toAdmits hin

/-- A truth value is neither, and is answered with status 500. -/
theorem truth_value_is_failure :
    let g₀ := start sampleConfig true 0
    let body := Utf8.encode "true"
    let es : List (Moment × Event) := [(0, .arrived ⟨"r0", "a", .whole body⟩)]
    ¬ (IsRequest body ∨ Whole Pair body) ∧ ∃ ans, .answered 0 ans ∈ (g₀.run es).2 ∧
      ans.status = 500 := by
  intro g₀ body es
  have hseen : body.all Submission.isAsciiBlank = false ∧
      (skipBlanks body).head? = some 0x74 ∧ (Upload.whole body).bytes = body ∧
      (Upload.whole body).Fits g₀.config.limits ∧ (g₀.limiter.accept "a" 0).1 = true ∧
      g₀.slots.current < g₀.slots.max := by
    decide +kernel
  obtain ⟨hblank, hhead, hbytes, hfits, hadmitted, hfree⟩ := hseen
  have hother : ¬ (IsRequest body ∨ Whole Pair body) := by
    rintro (h | h)
    · exact not_isRequest_of_head hblank hhead (by decide) h
    · rw [head_of_pair h] at hhead
      exact absurd hhead (by decide)
  refine ⟨hother, ?_⟩
  obtain ⟨-, hfails⟩ := bodies_by_form sampleConfig true 0 [] 0 ⟨"r0", "a", .whole body⟩ []
  obtain ⟨-, ans, hans, -, hstatus⟩ := hfails (by rw [hbytes]; exact hother)
  exact ⟨ans, (hans ans).mpr rfl, hstatus ⟨hfits, hadmitted, hfree⟩⟩

/-- An array of a policy text is decoded, and is neither blank nor `null` nor an object. -/
theorem array_is_decoded :
    let body := Utf8.encode "[\"INTENT: x\"]"
    decodeBody body = .ok ⟨some "INTENT: x", none⟩ ∧ ¬ IsRequest body := by
  intro body
  have hseen : (decodeBody body).toOption = some ⟨some "INTENT: x", none⟩ ∧
      body.all Submission.isAsciiBlank = false ∧ (skipBlanks body).head? = some 0x5B := by
    decide +kernel
  obtain ⟨hdecoded, hblank, hhead⟩ := hseen
  constructor
  · cases hd : decodeBody body with
    | error f =>
      rw [hd] at hdecoded
      cases hdecoded
    | ok x =>
      rw [hd] at hdecoded
      rw [Option.some.inj hdecoded]
  · exact not_isRequest_of_head hblank hhead (by decide)

end Gateway

end PolicyGate
