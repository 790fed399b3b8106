import PolicyGate.Proofs.Gateway.Body
import PolicyGate.Proofs.Json.Reading
import PolicyGate.Proofs.Json.Spelling

/-!
# Decoding undoes encoding

* `Given` — a member of an object: one of the two that are read, with what it holds, or a further
  one.
* `Encodes` — a body is written as the object of some members, in order.
* `Content.Reads` — what is read of all that a field holds.

**Theorem (`decode_undoes_encoding`).** However the members are written, the two texts are read of
the body. If one of the two is given twice, or holds what is neither a text nor `null`, the body is
a failed call.

A reader of members keeps what it met of the two. What it does with one member is said of the member
and not of its bytes (`Members.take`), so all that is left of a body is a fold over its members
(`members_of_writes`), and what such a fold comes to is a matter of the contents of each field
(`collect_eq_some_iff`).
-/

namespace PolicyGate

open Json

namespace Submission

/-! ## Members and how they are written -/

/-- The members that are read. -/
inductive Field where
  | code
  | context
  deriving DecidableEq, Repr

def Field.name : Field → String
  | .code => "code"
  | .context => "context"

/-- What such a member may hold. -/
inductive Content where
  | null
  | text (value : String)
  /-- A number, a boolean, an array or an object. -/
  | other
  deriving DecidableEq, Repr

/-- A member of an object. A further member has another name than those that are read. -/
inductive Given where
  | field (f : Field) (content : Content)
  | further (name : String) (hname : ∀ f : Field, name ≠ f.name)

/-- A content is written between a text and what follows it. -/
inductive Content.Writes : Content → List UInt8 → List UInt8 → Prop
  | null {r} : Writes .null (Json.null ++ r) r
  | text {value s r} (h : Spells value.toList s r) : Writes (.text value) (0x22 :: s) r
  | true {r} : Writes .other (0x74 :: 0x72 :: 0x75 :: 0x65 :: r) r
  | false {r} : Writes .other (0x66 :: 0x61 :: 0x6C :: 0x73 :: 0x65 :: r) r
  | number {s r} (h : Unsigned s r) : Writes .other s r
  | negative {s r} (h : Unsigned s r) : Writes .other (0x2D :: s) r
  | array {s r} (h : Derives .array s r) : Writes .other s r
  | object {s r} (h : Derives .object s r) : Writes .other s r

/-- A member is written: its name, a colon and its value. That of a further member may be any. -/
inductive Given.Writes : Given → List UInt8 → List UInt8 → Prop
  | field {f content s t u r} (hk : Spells f.name.toList s t) (hc : Mark 0x3A t u)
    (hv : content.Writes u r) : Writes (.field f content) (0x22 :: s) r
  | further {name hname s t u r} (hk : Spells name.toList s t) (hc : Mark 0x3A t u)
    (hv : Derives .value u r) : Writes (.further name hname) (0x22 :: s) r

/-- Members are written up to and with the closing bracket, either from the opening one on or from
behind another member. -/
inductive WritesAll : Bool → List Given → List UInt8 → List UInt8 → Prop
  | close {first s r} (h : Blanks s (0x7D :: r)) : WritesAll first [] s r
  | member {first g gs s t u r} (hb : if first then Blanks s t else Mark 0x2C s t)
    (hg : g.Writes t u) (h : WritesAll false gs u r) : WritesAll first (g :: gs) s r

/-- A body is an object of these members between blanks. -/
def Encodes (gs : List Given) : List UInt8 → Prop :=
  Whole fun s r => ∃ t, s = 0x7B :: t ∧ WritesAll true gs t r

/-! ## What is to be read -/

/-- What a member says of a field. -/
def Given.content? (f : Field) : Given → Option Content
  | .field f' content => if f' = f then some content else none
  | .further _ _ => none

/-- All that a field holds. -/
def contents (f : Field) (gs : List Given) : List Content := gs.filterMap (Given.content? f)

/-- What is read of all that a field holds. -/
inductive Content.Reads : List Content → Option String → Prop
  | absent : Reads [] none
  | null : Reads [.null] none
  | text {value} : Reads [.text value] (some value)

variable {s t u r : List UInt8} {gs : List Given} {g : Given} {first : Bool}

/-! ## What is written is JSON -/

theorem Content.Writes.value {content : Content} (h : content.Writes s r) :
    Derives .value s r := by
  cases h with
  | null => exact .null
  | text h => exact .string h.chars
  | true => exact .true
  | false => exact .false
  | number h => exact .number h
  | negative h => exact .negative h
  | array h => exact .ofArray h
  | object h => exact .ofObject h

theorem Given.Writes.member (h : g.Writes s r) : Derives .member s r := by
  cases h with
  | field hk hc hv => exact .member hk.chars hc hv.value
  | further hk hc hv => exact .member hk.chars hc hv

theorem rest_of_writes (h : WritesAll false gs s r) : Rest .object s r := by
  generalize hfirst : false = first at h
  induction h with
  | close h => exact .close h
  | member hb hg h ih =>
    subst hfirst
    exact .more hb hg.member (ih rfl)

/-- An encoding is a JSON object. -/
theorem object_of_encodes {body : List UInt8} (h : Encodes gs body) :
    Whole (Derives .object) body := by
  obtain ⟨s, r, hs, ⟨t, rfl, ht⟩, hr⟩ := h
  have hbody : Body .object t r := by
    cases ht with
    | close h => exact .inl h
    | member hb hg h => exact .inr ⟨_, ⟨_, hb, hg.member⟩, rest_of_writes h⟩
  exact ⟨_, r, hs, hbody.derives, hr⟩

/-! ## Reading one member -/

/-- What is kept of a content. -/
def Content.kept : Content → Option (Option String)
  | .null => some none
  | .text value => some (some value)
  | .other => none

namespace Members

/-- What was met of a field. -/
def met (m : Members) : Field → Option (Option String)
  | .code => m.code
  | .context => m.context

def put (m : Members) (x : Option String) : Field → Members
  | .code => { m with code := some x }
  | .context => { m with context := some x }

/-- A member is met: one that was met before, or of another kind, is refused. -/
def take (m : Members) : Given → Option Members
  | .field f content => if (m.met f).isSome then .none else content.kept.map fun x => m.put x f
  | .further _ _ => some m

end Members

/-- A reading ends in what is expected, with a rest; where nothing is expected, it fails. -/
def ReadsAs {α : Type} (expected : Option α) (r : List UInt8) (reading : Reading α) : Prop :=
  match expected with
  | some x => reading = .ok (x, r)
  | none => ∃ e, reading = .error e

theorem ReadsAs.map {α β : Type} {expected : Option α} {reading : Reading α}
    (h : ReadsAs expected r reading) (f : α → β) :
    ReadsAs (expected.map f) r (reading.map fun x => (f x.1, x.2)) := by
  cases expected with
  | some x =>
    obtain rfl : reading = .ok (x, r) := h
    exact rfl
  | none =>
    obtain ⟨e, rfl⟩ := h
    exact ⟨e, rfl⟩

theorem ReadsAs.bind {α β : Type} {expected : Option α} {reading : Reading α}
    (h : ReadsAs expected t reading) {f : α → Option β} {next : α × List UInt8 → Reading β}
    (hnext : ∀ x, ReadsAs (f x) r (next (x, t))) :
    ReadsAs (expected.bind f) r (reading.bind next) := by
  cases expected with
  | some x =>
    obtain rfl : reading = .ok (x, t) := h
    exact hnext x
  | none =>
    obtain ⟨e, rfl⟩ := h
    exact ⟨e, rfl⟩

/-- An optional text is read of a content, unless it is of another kind. -/
theorem optionalText_of_writes {content : Content} (hb : Blanks s t) (h : content.Writes t r) :
    ReadsAs content.kept r (optionalText s) := by
  have other {c : UInt8} {u : List UInt8} (hs : skipBlanks s = c :: u) (hnull : c ≠ 0x6E)
      (hquote : c ≠ 0x22) : ∃ e, optionalText s = .error e := by
    refine ⟨wrongKind "a string" c u, ?_⟩
    rw [optionalText, hs]
    simp only [if_neg hnull, if_neg hquote]
  cases h with
  | null =>
    have hnull : literal [0x75, 0x6C, 0x6C] ([0x75, 0x6C, 0x6C] ++ r) = .ok r := literal_append _ r
    simp only [ReadsAs, Content.kept, optionalText, skipBlanks_of_blanks hb rfl, if_true]
    exact congrArg (Except.map fun r => (none, r)) hnull
  | text h =>
    simp only [ReadsAs, Content.kept, optionalText, skipBlanks_of_blanks hb rfl]
    rw [if_neg (by decide), keepString_of_spells h, List.reverse_nil, List.nil_append]
    simp only [if_true, Except.map, String.ofList_toList]
  | true => exact other (skipBlanks_of_blanks hb rfl) (by decide) (by decide)
  | false => exact other (skipBlanks_of_blanks hb rfl) (by decide) (by decide)
  | negative h => exact other (skipBlanks_of_blanks hb rfl) (by decide) (by decide)
  | number h =>
    obtain ⟨c, u, rfl, hdigit⟩ := h.head
    exact other (skipBlanks_of_blanks hb (isBlank_of_isDigit hdigit)) (isDigit_ne hdigit rfl)
      (isDigit_ne hdigit rfl)
  | array h =>
    obtain ⟨u, rfl, -⟩ := body_of_whole (f := .array) h
    exact other (skipBlanks_of_blanks hb rfl) (by decide) (by decide)
  | object h =>
    obtain ⟨u, rfl, -⟩ := body_of_whole (f := .object) h
    exact other (skipBlanks_of_blanks hb rfl) (by decide) (by decide)

variable {m m' : Members}

theorem member_field (m : Members) (f : Field) (s : List UInt8) :
    member m f.name s =
      if (m.met f).isSome then .error (again f.name s)
      else (Walk.colon s).bind fun s => (optionalText s).map fun r => (m.put r.1 f, r.2) := by
  cases f with
  | code => rfl
  | context =>
    rw [member, if_neg (by decide), if_pos (by rfl)]
    rfl

theorem member_further (m : Members) {name : String} (hname : ∀ f : Field, name ≠ f.name)
    (s : List UInt8) :
    member m name s = (Walk.colon s).bind fun s => (skipValue s).map fun r => (m, r) := by
  have hcode : name ≠ "code" := hname .code
  have hcontext : name ≠ "context" := hname .context
  rw [member, if_neg hcode, if_neg hcontext]

/-- A member is read as it is met. -/
theorem member_of_writes (m : Members) (h : g.Writes s r) (hr : Ends r) :
    ∃ name t u, s = 0x22 :: t ∧ keepString [] none t = .ok (name, u) ∧
      ReadsAs (m.take g) r (member m (String.ofList name) u) := by
  cases h with
  | @field f content s t _ _ hk hc hv =>
    obtain ⟨v, hcolon, hb⟩ := colon_of_mark hc
    refine ⟨_, s, t, rfl, keepString_of_spells hk, ?_⟩
    rw [List.reverse_nil, List.nil_append, String.ofList_toList, member_field, Members.take]
    split
    · exact ⟨_, rfl⟩
    · rw [hcolon]
      exact (optionalText_of_writes hb hv).map fun x => m.put x f
  | @further name hname s t _ _ hk hc hv =>
    obtain ⟨v, hcolon, hb⟩ := colon_of_mark hc
    have hskip : skipValue v = .ok r := skipValue_of_entry ⟨_, hb, hv⟩ hr
    refine ⟨_, s, t, rfl, keepString_of_spells hk, ?_⟩
    rw [List.reverse_nil, List.nil_append, String.ofList_toList, member_further m hname, hcolon]
    exact congrArg (Except.map fun r => (m, r)) hskip

/-! ## Reading all members -/

theorem nextKey_of_close (h : Blanks s (0x7D :: r)) : nextKey first s = .ok (false, r) := by
  rw [nextKey, skipBlanks_of_blanks h rfl]
  rfl

theorem nextKey_of_key (h : if first then Blanks s (0x22 :: t) else Mark 0x2C s (0x22 :: t)) :
    nextKey first s = .ok (true, t) := by
  cases first with
  | true =>
    rw [nextKey, skipBlanks_of_blanks h rfl]
    rfl
  | false =>
    obtain ⟨u, hs, hu⟩ := h
    rw [nextKey, skipBlanks_of_blanks hs rfl]
    simp only [skipBlanks_of_blanks hu rfl]
    rfl

theorem members_of_close (h : nextKey first s = .ok (false, r)) :
    members first m s = .ok (m, r) := by
  rw [members]
  split
  · next he => cases h.symm.trans he
  · next he =>
    cases h.symm.trans he
    rfl
  · next he => cases h.symm.trans he

theorem members_of_key {name : List Char} (hn : nextKey first s = .ok (true, t))
    (hk : keepString [] none t = .ok (name, u)) :
    members first m s =
      (member m (String.ofList name) u).bind fun r => members false r.1 r.2 := by
  rw [members]
  split
  · next he => cases hn.symm.trans he
  · next he => cases hn.symm.trans he
  · next he =>
    cases hn.symm.trans he
    split
    · next he => cases hk.symm.trans he
    · next he =>
      cases hk.symm.trans he
      split <;> (next he => rw [he]; rfl)

/-- **Members are read as they are met, one after another.** -/
theorem members_of_writes (h : WritesAll first gs s r) (m : Members) :
    ReadsAs (gs.foldlM Members.take m) r (members first m s) := by
  induction h generalizing m with
  | close h => exact members_of_close (nextKey_of_close h)
  | member hb hg h ih =>
    obtain ⟨name, t, v, rfl, hk, hread⟩ := member_of_writes m hg (rest_of_writes h).ends
    rw [members_of_key (nextKey_of_key hb) hk, List.foldlM_cons]
    exact hread.bind ih

/-! ## What the members come to -/

/-- What was met of a field becomes what was met of it at the end: it is not given again, or it is
given once. -/
def Fills (before : Option (Option String)) (cs : List Content) (after : Option (Option String)) :
    Prop :=
  match cs with
  | [] => before = after
  | content :: cs => before = none ∧ cs = [] ∧ ∃ x, content.kept = some x ∧ some x = after

theorem fills_some {x : Option String} {cs : List Content} {after : Option (Option String)} :
    Fills (some x) cs after ↔ cs = [] ∧ some x = after := by
  cases cs with
  | nil => exact ⟨fun h => ⟨rfl, h⟩, fun h => h.2⟩
  | cons content cs =>
    constructor
    · rintro ⟨⟨⟩, -⟩
    · rintro ⟨⟨⟩, -⟩

theorem met_put (m : Members) (x : Option String) (f f' : Field) :
    (m.put x f).met f' = if f = f' then some x else m.met f' := by
  cases f <;> cases f' <;> rfl

theorem eq_of_met (h : ∀ f, m.met f = m'.met f) : m = m' := by
  obtain ⟨code, context⟩ := m
  obtain ⟨code', context'⟩ := m'
  obtain rfl : code = code' := h .code
  obtain rfl : context = context' := h .context
  rfl

theorem take_field_eq_some_iff {f : Field} {content : Content} :
    m.take (.field f content) = some m' ↔
      m.met f = none ∧ ∃ x, content.kept = some x ∧ m.put x f = m' := by
  simp only [Members.take]
  cases hmet : m.met f with
  | some x =>
    constructor
    · rintro ⟨⟩
    · rintro ⟨⟨⟩, -⟩
  | none =>
    rw [Option.isSome_none, if_neg Bool.false_ne_true, Option.map_eq_some_iff]
    exact ⟨fun h => ⟨rfl, h⟩, fun h => h.2⟩

/-- A field that was not met takes its content, and no other field changes. -/
theorem fills_of_take {f : Field} {content : Content} {cs : Field → List Content} :
    (∃ m₁, m.take (.field f content) = some m₁ ∧ ∀ f', Fills (m₁.met f') (cs f') (m'.met f')) ↔
      ∀ f', Fills (m.met f') (if f = f' then content :: cs f' else cs f') (m'.met f') := by
  constructor
  · rintro ⟨m₁, htake, h⟩ f'
    obtain ⟨hmet, x, hx, rfl⟩ := take_field_eq_some_iff.mp htake
    have h := h f'
    rw [met_put] at h
    split
    · next hf =>
      subst hf
      rw [if_pos rfl] at h
      obtain ⟨hcs, hafter⟩ := fills_some.mp h
      exact ⟨hmet, hcs, x, hx, hafter⟩
    · next hf =>
      rw [if_neg hf] at h
      exact h
  · intro h
    have hf := h f
    rw [if_pos rfl] at hf
    obtain ⟨hmet, hcs, x, hx, hafter⟩ := hf
    refine ⟨m.put x f, take_field_eq_some_iff.mpr ⟨hmet, x, hx, rfl⟩, ?_⟩
    intro f'
    have h := h f'
    rw [met_put]
    split
    · next hf =>
      subst hf
      exact fills_some.mpr ⟨hcs, hafter⟩
    · next hf =>
      rw [if_neg hf] at h
      exact h

theorem contents_field (f f' : Field) (content : Content) (gs : List Given) :
    contents f' (.field f content :: gs) =
      if f = f' then content :: contents f' gs else contents f' gs := by
  simp only [contents, List.filterMap_cons, Given.content?]
  split
  · next h =>
    split at h
    · cases h
    · next hf => rw [if_neg hf]
  · next h =>
    split at h
    · next hf => rw [if_pos hf, Option.some.inj h]
    · cases h

/-- **What all members come to is a matter of what each field holds.** -/
theorem collect_eq_some_iff :
    gs.foldlM Members.take m = some m' ↔ ∀ f, Fills (m.met f) (contents f gs) (m'.met f) := by
  induction gs generalizing m with
  | nil =>
    constructor
    · rintro ⟨⟩ f
      exact rfl
    · intro h
      exact congrArg some (eq_of_met h)
  | cons g gs ih =>
    have hcons : (g :: gs).foldlM Members.take m = some m' ↔
        ∃ m₁, m.take g = some m₁ ∧ gs.foldlM Members.take m₁ = some m' := by
      rw [List.foldlM_cons]
      exact Option.bind_eq_some_iff
    simp only [hcons, ih]
    cases g with
    | field f content =>
      simp only [contents_field]
      exact fills_of_take
    | further name hname =>
      constructor
      · rintro ⟨m₁, ⟨⟩, h⟩
        exact h
      · intro h
        exact ⟨m, rfl, h⟩

/-! ## Reading a body -/

theorem mem_of_blanks {b : UInt8} (h : Blanks s (b :: r)) : b ∈ s := by
  generalize hr : b :: r = t at h
  induction h with
  | none => exact hr ▸ List.mem_cons_self
  | more _ _ ih => exact List.mem_cons_of_mem _ (ih hr)

/-- **A body is decoded to what its members come to, and not decoded if they come to nothing.** -/
theorem decode_of_encodes {body : List UInt8} (h : Encodes gs body) :
    match gs.foldlM Members.take .none with
    | some m => decode body = .ok m.toSubmission
    | none => ∃ e, decode body = .error e := by
  obtain ⟨s, r, hs, ⟨t, rfl, ht⟩, hr⟩ := h
  have hblank : body.all isAsciiBlank = false :=
    List.all_eq_false.mpr ⟨_, mem_of_blanks hs, by decide⟩
  have hreading : reading body = (members true .none t).map fun r => (r.1.toSubmission, r.2) := by
    rw [reading, skipBlanks_of_blanks hs rfl]
    rfl
  have hread := (members_of_writes ht .none).map Members.toSubmission
  rw [← hreading] at hread
  rw [decode, hblank, if_neg Bool.false_ne_true, whole]
  cases hm : gs.foldlM Members.take Members.none with
  | some m =>
    rw [hm] at hread
    have hread : reading body = .ok (m.toSubmission, r) := hread
    have hend : skipBlanks r = [] := dropWhile_of_many hr stops_nil
    simp only [hread, hend]
    rfl
  | none =>
    rw [hm] at hread
    obtain ⟨e, he⟩ := hread
    simp only [he]
    exact ⟨_, rfl⟩

theorem fills_of_reads {cs : List Content} {x : Option String} (h : Content.Reads cs x) :
    ∃ after, Fills none cs after ∧ after.join = x := by
  cases h with
  | absent => exact ⟨none, rfl, rfl⟩
  | null => exact ⟨some none, ⟨rfl, rfl, none, rfl, rfl⟩, rfl⟩
  | text => exact ⟨some (some _), ⟨rfl, rfl, _, rfl, rfl⟩, rfl⟩

/-- What is given twice, or is of another kind, fills nothing. -/
theorem not_fills {cs : List Content} {after : Option (Option String)}
    (h : 2 ≤ cs.length ∨ .other ∈ cs) : ¬ Fills none cs after := by
  intro hfills
  cases cs with
  | nil =>
    obtain h | h := h
    · exact absurd h (by decide)
    · exact absurd h List.not_mem_nil
  | cons content cs =>
    obtain ⟨-, rfl, x, hx, -⟩ := hfills
    obtain h | h := h
    · exact absurd h (by simp)
    · obtain rfl := List.mem_singleton.mp h
      cases hx

/-- **Decoding undoes encoding.** The two texts are read of an object that gives each at most once,
as a text or as `null`, however the object is written; if it gives one of them twice, or as what is
neither, the body is a failed call. -/
theorem decode_undoes_encoding {gs : List Given} {body : List UInt8} (h : Encodes gs body) :
    (∀ code context : Option String,
      Content.Reads (contents .code gs) code → Content.Reads (contents .context gs) context →
      decodeBody body = .ok ⟨code, context⟩) ∧
    (∀ f : Field, 2 ≤ (contents f gs).length ∨ .other ∈ contents f gs →
      ∃ message, decodeBody body = .error (.internal message)) := by
  have hdecode := decode_of_encodes h
  constructor
  · intro code context hcode hcontext
    obtain ⟨x, hx, rfl⟩ := fills_of_reads hcode
    obtain ⟨y, hy, rfl⟩ := fills_of_reads hcontext
    have hcollect : gs.foldlM Members.take Members.none = some ⟨x, y⟩ := by
      refine collect_eq_some_iff.mpr fun f => ?_
      cases f with
      | code => exact hx
      | context => exact hy
    rw [hcollect] at hdecode
    exact decodeBody_eq_ok.mpr hdecode
  · intro f hf
    have hcollect : gs.foldlM Members.take Members.none = none := by
      refine Option.eq_none_iff_forall_ne_some.mpr fun m hm => ?_
      have hfills := collect_eq_some_iff.mp hm f
      have hmet : Members.none.met f = none := by cases f <;> rfl
      rw [hmet] at hfills
      exact not_fills hf hfills
    rw [hcollect] at hdecode
    obtain ⟨e, he⟩ := hdecode
    exact ⟨_, by rw [decodeBody, he]; rfl⟩

/-- A name and a text written with escapes, and a further member behind blanks; and a policy text
given again behind `null`. -/
theorem decoded_however_written :
    let written := Utf8.encode "\x7b\"\\u0063ode\":\"\\uD83D\\ude00\" ,\"n\":[\x7b\x7d]\x7d"
    let twice := Utf8.encode "\x7b\"code\":null,\"code\":\"\"\x7d"
    decodeBody written = .ok ⟨some "😀", none⟩ ∧
      ∃ message, decodeBody twice = .error (.internal message) := by
  intro written twice
  have digit {d : Nat} {b : UInt8} (h : d < 10 ∧ b.toNat = 0x30 + d) : SpellsDigit d b := .inl h
  have letter {d : Nat} {b : UInt8}
      (h : 10 ≤ d ∧ d < 16 ∧ (b.toNat = 0x41 + (d - 10) ∨ b.toNat = 0x61 + (d - 10))) :
      SpellsDigit d b := .inr h
  have plain {c : Char} {cs : List Char} {s r : List UInt8}
      (hc : 0x20 ≤ c.toNat ∧ c ≠ '"' ∧ c ≠ '\\') (h : Spells cs s r) :
      Spells (c :: cs) (String.utf8EncodeChar c ++ s) r := .plain hc.1 hc.2.1 hc.2.2 h
  have mark {c : UInt8} {s : List UInt8} : Mark c (c :: s) s := ⟨s, .none, .none⟩
  have ode {r : List UInt8} : Spells ['o', 'd', 'e'] (0x6F :: 0x64 :: 0x65 :: 0x22 :: r) r :=
    plain (by decide) (plain (by decide) (plain (by decide) .close))
  have code {r : List UInt8} :
      Spells ['c', 'o', 'd', 'e'] (0x63 :: 0x6F :: 0x64 :: 0x65 :: 0x22 :: r) r :=
    plain (by decide) ode
  have escaped {r : List UInt8} : Spells ['c', 'o', 'd', 'e']
      (0x5C :: 0x75 :: 0x30 :: 0x30 :: 0x36 :: 0x33 :: 0x6F :: 0x64 :: 0x65 :: 0x22 :: r) r :=
    .numeric (@SpellsUnit.digits 0 0 6 3 _ _ _ _ _ (digit (by decide)) (digit (by decide))
      (digit (by decide)) (digit (by decide))) ode
  have face {r : List UInt8} : Spells ['😀']
      (0x5C :: 0x75 :: 0x44 :: 0x38 :: 0x33 :: 0x44 ::
        0x5C :: 0x75 :: 0x64 :: 0x65 :: 0x30 :: 0x30 :: 0x22 :: r) r :=
    .pair (by decide)
      (@SpellsUnit.digits 13 8 3 13 _ _ _ _ _ (letter (by decide)) (digit (by decide))
        (digit (by decide)) (letter (by decide)))
      (@SpellsUnit.digits 13 14 0 0 _ _ _ _ _ (letter (by decide)) (letter (by decide))
        (digit (by decide)) (digit (by decide))) .close
  have hwritten : written =
      [0x7B, 0x22, 0x5C, 0x75, 0x30, 0x30, 0x36, 0x33, 0x6F, 0x64, 0x65, 0x22, 0x3A, 0x22, 0x5C,
        0x75, 0x44, 0x38, 0x33, 0x44, 0x5C, 0x75, 0x64, 0x65, 0x30, 0x30, 0x22, 0x20, 0x2C, 0x22,
        0x6E, 0x22, 0x3A, 0x5B, 0x7B, 0x7D, 0x5D, 0x7D] := by
    decide +kernel
  have htwice : twice =
      [0x7B, 0x22, 0x63, 0x6F, 0x64, 0x65, 0x22, 0x3A, 0x6E, 0x75, 0x6C, 0x6C, 0x2C, 0x22, 0x63,
        0x6F, 0x64, 0x65, 0x22, 0x3A, 0x22, 0x22, 0x7D] := by
    decide +kernel
  constructor
  · have further : Given.Writes (.further "n" (by rintro (_ | _) <;> decide))
        [0x22, 0x6E, 0x22, 0x3A, 0x5B, 0x7B, 0x7D, 0x5D, 0x7D] [0x7D] :=
      .further (plain (by decide) .close) mark
        (.ofArray (.array .none (.element (.ofObject (.emptyObject .none))) .none))
    have h : Encodes [.field .code (.text "😀"), .further "n" (by rintro (_ | _) <;> decide)]
        written := by
      rw [hwritten]
      exact ⟨_, [], .none, ⟨_, rfl, .member .none (.field escaped mark (.text face))
        (.member ⟨_, .more rfl .none, .none⟩ further (.close .none))⟩, .none⟩
    exact (decode_undoes_encoding h).1 _ _ .text .absent
  · have h : Encodes [.field .code .null, .field .code (.text "")] twice := by
      rw [htwice]
      exact ⟨_, [], .none, ⟨_, rfl, .member .none (.field code mark .null)
        (.member mark (.field code mark (.text .close)) (.close .none))⟩, .none⟩
    exact (decode_undoes_encoding h).2 .code (.inl (by decide))

end Submission

end PolicyGate
