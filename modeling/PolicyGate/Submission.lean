import PolicyGate.Fault
import PolicyGate.Json.Value
import PolicyGate.Text.Blank

/-!
# Submissions

The body of a validation request is a JSON object with two optional texts, the policy `code` and a
`context`, and any other members, which are passed over. An array is taken for the two texts in that
order. A body of ASCII blanks and the value `null` are the empty submission. The context is itself
a JSON text and stays one; it only has to be an object or an array.
-/

namespace PolicyGate

/-- What a request asks to validate. -/
structure Submission where
  rawCode : Option String
  rawContext : Option String
  deriving DecidableEq, Repr

namespace Submission

def empty : Submission := ⟨none, none⟩

/-- The policy text, empty if there is none. -/
def code (s : Submission) : String := s.rawCode.getD ""

/-- The context, unless it is absent or blank. -/
def context (s : Submission) : Option String := s.rawContext.filter fun c => !Text.allBlank c

/-! ## Reading the body -/

open Json

/-- The complaint about a value that starts with the given byte and is not of the expected kind.
The value is read first unless it is an array or an object. -/
def wrongKind (expected : String) (c : UInt8) (rest : List UInt8) : Stop :=
  let complain (found : Found) (rest : List UInt8) : Stop :=
    .before (.wrongKind found expected) rest
  let named (word : List UInt8) (found : Found) : Stop :=
    match literal word rest with
    | .error e => e
    | .ok rest => complain found rest
  let number (r : Reading Number) : Stop :=
    match r with
    | .error e => e
    | .ok (n, rest) => complain n.found rest
  if c = 0x6E then named [0x75, 0x6C, 0x6C] .null
  else if c = 0x74 then named [0x72, 0x75, 0x65] (.boolean true)
  else if c = 0x66 then named [0x61, 0x6C, 0x73, 0x65] (.boolean false)
  else if c = 0x2D then number (Number.keep true rest)
  else if Number.isDigit c then number (Number.keep false (c :: rest))
  else if c = 0x22 then
    match keepString [] none rest with
    | .error e => e
    | .ok (cs, rest) => complain (.string (String.ofList cs)) rest
  else if c = 0x5B then complain .array (c :: rest)
  else if c = 0x7B then complain .object (c :: rest)
  else .on .expectedValue (c :: rest)

/-- Reads a text or `null`. -/
def optionalText (s : List UInt8) : Reading (Option String) :=
  match skipBlanks s with
  | [] => .error (.on .eofValue [])
  | c :: rest =>
    if c = 0x6E then (literal [0x75, 0x6C, 0x6C] rest).map fun r => (none, r)
    else if c = 0x22 then
      (keepString [] none rest).map fun r => (some (String.ofList r.1), r.2)
    else .error (wrongKind "a string" c rest)

/-- The members met so far. A member given as `null` has been met. -/
structure Members where
  code : Option (Option String)
  context : Option (Option String)

def Members.none : Members := ⟨.none, .none⟩

/-- An absent member counts as `null`. -/
def Members.toSubmission (m : Members) : Submission := ⟨m.code.join, m.context.join⟩

/-- The complaint about a member that comes again. A closing bracket behind the key is passed. -/
def again (name : String) (s : List UInt8) : Stop :=
  match skipBlanks s with
  | 0x7D :: rest => .before (.duplicateMember name) rest
  | rest => .before (.duplicateMember name) rest

/-- Reads the value of a member, given its key. -/
def member (m : Members) (key : String) (s : List UInt8) : Reading Members :=
  if key = "code" then
    if m.code.isSome then .error (again key s)
    else (Walk.colon s).bind fun s =>
      (optionalText s).map fun r => ({ m with code := some r.1 }, r.2)
  else if key = "context" then
    if m.context.isSome then .error (again key s)
    else (Walk.colon s).bind fun s =>
      (optionalText s).map fun r => ({ m with context := some r.1 }, r.2)
  else (Walk.colon s).bind fun s => (skipValue s).map fun r => (m, r)

/-- Finds the next key behind its opening quote, or the end of the object. -/
def nextKey (first : Bool) (s : List UInt8) : Reading Bool :=
  let start : List UInt8 → Reading Bool := fun s =>
    match s with
    | [] => .error (.on .eofValue [])
    | c :: rest =>
      if c = 0x22 then .ok (true, rest)
      else if c = 0x7D then .error (.on .trailingComma (c :: rest))
      else .error (.on .keyNotString (c :: rest))
  match skipBlanks s with
  | [] => .error (.on .eofObject [])
  | c :: rest =>
    if c = 0x7D then .ok (false, rest)
    else if first then start (c :: rest)
    else if c = 0x2C then start (skipBlanks rest)
    else .error (.on .expectedObjectEnd (c :: rest))

/-- Finds the next item of an array, or its closing bracket, which stays. -/
def nextItem (first : Bool) (s : List UInt8) : Reading Bool :=
  match skipBlanks s with
  | [] => .error (.on .eofArray [])
  | c :: rest =>
    if c = 0x5D then .ok (false, c :: rest)
    else if first then .ok (true, c :: rest)
    else if c = 0x2C then
      match skipBlanks rest with
      | [] => .error (.on .eofValue [])
      | d :: more =>
        if d = 0x5D then .error (.on .trailingComma (d :: more)) else .ok (true, d :: more)
    else .error (.on .expectedArrayEnd (c :: rest))

/-- Reads an item of an array if there is one. -/
def item (first : Bool) (s : List UInt8) : Reading (Option String) :=
  (nextItem first s).bind fun r => if r.1 then optionalText r.2 else .ok (none, r.2)

/-- Reads the end of an array. -/
def arrayEnd (s : List UInt8) : Except Stop (List UInt8) :=
  match skipBlanks s with
  | [] => .error (.on .eofArray [])
  | c :: rest =>
    if c = 0x5D then .ok rest
    else if c = 0x2C then
      match skipBlanks rest with
      | 0x5D :: more => .error (.on .trailingComma (0x5D :: more))
      | more => .error (.on .trailingCharacters more)
    else .error (.on .trailingCharacters (c :: rest))

/-- Reads the two texts of an array after its opening bracket. -/
def items (s : List UInt8) : Reading Submission :=
  (item true s).bind fun a => (item false a.2).bind fun b =>
    (arrayEnd b.2).map fun rest => (⟨a.1, b.1⟩, rest)

/-! ## Members in order -/

theorem length_optionalText {s rest : List UInt8} {t : Option String}
    (h : optionalText s = .ok (t, rest)) : rest.length ≤ s.length := by
  have hb := length_skipBlanks s
  unfold optionalText at h
  split at h
  · cases h
  · next c after hc =>
    rw [hc, List.length_cons] at hb
    split at h
    · obtain ⟨r, hr, he⟩ := Walk.eq_of_map h
      obtain ⟨-, rfl⟩ := Prod.mk.inj he
      exact Nat.le_trans (length_literal hr) (Nat.le_of_succ_le hb)
    · split at h
      · obtain ⟨r, hr, he⟩ := Walk.eq_of_map h
        obtain ⟨-, rfl⟩ := Prod.mk.inj he
        exact Nat.le_trans (length_keepString hr) (Nat.le_of_succ_le hb)
      · cases h

theorem length_nextKey {first : Bool} {s rest : List UInt8}
    (h : nextKey first s = .ok (true, rest)) : rest.length < s.length := by
  have hb := length_skipBlanks s
  unfold nextKey at h
  simp only at h
  split at h
  · cases h
  · next c after hc =>
    rw [hc, List.length_cons] at hb
    have hd := length_skipBlanks after
    split at h
    · cases h
    · split at h
      · split at h
        · obtain ⟨-, rfl⟩ := Prod.mk.inj (Except.ok.inj h)
          omega
        · cases h
      · split at h
        · split at h
          · cases h
          · next hc =>
            rw [hc, List.length_cons] at hd
            split at h
            · obtain ⟨-, rfl⟩ := Prod.mk.inj (Except.ok.inj h)
              omega
            · split at h <;> cases h
        · cases h

theorem length_member {m m' : Members} {key : String} {s rest : List UInt8}
    (h : member m key s = .ok (m', rest)) : rest.length ≤ s.length := by
  have read : ∀ {α : Type} (f : List UInt8 → Reading α),
      (∀ t r a, f t = .ok (a, r) → r.length ≤ t.length) → ∀ (g : α × List UInt8 → Members),
      ((Walk.colon s).bind fun s => (f s).map fun r => (g r, r.2)) = .ok (m', rest) →
      rest.length ≤ s.length := by
    intro α f hf g hr
    cases hc : Walk.colon s with
    | error e => rw [hc] at hr; cases hr
    | ok t =>
      rw [hc] at hr
      obtain ⟨⟨a, r⟩, ha, he⟩ := Walk.eq_of_map hr
      obtain ⟨-, rfl⟩ := Prod.mk.inj he
      exact Nat.le_trans (hf _ _ _ ha) (Walk.length_colon hc)
  unfold member at h
  split at h
  · split at h
    · cases h
    · exact read optionalText (fun _ _ _ => length_optionalText) _ h
  · split at h
    · split at h
      · cases h
      · exact read optionalText (fun _ _ _ => length_optionalText) _ h
    · cases hc : Walk.colon s with
      | error e => rw [hc] at h; cases h
      | ok t =>
        rw [hc] at h
        obtain ⟨r, ha, he⟩ := Walk.eq_of_map h
        obtain ⟨-, rfl⟩ := Prod.mk.inj he
        exact Nat.le_trans (Nat.le_of_lt (length_walk ha)) (Walk.length_colon hc)

/-- Reads the members of an object, up to and with its closing bracket. -/
def members (first : Bool) (m : Members) (s : List UInt8) : Reading Members :=
  match _hn : nextKey first s with
  | .error e => .error e
  | .ok (false, rest) => .ok (m, rest)
  | .ok (true, rest) =>
    match _hk : keepString [] none rest with
    | .error e => .error e
    | .ok (key, rest) =>
      match _hm : member m (String.ofList key) rest with
      | .error e => .error e
      | .ok (m, rest) => members false m rest
termination_by s.length
decreasing_by
  exact Nat.lt_of_le_of_lt (Nat.le_trans (length_member ‹_›) (length_keepString ‹_›))
    (length_nextKey ‹_›)

/-- Reads a submission and what follows it. -/
def reading (s : List UInt8) : Reading Submission :=
  match skipBlanks s with
  | [] => .error (.on .eofValue [])
  | c :: rest =>
    if c = 0x6E then (literal [0x75, 0x6C, 0x6C] rest).map fun r => (.empty, r)
    else if c = 0x5B then items rest
    else if c = 0x7B then (members true .none rest).map fun r => (r.1.toSubmission, r.2)
    else .error (wrongKind "struct ValidateRequest" c rest)

/-- Reads a submission that fills the whole body. -/
def whole (s : List UInt8) : Except Stop Submission :=
  match reading s with
  | .error e => .error e
  | .ok (sub, rest) =>
    match skipBlanks rest with
    | [] => .ok sub
    | c :: more => .error (.on .trailingCharacters (c :: more))

/-- The blanks of ASCII, the form feed included. -/
def isAsciiBlank (b : UInt8) : Bool := isBlank b || b = 0x0C

/-- The submission in a body. -/
def decode (body : List UInt8) : Except Json.Fault Submission :=
  if body.all isAsciiBlank then .ok .empty else (whole body).mapError (.ofStop body)

end Submission

/-! ## Checking the context -/

/-- What can be wrong with a context. -/
inductive ContextFault where
  | json (fault : Json.Fault)
  /-- A JSON text of another kind than object or array. -/
  | wrongShape
  deriving DecidableEq, Repr

def ContextFault.message : ContextFault → String
  | .json fault => fault.message
  | .wrongShape => "Context must be a JSON object or array."

/-- Whether a JSON text starts as an array or an object. -/
def startsBracketed (text : List UInt8) : Bool :=
  match Json.skipBlanks text with
  | c :: _ => c = 0x5B || c = 0x7B
  | [] => false

/-- Checks that a context is the JSON text of an object or an array. -/
def checkContext (context : String) : Except ContextFault Unit :=
  let text := Utf8.encode context
  match Json.checkWhole text with
  | .error stop => .error (.json (.ofStop text stop))
  | .ok () => if startsBracketed text then .ok () else .error .wrongShape

/-- The submission in a body; one that cannot be read is a failed call. -/
def decodeBody (body : List UInt8) : Except Fault Submission :=
  (Submission.decode body).mapError fun f =>
    .internal ("invalid request json: " ++ f.message)

end PolicyGate
