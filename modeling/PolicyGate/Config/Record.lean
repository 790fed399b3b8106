import PolicyGate.Yaml.Meaning
import PolicyGate.Width

/-!
# Decoding nodes by a schema

A value is decoded under the path by which it is reached. A record is decoded strictly: its keys are
taken in the order of the text, and one that the record does not have, or that comes again, is
refused. Fields that do not come keep the value they have in the record one starts from.
-/

namespace PolicyGate.Schema

open Yaml

/-! ## Complaints -/

/-- One step down the tree. -/
inductive Step where
  | field (name : String)
  | item (index : Nat)
  /-- The value of a key that is not written out. -/
  | unnamed
  deriving DecidableEq, Repr

/-- The way from the root to a value. -/
abbrev Path := List Step

/-- The path as it is shown. The root has none. -/
def pathText (p : Path) : String :=
  p.foldl (fun text step =>
    let lead := if text.isEmpty then "" else text ++ "."
    match step with
    | .field name => lead ++ name
    | .item i => text ++ "[" ++ toString i ++ "]"
    | .unnamed => lead ++ "?") ""

/-- What is wrong with a value. -/
inductive Complaint where
  | unknownField (name : String) (fields : List String)
  | missingField (name : String)
  | duplicateField (name : String)
  | invalidType (found : Found) (expected : String)
  | invalidValue (found : Found) (expected : String)

/-- An enumeration of alternatives. -/
def oneOf (names : List String) : String :=
  match names.map fun n => "`" ++ n ++ "`" with
  | [a] => a
  | [a, b] => a ++ " or " ++ b
  | all => "one of " ++ ", ".intercalate all

def Complaint.message : Complaint → String
  | .unknownField name fields => "unknown field `" ++ name ++ "`, expected " ++ oneOf fields
  | .missingField name => "missing field `" ++ name ++ "`"
  | .duplicateField name => "duplicate field `" ++ name ++ "`"
  | .invalidType found expected => "invalid type: " ++ found.message ++ ", expected " ++ expected
  | .invalidValue found expected => "invalid value: " ++ found.message ++ ", expected " ++ expected

/-- Why a tree cannot be decoded. -/
inductive Stop where
  /-- The text broke off or breaks a rule of YAML. -/
  | malformed
  /-- A complaint that belongs to the record around it. -/
  | bare (complaint : Complaint)
  | complaint (mark : Mark) (path : Path) (complaint : Complaint)

/-- Gives a complaint its place, unless it has one. -/
def Stop.locate (mark : Mark) (path : Path) : Stop → Stop
  | .bare c => .complaint mark path c
  | s => s

def located {α : Type} (mark : Mark) (path : Path) (r : Except Stop α) : Except Stop α :=
  r.mapError (·.locate mark path)

/-! ## Records -/

/-- A field of a record, with the way to decode its value and file it in the record. -/
structure Setting (ρ : Type) where
  name : String
  file : Document → Path → Node → ρ → Except Stop ρ

/-- The mark that stands for a node in complaints. -/
def markOf : Node → Mark
  | .scalar mark .. => mark
  | .sequence mark _ => mark
  | .mapping mark _ => mark
  | _ => {}

/-- The complaint about a node of the wrong kind. -/
def unexpected (path : Path) (expected : String) (n : Node) : Stop :=
  let complain (c : Complaint) := Stop.complaint (markOf n) path c
  match n with
  | .scalar _ tag style text =>
    match meaning tag style text with
    | .ok found => complain (.invalidType found expected)
    | .error m => complain (.invalidValue (.string m.text) m.expected)
  | .sequence .. => complain (.invalidType .sequence expected)
  | .mapping .. => complain (.invalidType .mapping expected)
  | _ => .malformed

/-- The field that a key names. -/
def findField {ρ : Type} (d : Document) (path : Path) (fields : List (Setting ρ)) (key : Node) :
    Except Stop (Setting ρ) :=
  match d.resolve key with
  | .scalar mark _ _ text =>
    match fields.find? (·.name == text) with
    | some f => .ok f
    | none => .error (.complaint mark path (.unknownField text (fields.map (·.name))))
  | n => .error (unexpected path "field identifier" n)

/-- The step to the value of a key. -/
def stepOf : Node → Step
  | .scalar _ _ _ text => .field text
  | _ => .unnamed

/-- Files one entry, given the names of the fields that came before. -/
def fileEntry {ρ : Type} (d : Document) (path : Path) (fields : List (Setting ρ))
    (seen : List String) (entry : Node × Node) (r : ρ) : Except Stop (List String × ρ) :=
  match findField d path fields entry.1 with
  | .error e => .error e
  | .ok f =>
    if f.name ∈ seen then .error (.bare (.duplicateField f.name))
    else (f.file d (path ++ [stepOf entry.1]) entry.2 r).map (f.name :: seen, ·)

/-- Files all entries of a mapping in a record. -/
def fileAll {ρ : Type} (d : Document) (path : Path) (fields : List (Setting ρ))
    (seen : List String) : List (Node × Node) → ρ → Except Stop ρ
  | [], r => .ok r
  | e :: es, r =>
    match fileEntry d path fields seen e r with
    | .error stop => .error stop
    | .ok (seen, r) => fileAll d path fields seen es r

/-- Whether a node is left empty: nothing is written where it would stand. -/
def isEmpty : Node → Bool
  | .void => true
  | .scalar _ _ style text => style == .plain && text.isEmpty
  | _ => false

/-- Decodes a record from a mapping. Where nothing is written it has no entries. -/
def record {ρ α : Type} (fields : List (Setting ρ)) (start : ρ) (finish : ρ → Except Stop α)
    (expected : String) (d : Document) (path : Path) (n : Node) : Except Stop α :=
  match d.resolve n with
  | .mapping mark entries =>
    located mark path ((fileAll d path fields [] entries start).bind finish)
  | n =>
    if isEmpty n then located (markOf n) path (finish start)
    else .error (unexpected path expected n)

/-! ## Values -/

/-- A way to decode a value under a path. -/
abbrev Decoder (α : Type) := Document → Path → Node → Except Stop α

def text : Decoder String := fun d path n =>
  match d.resolve n with
  | .scalar _ _ _ text => .ok text
  | n => .error (unexpected path "a string" n)

/-- Decodes a scalar that is plain, or a literal block under the tag for what it has to be. -/
def literal {α : Type} (tag expected : String) (read : String → Option α) : Decoder α :=
  fun d path n =>
    match d.resolve n with
    | .scalar mark t style text =>
      let plain := style == .plain || (style == .literal && t == some (standardTag tag))
      match if plain then read text else none with
      | some a => .ok a
      | none => .error (unexpected path expected (.scalar mark t style text))
    | n => .error (unexpected path expected n)

def flag : Decoder Bool := literal "bool" "a boolean" boolean?

/-- A number of 64 bits. -/
def number (expected : String) : Decoder Nat :=
  literal "int" expected fun s => (unsigned? s.toList).filter (· < Width.of64)

/-- A signed number of 64 bits. -/
def signed? (cs : List Char) : Option Int :=
  (integer? cs).filter fun n => -(Width.of63 : Int) ≤ n && n < Width.of63

/-- A signed number of 32 bits. A larger one of 64 bits is of the right type but out of range. -/
def exitCode : Decoder Int := fun d path n =>
  match literal "int" "i32" (fun s => signed? s.toList) d path n with
  | .error e => .error e
  | .ok v =>
    if -(Width.of31 : Int) ≤ v ∧ v < Width.of31 then .ok v
    else .error (.complaint (markOf (d.resolve n)) path (.invalidValue (.integer v) "i32"))

/-- Decodes items in order. -/
def itemsFrom {α : Type} (item : Decoder α) (d : Document) (path : Path) (index : Nat) :
    List Node → Except Stop (List α)
  | [] => .ok []
  | n :: ns =>
    match item d (path ++ [.item index]) n with
    | .error e => .error e
    | .ok a => (itemsFrom item d path (index + 1) ns).map (a :: ·)

/-- A sequence, which is empty where nothing is written. -/
def list {α : Type} (item : Decoder α) : Decoder (List α) := fun d path n =>
  match d.resolve n with
  | .sequence _ items => itemsFrom item d path 0 items
  | n => if isEmpty n then .ok [] else .error (unexpected path "a sequence" n)

/-- Whether a node is a null. The tag for nulls asks for the text of one. -/
def isAbsent (n : Node) : Except Stop Bool :=
  match n with
  | .scalar _ tag style text =>
    if style != .plain then .ok false
    else
      match tag with
      | none => .ok (text.isEmpty || isNull text)
      | some t =>
        if t == standardTag "null" then
          if isNull text then .ok true else .error (.bare (.invalidValue (.string text) "null"))
        else .ok false
  | .void => .ok true
  | .sequence .. | .mapping .. => .ok false
  | .shared _ | .cut => .error .malformed

/-- A value that may be null. -/
def optional {α : Type} (value : Decoder α) : Decoder (Option α) := fun d path n =>
  match isAbsent (d.resolve n) with
  | .error e => .error e
  | .ok true => .ok none
  | .ok false => (value d path n).map some

/-- A field with a decoder and a way to file what it gives. -/
def Setting.of {ρ α : Type} (name : String) (value : Decoder α) (file : ρ → α → ρ) : Setting ρ :=
  ⟨name, fun d path n r => (value d path n).map (file r)⟩

/-! ## Messages -/

/-- A complaint with its path and its place. -/
def fullText (m : Mark) (path : Path) (c : Complaint) : String :=
  (if path.isEmpty then "" else pathText path ++ ": ") ++ c.message ++ m.text

/-- Why a document cannot be decoded, as it is reported. -/
def Stop.message (d : Document) : Stop → String
  | .malformed => "invalid yaml: " ++ (d.flaw.getD { problem := .endOfText }).message
  | .bare c => "invalid yaml: " ++ c.message
  | .complaint m path c => "invalid yaml: " ++ fullText m path c

end PolicyGate.Schema
