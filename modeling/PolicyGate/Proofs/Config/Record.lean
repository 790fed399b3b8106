import Mathlib.Data.List.Nodup
import Mathlib.Data.List.Pairwise
import PolicyGate.Config.Record

/-!
# Records are decoded field by field

A record is filled entry by entry, in the order of the text. What comes out depends on the values
that stand under its names, but not on their order.

* `valuesOf`, `valuesAt` — what stands under a name, and at the end of a way of names.
* `Strict` — the keys of a mapping are names of a record, none of them twice.
* `Given` — a field has the meaning of the value that is written for it, or else its start.
* `Field` — a field, what its values mean, and how it is read and written in a record.
* `Layout` — fields that do not touch each other and make up a record.
* `IsText`, `IsNumber`, `IsListOf`, `IsNullOr`, … — what the values of a type mean.

**Theorem (`Layout.record_eq_ok_iff`).** A record is decoded from a node if and only if the node is
a mapping or empty, its keys are strict, and each field is as given.

The induction is on the entries, and the start is left general: an entry writes its field once and
for all, since strict keys do not name it again, and leaves the others as they are.
-/

namespace PolicyGate.Schema

open Yaml

variable {ρ α : Type} {d : Document} {path : Path} {name : String} {e : Node × Node}
  {entries es : List (Node × Node)} {n : Node} {R : Node → α → Prop} {a v : α}

/-! ## What is written -/

/-- The text of a key. -/
def keyText? (d : Document) (key : Node) : Option String :=
  match d.resolve key with
  | .scalar _ _ _ text => some text
  | _ => none

/-- The values that stand under a name. -/
def valuesOf (d : Document) (name : String) (entries : List (Node × Node)) : List Node :=
  (entries.filter fun e => keyText? d e.1 == some name).map (·.2)

def IsMapping (d : Document) (n : Node) : Prop :=
  ∃ mark entries, d.resolve n = .mapping mark entries

/-- The entries of a mapping. -/
def entriesOf (d : Document) (n : Node) : List (Node × Node) :=
  match d.resolve n with
  | .mapping _ entries => entries
  | _ => []

/-- What stands at the end of a way of names. -/
def valuesAt (d : Document) : List String → Node → List Node
  | [], n => [n]
  | name :: way, n => (valuesOf d name (entriesOf d n)).flatMap (valuesAt d way)

/-- Entries whose keys are names of a record, none of them twice. -/
structure Strict (d : Document) (names : List String) (entries : List (Node × Node)) : Prop where
  known : ∀ e ∈ entries, ∃ name ∈ names, keyText? d e.1 = some name
  once : (entries.map fun e => keyText? d e.1).Nodup

/-- A field has the meaning of the value that is written for it, or else the one it starts with. -/
structure Given (R : Node → α → Prop) (start : α) (values : List Node) (v : α) : Prop where
  read : ∀ n ∈ values, R n v
  kept : values = [] → v = start

theorem given_nil : Given R a [] v ↔ v = a :=
  ⟨fun h => h.kept rfl, fun h => ⟨fun _ hn => absurd hn List.not_mem_nil, fun _ => h⟩⟩

theorem given_singleton : Given R a [n] v ↔ R n v :=
  ⟨fun h => h.read n (List.mem_singleton.mpr rfl),
    fun h => ⟨fun _ hm => List.mem_singleton.mp hm ▸ h, fun hnil => absurd hnil (by simp)⟩⟩

theorem Given.congr {S : Node → α → Prop} {values : List Node} {v : α}
    (h : ∀ n ∈ values, R n v ↔ S n v) : Given R a values v ↔ Given S a values v :=
  ⟨fun hg => ⟨fun n hn => (h n hn).mp (hg.read n hn), hg.kept⟩,
    fun hg => ⟨fun n hn => (h n hn).mpr (hg.read n hn), hg.kept⟩⟩

/-- A field whose values all have a meaning can be given, if there is one of them at most. -/
theorem exists_given {values : List Node} (hlength : values.length ≤ 1)
    (htyped : ∀ n ∈ values, ∃ v, R n v) (a : α) : ∃ v, Given R a values v := by
  match values with
  | [] => exact ⟨a, given_nil.mpr rfl⟩
  | [n] =>
    obtain ⟨v, hv⟩ := htyped n (List.mem_singleton.mpr rfl)
    exact ⟨v, given_singleton.mpr hv⟩
  | _ :: _ :: _ => simp at hlength

theorem valuesOf_cons_of_eq (h : keyText? d e.1 = some name) :
    valuesOf d name (e :: es) = e.2 :: valuesOf d name es := by
  rw [valuesOf, List.filter_cons_of_pos (by simpa using h)]
  rfl

theorem valuesOf_cons_of_ne (h : keyText? d e.1 ≠ some name) :
    valuesOf d name (e :: es) = valuesOf d name es := by
  rw [valuesOf, List.filter_cons_of_neg (by simpa using h)]
  rfl

theorem valuesOf_eq_nil (h : ∀ e ∈ entries, keyText? d e.1 ≠ some name) :
    valuesOf d name entries = [] := by
  rw [valuesOf, List.filter_eq_nil_iff.mpr (by simpa using h), List.map_nil]

theorem valuesAt_single (d : Document) (name : String) (n : Node) :
    valuesAt d [name] n = valuesOf d name (entriesOf d n) :=
  List.flatMap_singleton' _

theorem valuesAt_of_nil {way : List String} (h : valuesOf d name (entriesOf d n) = []) :
    valuesAt d (name :: way) n = [] := by
  rw [valuesAt, h, List.flatMap_nil]

theorem valuesAt_of_singleton {way : List String} {m : Node}
    (h : valuesOf d name (entriesOf d n) = [m]) :
    valuesAt d (name :: way) n = valuesAt d way m := by
  rw [valuesAt, h, List.flatMap_singleton]

theorem length_valuesAt_le {way : List String}
    (houter : (valuesOf d name (entriesOf d n)).length ≤ 1)
    (hinner : ∀ m ∈ valuesOf d name (entriesOf d n), (valuesAt d way m).length ≤ 1) :
    (valuesAt d (name :: way) n).length ≤ 1 := by
  match hvalues : valuesOf d name (entriesOf d n) with
  | [] => simp [valuesAt_of_nil hvalues]
  | [m] =>
    rw [valuesAt_of_singleton hvalues]
    exact hinner m (hvalues ▸ List.mem_singleton.mpr rfl)
  | _ :: _ :: _ => simp [hvalues] at houter

/-! ## Strict keys -/

section

variable {names : List String}

theorem strict_nil : Strict d names [] :=
  ⟨fun _ h => absurd h List.not_mem_nil, List.nodup_nil⟩

theorem strict_cons_iff : Strict d names (e :: es) ↔
    (∃ name ∈ names, keyText? d e.1 = some name ∧
      ∀ e' ∈ es, keyText? d e'.1 ≠ some name) ∧ Strict d names es := by
  constructor
  · rintro ⟨hknown, honce⟩
    obtain ⟨⟨name, hname, hkey⟩, hknown⟩ := List.forall_mem_cons.mp hknown
    obtain ⟨hnew, honce⟩ := List.nodup_cons.mp honce
    refine ⟨⟨name, hname, hkey, fun e' he' hsame => hnew ?_⟩, hknown, honce⟩
    exact List.mem_map.mpr ⟨e', he', hsame.trans hkey.symm⟩
  · rintro ⟨⟨name, hname, hkey, hnew⟩, hknown, honce⟩
    refine ⟨List.forall_mem_cons.mpr ⟨⟨name, hname, hkey⟩, hknown⟩, ?_⟩
    refine List.nodup_cons.mpr ⟨fun hmem => ?_, honce⟩
    obtain ⟨e', he', hsame⟩ := List.mem_map.mp hmem
    exact hnew e' he' (hsame.trans hkey)

/-- Under a name there is one value at most. -/
theorem Strict.length_valuesOf_le (h : Strict d names entries) (name : String) :
    (valuesOf d name entries).length ≤ 1 := by
  induction entries with
  | nil => exact Nat.zero_le 1
  | cons e es ih =>
    obtain ⟨⟨first, -, hkey, hnew⟩, hrest⟩ := strict_cons_iff.mp h
    by_cases hname : keyText? d e.1 = some name
    · obtain rfl : first = name := Option.some.inj (hkey.symm.trans hname)
      rw [valuesOf_cons_of_eq hname, valuesOf_eq_nil hnew]
      exact Nat.le_refl 1
    · rw [valuesOf_cons_of_ne hname]
      exact ih hrest

end

/-! ## Fields and layouts -/

theorem map_eq_ok_iff {ε β : Type} {x : Except ε α} {g : α → β} {b : β} :
    x.map g = .ok b ↔ ∃ v, x = .ok v ∧ b = g v := by
  cases x with
  | error e => exact ⟨fun h => (by cases h), fun ⟨_, h, _⟩ => (by cases h)⟩
  | ok v =>
    exact ⟨fun h => ⟨v, rfl, (Except.ok.inj h).symm⟩, fun ⟨w, h, hb⟩ => by cases h; rw [hb]; rfl⟩

/-- What a decoder accepts, and what it makes of it. -/
def Exact (value : Decoder α) (Reads : Document → Node → α → Prop) : Prop :=
  ∀ d path n v, value d path n = .ok v ↔ Reads d n v

/-- A field of a record: the setting that files it, what its values mean, and how it is read and
written in a record. -/
structure Field (ρ : Type) where
  setting : Setting ρ
  {β : Type}
  Reads : Document → Node → β → Prop
  get : ρ → β
  put : ρ → β → ρ
  file_iff : ∀ {d path n r r'},
    setting.file d path n r = .ok r' ↔ ∃ v, Reads d n v ∧ r' = put r v
  get_put : ∀ r v, get (put r v) = v

/-- A field whose value is decoded exactly. -/
def Field.of {ρ β : Type} (name : String) {value : Decoder β} {Reads : Document → Node → β → Prop}
    (exact : Exact value Reads) (get : ρ → β) (put : ρ → β → ρ)
    (get_put : ∀ r v, get (put r v) = v) : Field ρ where
  setting := .of name value put
  Reads := Reads
  get := get
  put := put
  file_iff := by
    intro d path n r r'
    simp only [Setting.of, map_eq_ok_iff, exact d path n]
  get_put := get_put

/-- Two fields of a record have different names, and writing one leaves the other as it is. -/
def Field.Apart (f g : Field ρ) : Prop :=
  f.setting.name ≠ g.setting.name ∧ (∀ r v, f.get (g.put r v) = f.get r) ∧
    ∀ r v, g.get (f.put r v) = g.get r

instance : Std.Symm (@Field.Apart ρ) where
  symm _ _ h := ⟨h.1.symm, h.2.2, h.2.1⟩

/-- The fields of a record: they do not touch each other, and they make up the record. -/
structure Layout (ρ : Type) where
  fields : List (Field ρ)
  apart : fields.Pairwise Field.Apart
  ext : ∀ {r r'}, (∀ f ∈ fields, f.get r = f.get r') → r = r'

namespace Layout

variable {l : Layout ρ} {f : Field ρ} {seen : List String} {r r' start : ρ}

def settings (l : Layout ρ) : List (Setting ρ) := l.fields.map (·.setting)

def names (l : Layout ρ) : List String := l.fields.map (·.setting.name)

/-- The fields of a record are as given by some entries over a start. -/
def Filled (l : Layout ρ) (d : Document) (entries : List (Node × Node)) (start r : ρ) : Prop :=
  ∀ f ∈ l.fields,
    Given (f.Reads d) (f.get start) (valuesOf d f.setting.name entries) (f.get r)

/-- What a node means as a record. -/
def Reads (l : Layout ρ) (start : ρ) (d : Document) (n : Node) (r : ρ) : Prop :=
  (IsMapping d n ∨ isEmpty (d.resolve n) = true) ∧ Strict d l.names (entriesOf d n) ∧
    l.Filled d (entriesOf d n) start r

/-! ### One entry -/

theorem eq_of_name_eq {g : Field ρ} (hf : f ∈ l.fields) (hg : g ∈ l.fields)
    (h : f.setting.name = g.setting.name) : f = g :=
  List.inj_on_of_nodup_map (List.pairwise_map.mpr (l.apart.imp (·.1))) hf hg h

theorem get_put_of_ne {g : Field ρ} (hf : f ∈ l.fields) (hg : g ∈ l.fields)
    (h : f.setting.name ≠ g.setting.name) : ∀ r v, f.get (g.put r v) = f.get r :=
  (l.apart.forall hf hg fun heq => h (heq ▸ rfl)).2.1

theorem find?_name_eq_some_iff {s : Setting ρ} : l.settings.find? (·.name == name) = some s ↔
    ∃ f ∈ l.fields, f.setting.name = name ∧ s = f.setting := by
  constructor
  · intro h
    obtain ⟨f, hf, rfl⟩ := List.mem_map.mp (List.mem_of_find?_eq_some h)
    exact ⟨f, hf, by simpa using List.find?_some h, rfl⟩
  · rintro ⟨f, hf, rfl, rfl⟩
    cases h : l.settings.find? (·.name == f.setting.name) with
    | none => simpa using List.find?_eq_none.mp h f.setting (List.mem_map_of_mem hf)
    | some s =>
      obtain ⟨g, hg, rfl⟩ := List.mem_map.mp (List.mem_of_find?_eq_some h)
      rw [eq_of_name_eq hg hf (by simpa using List.find?_some h)]

theorem findField_eq_ok_iff {key : Node} {s : Setting ρ} :
    findField d path l.settings key = .ok s ↔
      ∃ f ∈ l.fields, keyText? d key = some f.setting.name ∧ s = f.setting := by
  cases hkey : d.resolve key with
  | scalar mark tag style text =>
    simp only [findField, keyText?, hkey, Option.some.injEq, @eq_comm _ text]
    rw [← find?_name_eq_some_iff]
    cases l.settings.find? (·.name == text) with
    | none => exact ⟨fun h => (by cases h), fun h => (by cases h)⟩
    | some g =>
      exact ⟨fun h => congrArg some (Except.ok.inj h), fun h => congrArg _ (Option.some.inj h)⟩
  | _ => simp [findField, keyText?, hkey]

/-- An entry is filed if its key names a field that did not come before, and its value has a
meaning. -/
theorem fileEntry_eq_ok_iff {seen' : List String} :
    fileEntry d path l.settings seen e r = .ok (seen', r') ↔
      ∃ f ∈ l.fields, keyText? d e.1 = some f.setting.name ∧ f.setting.name ∉ seen ∧
        seen' = f.setting.name :: seen ∧ ∃ v, f.Reads d e.2 v ∧ r' = f.put r v := by
  rw [fileEntry]
  constructor
  · intro h
    cases hfield : findField d path l.settings e.1 with
    | error stop =>
      rw [hfield] at h
      cases h
    | ok s =>
      obtain ⟨f, hf, hkey, rfl⟩ := findField_eq_ok_iff.mp hfield
      simp only [hfield] at h
      split at h
      · cases h
      · rename_i hnew
        obtain ⟨v, hfile, heq⟩ := map_eq_ok_iff.mp h
        obtain ⟨rfl, rfl⟩ := Prod.mk.inj heq
        exact ⟨f, hf, hkey, hnew, rfl, f.file_iff.mp hfile⟩
  · rintro ⟨f, hf, hkey, hnew, rfl, hfile⟩
    simp only [findField_eq_ok_iff.mpr ⟨f, hf, hkey, rfl⟩, if_neg hnew, f.file_iff.mpr hfile]
    rfl

/-- An entry writes its field, and the rest does not name it again. -/
theorem filled_cons_iff (hf : f ∈ l.fields) (hkey : keyText? d e.1 = some f.setting.name)
    (hnew : ∀ e' ∈ es, keyText? d e'.1 ≠ some f.setting.name) :
    l.Filled d (e :: es) r r' ↔ ∃ v, f.Reads d e.2 v ∧ l.Filled d es (f.put r v) r' := by
  have hrest := valuesOf_eq_nil hnew
  -- the other fields have the same values with the entry and without, and the same start
  have hother : ∀ g ∈ l.fields, g.setting.name ≠ f.setting.name → ∀ v,
      valuesOf d g.setting.name (e :: es) = valuesOf d g.setting.name es ∧
        g.get (f.put r v) = g.get r := fun g hg hne v =>
    ⟨valuesOf_cons_of_ne fun h => hne (Option.some.inj (h.symm.trans hkey)),
      get_put_of_ne hg hf hne r v⟩
  constructor
  · intro h
    have hread : f.Reads d e.2 (f.get r') := by
      have hfield := h f hf
      rwa [valuesOf_cons_of_eq hkey, hrest, given_singleton] at hfield
    refine ⟨f.get r', hread, fun g hg => ?_⟩
    by_cases hname : g.setting.name = f.setting.name
    · obtain rfl := eq_of_name_eq hg hf hname
      rw [hrest, given_nil, g.get_put]
    · obtain ⟨hvalues, hstart⟩ := hother g hg hname (f.get r')
      rw [hstart, ← hvalues]
      exact h g hg
  · rintro ⟨v, hread, h⟩ g hg
    by_cases hname : g.setting.name = f.setting.name
    · obtain rfl := eq_of_name_eq hg hf hname
      have hkept := h g hg
      rw [hrest, given_nil, g.get_put] at hkept
      rwa [valuesOf_cons_of_eq hkey, hrest, given_singleton, hkept]
    · obtain ⟨hvalues, hstart⟩ := hother g hg hname v
      rw [hvalues, ← hstart]
      exact h g hg

/-! ### The whole record -/

theorem filled_nil : l.Filled d [] r r' ↔ r' = r :=
  ⟨fun h => l.ext fun _ hf => (h _ hf).kept rfl, fun h _ _ => h ▸ given_nil.mpr rfl⟩

/-- Entries are filed if they are strict, name none of the fields that came before, and their
values have a meaning. -/
theorem fileAll_eq_ok_iff : fileAll d path l.settings seen entries r = .ok r' ↔
    Strict d l.names entries ∧ (∀ e ∈ entries, ∀ name ∈ seen, keyText? d e.1 ≠ some name) ∧
      l.Filled d entries r r' := by
  induction entries generalizing seen r with
  | nil =>
    rw [fileAll, filled_nil, Except.ok.injEq, eq_comm]
    exact ⟨fun h => ⟨strict_nil, fun _ he => absurd he List.not_mem_nil, h⟩, fun h => h.2.2⟩
  | cons e es ih =>
    rw [fileAll, strict_cons_iff]
    constructor
    · intro h
      cases hentry : fileEntry d path l.settings seen e r with
      | error stop =>
        rw [hentry] at h
        cases h
      | ok filed =>
        obtain ⟨f, hf, hkey, hseen, heq, v, hread, hput⟩ := fileEntry_eq_ok_iff.mp hentry
        simp only [hentry, heq, hput] at h
        obtain ⟨hstrict, hnew, hfilled⟩ := ih.mp h
        have hnew' : ∀ e' ∈ es, keyText? d e'.1 ≠ some f.setting.name := fun e' he' =>
          hnew e' he' _ List.mem_cons_self
        refine ⟨⟨⟨_, List.mem_map_of_mem hf, hkey, hnew'⟩, hstrict⟩, ?_,
          (filled_cons_iff hf hkey hnew').mpr ⟨v, hread, hfilled⟩⟩
        refine List.forall_mem_cons.mpr ⟨fun name hname hsame => ?_, fun e' he' name hname =>
          hnew e' he' name (List.mem_cons_of_mem _ hname)⟩
        exact hseen (Option.some.inj (hkey.symm.trans hsame) ▸ hname)
    · rintro ⟨⟨⟨name, hname, hkey, hnew⟩, hstrict⟩, hseen, hfilled⟩
      obtain ⟨f, hf, rfl⟩ := List.mem_map.mp hname
      obtain ⟨hfirst, hrest⟩ := List.forall_mem_cons.mp hseen
      obtain ⟨v, hread, hfilled⟩ := (filled_cons_iff hf hkey hnew).mp hfilled
      have hentry : fileEntry d path l.settings seen e r =
          .ok (f.setting.name :: seen, f.put r v) := fileEntry_eq_ok_iff.mpr
        ⟨f, hf, hkey, fun hmem => hfirst _ hmem hkey, rfl, v, hread, rfl⟩
      simp only [hentry]
      refine ih.mpr ⟨hstrict, fun e' he' => List.forall_mem_cons.mpr ⟨hnew e' he', hrest e' he'⟩,
        hfilled⟩

theorem located_eq_ok_iff {mark : Mark} {x : Except Stop α} :
    located mark path x = .ok a ↔ x = .ok a := by
  cases x with
  | error stop => exact ⟨fun h => (by cases h), fun h => (by cases h)⟩
  | ok b => exact Iff.rfl

theorem bind_eq_ok_iff {ε β : Type} {x : Except ε α} {g : α → Except ε β} {b : β} :
    x.bind g = .ok b ↔ ∃ v, x = .ok v ∧ g v = .ok b := by
  cases x with
  | error e => exact ⟨fun h => (by cases h), fun ⟨_, h, _⟩ => (by cases h)⟩
  | ok v => exact ⟨fun h => ⟨v, rfl, h⟩, fun ⟨_, h, hb⟩ => by cases h; exact hb⟩

theorem reads_of_mapping {mark : Mark} (h : d.resolve n = .mapping mark entries) :
    l.Reads start d n r ↔ Strict d l.names entries ∧ l.Filled d entries start r := by
  rw [Reads, entriesOf, h, and_iff_right (.inl ⟨mark, entries, h⟩)]

theorem reads_of_no_mapping (h : ∀ mark entries, d.resolve n ≠ .mapping mark entries) :
    l.Reads start d n r ↔ isEmpty (d.resolve n) = true ∧ r = start := by
  have hentries : entriesOf d n = [] := by
    rw [entriesOf]
    split
    · exact absurd ‹_› (h _ _)
    · rfl
  rw [Reads, hentries, filled_nil, and_iff_right strict_nil]
  exact and_congr_left fun _ => or_iff_right fun ⟨mark, entries, hmap⟩ => h mark entries hmap

/-- **A record is decoded from a mapping or from nothing**, if its keys are strict, and each of its
fields is as given. -/
theorem record_eq_ok_iff {finish : ρ → Except Stop α} {expected : String} :
    record l.settings start finish expected d path n = .ok a ↔
      ∃ r, l.Reads start d n r ∧ finish r = .ok a := by
  rw [record]
  split
  · rename_i mark entries hmap
    rw [located_eq_ok_iff, bind_eq_ok_iff]
    refine exists_congr fun r => and_congr_left fun _ => ?_
    rw [fileAll_eq_ok_iff, reads_of_mapping hmap]
    exact and_congr_right fun _ => and_iff_right fun _ _ _ h => absurd h List.not_mem_nil
  · rename_i hmap
    simp only [reads_of_no_mapping fun mark entries => hmap mark entries]
    split
    · rename_i hempty
      simp [located_eq_ok_iff, hempty]
    · rename_i hempty
      refine ⟨fun h => (by cases h), fun ⟨_, ⟨h, _⟩, _⟩ => absurd h hempty⟩

theorem exact_record (l : Layout ρ) (start : ρ) (expected : String) :
    Exact (record l.settings start .ok expected) (l.Reads start) := by
  intro d path n r
  rw [record_eq_ok_iff]
  exact ⟨fun ⟨r', h, heq⟩ => Except.ok.inj heq ▸ h, fun h => ⟨r, h, rfl⟩⟩

/-- A section is as given if each of its fields is, whether the section is written or not. -/
theorem given_section {r : ρ} (houter : (valuesOf d name (entriesOf d n)).length ≤ 1)
    (hinner : ∀ m ∈ valuesOf d name (entriesOf d n),
      IsMapping d m ∧ Strict d l.names (entriesOf d m)) :
    Given (l.Reads start d) start (valuesOf d name (entriesOf d n)) r ↔
      ∀ f ∈ l.fields, Given (f.Reads d) (f.get start) (valuesAt d [name, f.setting.name] n)
        (f.get r) := by
  match hvalues : valuesOf d name (entriesOf d n) with
  | [] =>
    simp only [given_nil, valuesAt_of_nil hvalues]
    exact ⟨fun h _ _ => h ▸ rfl, fun h => l.ext h⟩
  | [m] =>
    obtain ⟨hmap, hstrict⟩ := hinner m (hvalues ▸ List.mem_singleton.mpr rfl)
    simp only [given_singleton, valuesAt_of_singleton hvalues, valuesAt_single]
    rw [Reads, and_iff_right (.inl hmap), and_iff_right hstrict, Filled]
  | _ :: _ :: _ => simp [hvalues] at houter

end Layout

/-! ## Values -/

/-- A node is a scalar. All scalars are texts. -/
def IsText (d : Document) (n : Node) (s : String) : Prop :=
  ∃ mark tag style, d.resolve n = .scalar mark tag style s

/-- A node is a scalar that is plain, or a literal block under its tag, and its text means
something. -/
def IsLiteral (tag : String) (read : String → Option α) (d : Document) (n : Node) (v : α) : Prop :=
  ∃ mark t style text, d.resolve n = .scalar mark t style text ∧
    (style = .plain ∨ style = .literal ∧ t = some (standardTag tag)) ∧ read text = some v

def IsFlag : Document → Node → Bool → Prop := IsLiteral "bool" boolean?

/-- A node is a number of 64 bits. -/
def IsNumber (d : Document) (n : Node) (v : Nat) : Prop :=
  IsLiteral "int" (fun s => unsigned? s.toList) d n v ∧ v < Width.of64

/-- A node is a signed number of 32 bits. -/
def IsExitCode (d : Document) (n : Node) (v : Int) : Prop :=
  IsLiteral "int" (fun s => integer? s.toList) d n v ∧
    -(Width.of31 : Int) ≤ v ∧ v < Width.of31

/-- A node is a sequence of such items. Nothing is a sequence of none. -/
def IsListOf (R : Document → Node → α → Prop) (d : Document) (n : Node) (vs : List α) : Prop :=
  (∃ mark items, d.resolve n = .sequence mark items ∧ List.Forall₂ (R d) items vs) ∨
    isEmpty (d.resolve n) = true ∧ vs = []

/-- Nothing is written, or a null. -/
inductive IsNull : Node → Prop
  | void : IsNull .void
  | plain {mark : Mark} {text : String} (h : text = "" ∨ isNull text = true) :
      IsNull (.scalar mark none .plain text)
  | tagged {mark : Mark} {text : String} (h : isNull text = true) :
      IsNull (.scalar mark (some (standardTag "null")) .plain text)

/-- Something is written, and it does not claim to be a null. -/
inductive NonNull : Node → Prop
  | sequence {mark : Mark} {items : List Node} : NonNull (.sequence mark items)
  | mapping {mark : Mark} {entries : List (Node × Node)} : NonNull (.mapping mark entries)
  | styled {mark : Mark} {tag : Option String} {style : Style} {text : String}
      (h : style ≠ .plain) : NonNull (.scalar mark tag style text)
  | plain {mark : Mark} {text : String} (hempty : text ≠ "") (hnull : isNull text = false) :
      NonNull (.scalar mark none .plain text)
  | tagged {mark : Mark} {tag text : String} (h : tag ≠ standardTag "null") :
      NonNull (.scalar mark (some tag) .plain text)

/-- A node is a null, or a value of a kind. -/
def IsNullOr (R : Document → Node → α → Prop) (d : Document) (n : Node) (v : Option α) : Prop :=
  IsNull (d.resolve n) ∧ v = none ∨ NonNull (d.resolve n) ∧ ∃ w, R d n w ∧ v = some w

theorem exact_text : Exact text IsText := by
  intro d path n s
  rw [text, IsText]
  split
  · rename_i mark tag style s' hscalar
    simp [hscalar]
  · rename_i hscalar
    exact ⟨fun h => (by cases h), fun ⟨_, _, _, h⟩ => absurd h (hscalar _ _ _ _)⟩

theorem exact_literal (tag expected : String) (read : String → Option α) :
    Exact (literal tag expected read) (IsLiteral tag read) := by
  intro d path n v
  rw [literal, IsLiteral]
  split
  · rename_i mark t style s hscalar
    have hplain : (style == .plain || style == .literal && t == some (standardTag tag)) = true ↔
        (style = .plain ∨ style = .literal ∧ t = some (standardTag tag)) := by simp
    dsimp only
    constructor
    · intro h
      split at h
      · rename_i w hread
        split at hread
        · rename_i hstyle
          exact ⟨mark, t, style, s, hscalar, hplain.mp hstyle, Except.ok.inj h ▸ hread⟩
        · cases hread
      · cases h
    · rintro ⟨mark', t', style', s', hscalar', hstyle, hread⟩
      obtain ⟨rfl, rfl, rfl, rfl⟩ := Node.scalar.inj (hscalar.symm.trans hscalar')
      simp only [hplain.mpr hstyle, if_true, hread]
  · rename_i hscalar
    exact ⟨fun h => (by cases h), fun ⟨_, _, _, _, h, _⟩ => absurd h (hscalar _ _ _ _)⟩

/-- A narrower reading is the wider one with a bound. -/
theorem isLiteral_filter {tag : String} {read : String → Option α} {p : α → Bool} :
    IsLiteral tag (fun s => (read s).filter p) d n v ↔ IsLiteral tag read d n v ∧ p v = true := by
  simp only [IsLiteral, Option.filter_eq_some_iff]
  constructor
  · rintro ⟨mark, t, style, s, hscalar, hstyle, hread, hp⟩
    exact ⟨⟨mark, t, style, s, hscalar, hstyle, hread⟩, hp⟩
  · rintro ⟨⟨mark, t, style, s, hscalar, hstyle, hread⟩, hp⟩
    exact ⟨mark, t, style, s, hscalar, hstyle, hread, hp⟩

theorem exact_flag : Exact flag IsFlag := exact_literal _ _ _

theorem exact_number (expected : String) : Exact (number expected) IsNumber := by
  intro d path n v
  rw [number, exact_literal, isLiteral_filter, IsNumber, decide_eq_true_iff]

theorem exact_exitCode : Exact exitCode IsExitCode := by
  intro d path n v
  -- a number of 32 bits is one of 64 bits
  have hwide (hbounds : -(Width.of31 : Int) ≤ v ∧ v < Width.of31) :
      (decide (-(Width.of63 : Int) ≤ v) && decide (v < Width.of63)) = true := by
    simp only [Width.of31, Width.of63, Bool.and_eq_true, decide_eq_true_iff] at hbounds ⊢
    omega
  have hsigned := exact_literal "int" "i32" (fun s => signed? s.toList) d path n
  rw [exitCode, IsExitCode]
  cases hread : literal "int" "i32" (fun s => signed? s.toList) d path n with
  | error e =>
    refine ⟨fun h => (by cases h), fun ⟨hliteral, hbounds⟩ => ?_⟩
    have hok := (hsigned v).mpr (isLiteral_filter.mpr ⟨hliteral, hwide hbounds⟩)
    cases hread.symm.trans hok
  | ok w =>
    have hliteral := isLiteral_filter.mp ((hsigned w).mp hread)
    constructor
    · intro h
      simp only at h
      split at h
      · rename_i hbounds
        obtain rfl := Except.ok.inj h
        exact ⟨hliteral.1, hbounds⟩
      · cases h
    · rintro ⟨hv, hbounds⟩
      have hok := (hsigned v).mpr (isLiteral_filter.mpr ⟨hv, hwide hbounds⟩)
      obtain rfl := Except.ok.inj (hread.symm.trans hok)
      exact if_pos hbounds

theorem itemsFrom_eq_ok_iff {item : Decoder α} {R : Document → Node → α → Prop}
    (exact : Exact item R) {index : Nat} {ns : List Node} {vs : List α} :
    itemsFrom item d path index ns = .ok vs ↔ List.Forall₂ (R d) ns vs := by
  induction ns generalizing index vs with
  | nil => rw [itemsFrom, List.forall₂_nil_left_iff, Except.ok.injEq, eq_comm]
  | cons n ns ih =>
    rw [itemsFrom, List.forall₂_cons_left_iff]
    cases hitem : item d (path ++ [.item index]) n with
    | error e =>
      refine ⟨fun h => (by cases h), fun ⟨v, _, hv, _, _⟩ => ?_⟩
      cases hitem.symm.trans ((exact _ _ _ _).mpr hv)
    | ok a =>
      simp only [map_eq_ok_iff, ih]
      constructor
      · rintro ⟨as, has, rfl⟩
        exact ⟨a, as, (exact _ _ _ _).mp hitem, has, rfl⟩
      · rintro ⟨b, as, hb, has, rfl⟩
        obtain rfl := Except.ok.inj (hitem.symm.trans ((exact _ _ _ _).mpr hb))
        exact ⟨as, has, rfl⟩

theorem exact_list {item : Decoder α} {R : Document → Node → α → Prop} (exact : Exact item R) :
    Exact (list item) (IsListOf R) := by
  intro d path n vs
  rw [list, IsListOf]
  split
  · rename_i mark items hitems
    simp [hitems, itemsFrom_eq_ok_iff exact, isEmpty]
  · rename_i hitems
    rw [or_iff_right fun ⟨mark, items, h, _⟩ => hitems mark items h]
    split
    · rename_i hempty
      simp [hempty, eq_comm]
    · rename_i hempty
      simp [hempty]

theorem isAbsent_eq_true_iff : isAbsent n = .ok true ↔ IsNull n := by
  constructor
  · intro h
    match n with
    | .void => exact .void
    | .scalar mark none .plain s => exact .plain (by simpa [isAbsent] using h)
    | .scalar mark (some tag) .plain s =>
      have h : tag = standardTag "null" ∧ isNull s = true := by
        simp only [isAbsent] at h
        grind
      exact h.1 ▸ .tagged h.2
    | .scalar _ _ .singleQuoted _ | .scalar _ _ .doubleQuoted _ | .scalar _ _ .literal _
    | .scalar _ _ .folded _ => cases h
    | .sequence _ _ | .mapping _ _ | .shared _ | .cut => cases h
  · intro h
    cases h with
    | void => rfl
    | plain h => simpa [isAbsent] using h
    | tagged h => simp [isAbsent, h]

theorem isAbsent_eq_false_iff : isAbsent n = .ok false ↔ NonNull n := by
  constructor
  · intro h
    match n with
    | .sequence _ _ => exact .sequence
    | .mapping _ _ => exact .mapping
    | .scalar mark none .plain s =>
      obtain ⟨hempty, hnull⟩ : s ≠ "" ∧ isNull s = false := by simpa [isAbsent] using h
      exact .plain hempty hnull
    | .scalar mark (some tag) .plain s =>
      refine .tagged fun heq => ?_
      subst heq
      simp only [isAbsent] at h
      grind
    | .scalar _ _ .singleQuoted _ | .scalar _ _ .doubleQuoted _ | .scalar _ _ .literal _
    | .scalar _ _ .folded _ => exact .styled (by decide)
    | .void | .shared _ | .cut => cases h
  · intro h
    cases h with
    | sequence => rfl
    | mapping => rfl
    | styled h => simp [isAbsent, h]
    | plain hempty hnull => simp [isAbsent, hempty, hnull]
    | tagged h => simp [isAbsent, h]

theorem IsNull.not_nonNull (h : IsNull n) : ¬ NonNull n := by
  intro hnon
  cases (isAbsent_eq_true_iff.mpr h).symm.trans (isAbsent_eq_false_iff.mpr hnon)

theorem isNullOr_congr {R S : Document → Node → α → Prop}
    (h : NonNull (d.resolve n) → ∀ w, R d n w ↔ S d n w) (v : Option α) :
    IsNullOr R d n v ↔ IsNullOr S d n v :=
  or_congr_right <| and_congr_right fun hnon => exists_congr fun w =>
    and_congr_left fun _ => h hnon w

theorem exact_optional {value : Decoder α} {R : Document → Node → α → Prop}
    (exact : Exact value R) : Exact (optional value) (IsNullOr R) := by
  intro d path n v
  rw [optional, IsNullOr, ← isAbsent_eq_true_iff, ← isAbsent_eq_false_iff]
  cases isAbsent (d.resolve n) with
  | error e => simp
  | ok absent =>
    cases absent with
    | true => simp [eq_comm]
    | false => simp [map_eq_ok_iff, exact d path n]

end PolicyGate.Schema
