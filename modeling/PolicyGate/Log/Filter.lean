import PolicyGate.Log.Directive
import PolicyGate.Log.Record

/-!
# Which records are shown

A filter is a list of directives with commas between. Of those that bear on a record the most
specific decides: the one with the longest target that begins the record's, then the one that asks
for most fields. The record is shown if its severity is within the level. A directive for a span, or
for a value of a field, does not bear on records outside of any span. A list with a directive that
cannot be read is no filter, and the standard one holds instead.
-/

namespace PolicyGate

namespace Log

/-- What a directive says of records. -/
structure Rule where
  /-- What the target of a record has to begin with. -/
  target : Option (List Char) := none
  /-- The fields that a record has to have. -/
  fields : List (List Char) := []
  level : Level
  deriving DecidableEq, Repr

namespace Rule

def ofDirective? (d : Directive) : Option Rule :=
  if d.span.isSome || d.fields.any (·.hasValue) then none
  else some ⟨d.target, d.fields.map (·.name), d.level⟩

/-- Whether a rule bears on a record. -/
def bearsOn (u : Rule) (r : Record) : Bool :=
  (u.target.all fun t => t.isPrefixOf r.target.toList) &&
    u.fields.all fun f => r.fieldNames.contains (String.ofList f)

/-- How specific the target of a rule is. -/
def reach (u : Rule) : Nat :=
  match u.target with
  | none => 0
  | some t => t.length + 1

/-- Whether a rule is less specific than another. Of two that are alike, the one whose fields come
first in the alphabet counts as less so. -/
def yieldsTo (a b : Rule) : Bool :=
  a.reach < b.reach ||
    (a.reach == b.reach &&
      (a.fields.length < b.fields.length ||
        (a.fields.length == b.fields.length && a.fields < b.fields)))

end Rule

abbrev Filter := List Rule

namespace Filter

/-- Shows what is not for debugging. -/
def standard : Filter := [{ level := Severity.info.rank }]

/-- Shows nothing. -/
def silent : Filter := [{ level := 0 }]

/-- Cuts a text at its commas. -/
def pieces (s : List Char) : List (List Char) := (s.splitOn ',').filter fun p => !p.isEmpty

/-- The filter of some directives. -/
def ofDirectives (ds : List Directive) : Filter :=
  if ds.isEmpty then silent else ds.filterMap Rule.ofDirective?

/-- Reads a filter. One without any directive shows nothing. -/
def parse (s : List Char) : Except Directive.Refusal Filter :=
  ((pieces s).mapM Directive.parse).map ofDirectives

/-- The filter that a variable sets. Nothing if it tears a character apart, which ends the
program. -/
def ofVariable? (raw : Option String) : Option Filter :=
  match raw with
  | none => some standard
  | some s =>
    match parse s.toList with
    | .ok f => some f
    | .error .malformed => some standard
    | .error .torn => none

/-- Prefers the later of two rules unless it yields to the earlier. -/
def closer (best : Option Rule) (u : Rule) : Option Rule :=
  match best with
  | none => some u
  | some b => if u.yieldsTo b then some b else some u

/-- The rule that decides about a record. -/
def decisive? (f : Filter) (r : Record) : Option Rule :=
  (f.filter fun u => u.bearsOn r).foldl closer none

/-- Whether a record is shown. -/
def shows (f : Filter) (r : Record) : Bool :=
  (f.decisive? r).any fun u => r.severity.rank ≤ u.level

end Filter

end Log

end PolicyGate
