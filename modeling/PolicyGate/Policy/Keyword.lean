/-!
# Section keywords

A policy document is made of nine kinds of section in one canonical order. Two of them may be left
out. Main statement: **a keyword is read back from its name** (`parse?_name`).
-/

namespace PolicyGate.Policy

/-- The kinds of section, in canonical order. -/
inductive Keyword where
  | intent
  | actor
  | context
  | assumption
  | rule
  | constraint
  | impact
  | trace
  | review
  deriving DecidableEq, Repr

namespace Keyword

/-- All keywords in canonical order. -/
def canonical : List Keyword :=
  [.intent, .actor, .context, .assumption, .rule, .constraint, .impact, .trace, .review]

/-- The name under which a keyword is reported. -/
def name : Keyword → String
  | .intent => "INTENT"
  | .actor => "ACTOR"
  | .context => "CONTEXT"
  | .assumption => "ASSUMPTION"
  | .rule => "RULE"
  | .constraint => "CONSTRAINT"
  | .impact => "IMPACT"
  | .trace => "TRACE"
  | .review => "REVIEW"

/-- The place of a keyword in the canonical order, from zero. -/
def index : Keyword → Nat
  | .intent => 0
  | .actor => 1
  | .context => 2
  | .assumption => 3
  | .rule => 4
  | .constraint => 5
  | .impact => 6
  | .trace => 7
  | .review => 8

/-- Only assumptions and reviews may be left out. -/
def isMandatory : Keyword → Bool
  | .assumption | .review => false
  | _ => true

/-- The keyword of an upper-case name. -/
def parse? (upper : String) : Option Keyword := canonical.find? fun k => k.name == upper

/-- All names, as they are listed to the author of a document. -/
def canonicalList : String := ", ".intercalate (canonical.map name)

theorem mem_canonical (k : Keyword) : k ∈ canonical := by cases k <;> decide

theorem parse?_name (k : Keyword) : parse? k.name = some k := by cases k <;> decide +kernel

theorem name_of_parse? {upper : String} {k : Keyword} (h : parse? upper = some k) :
    k.name = upper := by
  simpa using List.find?_some h

theorem index_injective {j k : Keyword} (h : j.index = k.index) : j = k := by
  cases j <;> cases k <;> first | rfl | cases h

end Keyword

end PolicyGate.Policy
