import PolicyGate.Observe.Label

/-!
# Counters

One 64-bit counter per set of labels, which wraps around. A set of labels exists from the first
addition to it, even one of nothing.
-/

namespace PolicyGate

/-- Counters by their sorted labels. -/
structure Counters where
  rows : List (List Label × UInt64)
  deriving DecidableEq, Repr

namespace Counters

def empty : Counters := ⟨[]⟩

/-- Adds to the row of a key, which is made if there is none. -/
def addTo (key : List Label) (amount : UInt64) :
    List (List Label × UInt64) → List (List Label × UInt64)
  | [] => [(key, amount)]
  | (k, n) :: rest => if k = key then (k, n + amount) :: rest else (k, n) :: addTo key amount rest

def add (c : Counters) (labels : List Label) (amount : UInt64) : Counters :=
  ⟨addTo (Label.sort labels) amount c.rows⟩

def increment (c : Counters) (labels : List Label) : Counters := c.add labels 1

/-- The count under some labels, in any order. -/
def get (c : Counters) (labels : List Label) : UInt64 :=
  (c.rows.lookup (Label.sort labels)).getD 0

/-- The order of rows: by their label text, then by their count. -/
def rowLe (a b : String × UInt64) : Bool := a.1 < b.1 || (a.1 == b.1 && a.2 ≤ b.2)

/-- The lines of a family of counters, in the order of their label texts. -/
def render (c : Counters) (name help : String) : List String :=
  let rows := (c.rows.map fun r => (Label.renderAll r.1, r.2)).mergeSort rowLe
  ["# HELP " ++ name ++ " " ++ help, "# TYPE " ++ name ++ " counter"] ++
    rows.map fun r => name ++ "\x7b" ++ r.1 ++ "\x7d " ++ toString r.2.toNat

end Counters

end PolicyGate
