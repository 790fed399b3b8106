import PolicyGate.Observe.Label
import PolicyGate.Width

/-!
# Duration histograms

One histogram per set of labels. A duration counts in whole microseconds, and a bucket holds the
number of durations up to its bound, the bound included.
-/

namespace PolicyGate

/-- A histogram: its bucket counts in the order of the bounds, the sum and the count. -/
structure Histogram where
  buckets : List UInt64
  sum : UInt64
  count : UInt64
  deriving DecidableEq, Repr

namespace Histogram

/-- The bucket bounds in microseconds, from a millisecond to ten seconds. -/
def bounds : List Nat :=
  [1000, 5000, 10000, 50000, 100000, 500000, 1000000, 5000000, 10000000]

def empty : Histogram := ⟨bounds.map fun _ => 0, 0, 0⟩

/-- Whole microseconds, up to the largest 64-bit number. -/
def micros (nanoseconds : Nat) : Nat := min (nanoseconds / 1000) (Width.of64 - 1)

/-- Files one duration. -/
def observe (h : Histogram) (nanoseconds : Nat) : Histogram :=
  let m := micros nanoseconds
  { buckets := (bounds.zip h.buckets).map fun b => if m ≤ b.1 then b.2 + 1 else b.2
    sum := h.sum + m.toUInt64
    count := h.count + 1 }

end Histogram

/-- Histograms by their sorted labels. -/
structure Histograms where
  series : List (List Label × Histogram)
  deriving DecidableEq, Repr

namespace Histograms

def empty : Histograms := ⟨[]⟩

/-- Files a duration under a key, which is made if there is none. -/
def observeAt (key : List Label) (nanoseconds : Nat) :
    List (List Label × Histogram) → List (List Label × Histogram)
  | [] => [(key, Histogram.empty.observe nanoseconds)]
  | (k, h) :: rest =>
    if k = key then (k, h.observe nanoseconds) :: rest
    else (k, h) :: observeAt key nanoseconds rest

def observe (s : Histograms) (labels : List Label) (nanoseconds : Nat) : Histograms :=
  ⟨observeAt (Label.sort labels) nanoseconds s.series⟩

/-- The last line of a series. -/
def countLine (name : String) (row : List Label × Histogram) : String :=
  name ++ "_count\x7b" ++ Label.renderAll row.1 ++ "\x7d " ++ toString row.2.count.toNat

/-- The twelve lines of a series. -/
def renderSeries (name : String) (row : List Label × Histogram) : List String :=
  let labels := Label.renderAll row.1
  let lead := if labels.isEmpty then "" else labels ++ ","
  let bucket (bound : String) (count : UInt64) : String :=
    name ++ "_bucket\x7b" ++ lead ++ "le=\"" ++ bound ++ "\"\x7d " ++ toString count.toNat
  (Histogram.bounds.zip row.2.buckets).map (fun b => bucket (toString b.1) b.2) ++
    [bucket "+Inf" row.2.count,
      name ++ "_sum\x7b" ++ labels ++ "\x7d " ++ toString row.2.sum.toNat,
      countLine name row]

/-- The lines of a family of histograms, the series in the order of their last lines. -/
def render (s : Histograms) (name help : String) : List String :=
  let rows := s.series.mergeSort fun a b => !(countLine name b < countLine name a)
  ["# HELP " ++ name ++ " " ++ help, "# TYPE " ++ name ++ " histogram"] ++
    rows.flatMap (renderSeries name)

end Histograms

end PolicyGate
