/-!
# The lines in which two texts differ

The lines that have to be taken out of one text and put into the other are found with the least effort:
from both ends, the farthest places that a number of edits can lead to are followed until they meet.
Runs of edits are then put as far back as lines that are alike allow.

* `Change` — lines of the one text that stand for lines of the other.
* `changes` — what turns the one text into the other.
-/

namespace PolicyGate

namespace Host.Edits

/-- Lines of the one text that stand for lines of the other: where they start and end. -/
structure Change where
  left : Nat
  leftEnd : Nat
  right : Nat
  rightEnd : Nat
  deriving DecidableEq, Repr

/-- The parts of two texts that are compared. -/
structure Box where
  left : Nat
  leftEnd : Nat
  right : Nat
  rightEnd : Nat

/-- The number of lines that are alike from two places on. -/
def alikeFrom (same : Nat → Nat → Bool) : Nat → Nat → Nat → Nat
  | 0, _, _ => 0
  | fuel + 1, x, y => if same x y then alikeFrom same fuel (x + 1) (y + 1) + 1 else 0

/-- The number of lines that are alike in front of two places. -/
def alikeBefore (same : Nat → Nat → Bool) : Nat → Nat → Nat → Nat
  | 0, _, _ => 0
  | fuel + 1, x, y => if same (x - 1) (y - 1) then alikeBefore same fuel (x - 1) (y - 1) + 1 else 0

/-! ## Where the ways from both ends meet -/

/-- The farthest places on the diagonals that a number of edits leads to. -/
structure Front where
  places : Array Int
  low : Int
  high : Int

/-- The diagonals of a front, the highest first. -/
def Front.diagonals (f : Front) : List Int :=
  (List.range (((f.high - f.low) / 2 + 1).toNat)).map fun (i : Nat) => f.high - 2 * (i : Int)

namespace Box

variable (b : Box)

def lowest : Int := (b.left : Int) - b.rightEnd
def highest : Int := (b.leftEnd : Int) - b.right

/-- The place in an array where a diagonal is kept. -/
def slot (d : Int) : Nat := (d - b.lowest + 1).toNat

def start (place : Nat) (d : Int) : Front :=
  ⟨(Array.replicate (b.highest - b.lowest + 3).toNat 0).setIfInBounds (b.slot d) place, d, d⟩

/-- The diagonals that one more edit leads to. The next ones outside hold `outside`. -/
def widen (f : Front) (outside : Int) : Front :=
  let (low, places) :=
    if b.lowest < f.low then (f.low - 1, f.places.setIfInBounds (b.slot (f.low - 2)) outside)
    else (f.low + 1, f.places)
  let (high, places) :=
    if f.high < b.highest then (f.high + 1, places.setIfInBounds (b.slot (f.high + 2)) outside)
    else (f.high - 1, places)
  ⟨places, low, high⟩

def get (f : Front) (d : Int) : Int := f.places.getD (b.slot d) 0

/-- Goes one edit farther from the beginning. -/
def forward (same : Nat → Nat → Bool) (odd : Bool) (front back : Front) : Front × Option (Nat × Nat) :=
  front.diagonals.foldl (fun ((f, found) : Front × Option (Nat × Nat)) d =>
    if found.isSome then (f, found)
    else
      let (below, above) := (b.get f (d - 1), b.get f (d + 1))
      let x := (if below < above then above else below + 1).toNat
      let y := ((x : Int) - d).toNat
      let n := alikeFrom same (min (b.leftEnd - x) (b.rightEnd - y)) x y
      let x := x + n
      let f := { f with places := f.places.setIfInBounds (b.slot d) x }
      let meets := odd && back.low ≤ d && d ≤ back.high && b.get back d ≤ x
      (f, if meets then some (x, y + n) else none)) (front, none)

/-- Goes one edit farther from the end. -/
def backward (same : Nat → Nat → Bool) (odd : Bool) (front back : Front) : Front × Option (Nat × Nat) :=
  back.diagonals.foldl (fun ((f, found) : Front × Option (Nat × Nat)) d =>
    if found.isSome then (f, found)
    else
      let (below, above) := (b.get f (d - 1), b.get f (d + 1))
      let x := (if below < above then below else above - 1).toNat
      let y := ((x : Int) - d).toNat
      let n := alikeBefore same (min (x - b.left) (y - b.right)) x y
      let x := x - n
      let f := { f with places := f.places.setIfInBounds (b.slot d) x }
      let meets := !odd && front.low ≤ d && d ≤ front.high && (x : Int) ≤ b.get front d
      (f, if meets then some (x, y - n) else none)) (back, none)

def meetFrom (same : Nat → Nat → Bool) (odd : Bool) : Nat → Front → Front → Nat × Nat
  | 0, _, _ => (b.left, b.right)
  | fuel + 1, front, back =>
    match b.forward same odd (b.widen front (-1)) back with
    | (_, some p) => p
    | (front, none) =>
      match b.backward same odd front (b.widen back (b.leftEnd + b.rightEnd + 1 : Nat)) with
      | (_, some p) => p
      | (back, none) => meetFrom same odd fuel front back

/-- A place that some way with the fewest edits passes. -/
def meet (same : Nat → Nat → Bool) : Nat × Nat :=
  let first : Int := (b.left : Int) - b.right
  let last : Int := (b.leftEnd : Int) - b.rightEnd
  b.meetFrom same ((first - last) % 2 != 0) (b.leftEnd + b.rightEnd + 2) (b.start b.left first)
    (b.start b.leftEnd last)

end Box

/-! ## The lines that are edited -/

/-- The lines of both texts that are edited. -/
structure Marks where
  left : Array Bool
  right : Array Bool

namespace Marks

def markLeft (m : Marks) (i : Nat) : Marks := { m with left := m.left.setIfInBounds i true }
def markRight (m : Marks) (i : Nat) : Marks := { m with right := m.right.setIfInBounds i true }

/-- Marks the lines of a box that are edited. -/
def box (same : Nat → Nat → Bool) : Nat → Box → Marks → Marks
  | 0, _, m => m
  | fuel + 1, b, m =>
    let n := alikeFrom same (min (b.leftEnd - b.left) (b.rightEnd - b.right)) b.left b.right
    let b := { b with left := b.left + n, right := b.right + n }
    let n := alikeBefore same (min (b.leftEnd - b.left) (b.rightEnd - b.right)) b.leftEnd b.rightEnd
    let b := { b with leftEnd := b.leftEnd - n, rightEnd := b.rightEnd - n }
    if b.left = b.leftEnd then
      (List.range (b.rightEnd - b.right)).foldl (fun m i => m.markRight (b.right + i)) m
    else if b.right = b.rightEnd then
      (List.range (b.leftEnd - b.left)).foldl (fun m i => m.markLeft (b.left + i)) m
    else
      let (x, y) := b.meet same
      let m := box same fuel { b with leftEnd := x, rightEnd := y } m
      box same fuel { b with left := x, right := y } m

end Marks

/-! ## Where runs of edits lie -/

/-- One text's edits while runs are moved, with the other's. The places count from one, so that there
is one in front of the first line. -/
structure Shift where
  mine : Array Bool
  theirs : Array Bool
  start : Nat := 0
  stop : Nat := 0
  /-- The place in the other text that goes with the end of the run. -/
  other : Nat := 0
  /-- The last end of the run that goes with a run of the other text. -/
  matching : Nat := 0

namespace Shift

def mineAt (s : Shift) (i : Nat) : Bool := i != 0 && s.mine.getD (i - 1) false
def theirsAt (s : Shift) (j : Nat) : Bool := j != 0 && s.theirs.getD (j - 1) false

def setMine (s : Shift) (i : Nat) (v : Bool) : Shift := { s with mine := s.mine.setIfInBounds (i - 1) v }

/-- The first place from `i` on, going down, that is not in a run. -/
def downTo (edited : Nat → Bool) : Nat → Nat
  | 0 => 0
  | i + 1 => if edited (i + 1) then downTo edited i else i + 1

/-- The first place from `i` on that is not in a run. -/
def upTo (edited : Nat → Bool) : Nat → Nat → Nat
  | 0, i => i
  | fuel + 1, i => if edited i then upTo edited fuel (i + 1) else i

/-- Moves the run back while the line in front of it is like its last. -/
def back (same : Nat → Nat → Bool) : Nat → Shift → Shift
  | 0, s => s
  | fuel + 1, s =>
    if 1 < s.start && same (s.start - 1) (s.stop - 1) then
      let s := { (s.setMine (s.start - 1) true) with start := s.start - 1 }
      let s := { (s.setMine (s.stop - 1) false) with stop := s.stop - 1 }
      back same fuel
        { s with
          start := downTo s.mineAt (s.start - 1) + 1
          other := downTo s.theirsAt (s.other - 1) }
    else s

/-- Moves the run on while its first line is like the one behind it. -/
def on (same : Nat → Nat → Bool) (last : Nat) : Nat → Shift → Shift
  | 0, s => s
  | fuel + 1, s =>
    if s.stop ≤ last && same s.start s.stop then
      let s := { (s.setMine s.start false) with start := s.start + 1 }
      let s := { (s.setMine s.stop true) with stop := s.stop + 1 }
      let s := { s with stop := upTo s.mineAt (last + 1) s.stop }
      let next := s.other + 1
      let other := upTo s.theirsAt (s.theirs.size + 1) next
      on same last fuel { s with other, matching := if next < other then s.stop else s.matching }
    else s

/-- Moves the run to and fro until it no longer grows. -/
def settle (same : Nat → Nat → Bool) (last : Nat) : Nat → Shift → Shift
  | 0, s => s
  | fuel + 1, s =>
    let size := s.stop - s.start
    let s := s.back same (last + 1)
    let s := { s with matching := if s.theirsAt (s.other - 1) then s.stop else last + 1 }
    let s := s.on same last (last + 1)
    if s.stop - s.start = size then s else settle same last fuel s

/-- Moves the run back to where it goes with a run of the other text. -/
def retreat : Nat → Shift → Shift
  | 0, s => s
  | fuel + 1, s =>
    if s.matching < s.stop then
      let s := { (s.setMine (s.start - 1) true) with start := s.start - 1 }
      let s := { (s.setMine (s.stop - 1) false) with stop := s.stop - 1 }
      retreat fuel { s with other := downTo s.theirsAt (s.other - 1) }
    else s

/-- Goes to the next run: the place behind its end and the place in the other text that goes with it. -/
def nextRun (last : Nat) : Nat → Shift → Nat → Option Shift
  | 0, _, _ => none
  | fuel + 1, s, i =>
    if last < i then none
    else if s.mineAt i then
      some
        { s with
          start := i, stop := upTo s.mineAt (last + 1) i
          other := upTo s.theirsAt (s.theirs.size + 1) s.other }
    else
      nextRun last fuel { s with other := upTo s.theirsAt (s.theirs.size + 1) s.other + 1 } (i + 1)

/-- Moves all runs, the first first. -/
def all (same : Nat → Nat → Bool) (last : Nat) : Nat → Shift → Nat → Shift
  | 0, s, _ => s
  | fuel + 1, s, i =>
    match s.nextRun last (last + 2) i with
    | none => s
    | some s =>
      let s := (s.settle same last (last + 1)).retreat (last + 1)
      all same last fuel s s.stop

end Shift

/-- Puts the runs of both texts where they belong, given when two lines of the same text are alike. -/
def Marks.shifted (m : Marks) (sameLeft sameRight : Nat → Nat → Bool) : Marks :=
  let of (same : Nat → Nat → Bool) (mine theirs : Array Bool) : Array Bool :=
    (Shift.all (fun i j => same (i - 1) (j - 1)) mine.size (mine.size + 1)
      { mine, theirs, other := 1 } 1).mine
  let left := of sameLeft m.left m.right
  { left, right := of sameRight m.right left }

/-! ## Changes -/

/-- The changes from two places on. -/
def changesFrom (m : Marks) : Nat → Nat → Nat → List Change
  | 0, _, _ => []
  | fuel + 1, x, y =>
    if m.left.size ≤ x && m.right.size ≤ y then []
    else if m.left.getD x false || m.right.getD y false then
      let x' := Shift.upTo (fun i => m.left.getD i false) (m.left.size + 1) x
      let y' := Shift.upTo (fun i => m.right.getD i false) (m.right.size + 1) y
      ⟨x, x', y, y'⟩ :: changesFrom m fuel x' y'
    else changesFrom m fuel (x + 1) (y + 1)

/-- What turns one text into another. A line that the other text does not have is edited in any case. -/
def changes {α : Type} [BEq α] [Inhabited α] (left right : List α) : List Change :=
  let (a, b) := (left.toArray, right.toArray)
  let kept (xs : List α) (other : List α) : Array Nat :=
    (xs.zipIdx.filterMap fun (x, i) => if other.contains x then some i else none).toArray
  let (ka, kb) := (kept left right, kept right left)
  let same (i j : Nat) : Bool :=
    match ka[i]?, kb[j]? with
    | some i, some j => a.getD i default == b.getD j default
    | _, _ => false
  let found := Marks.box same (ka.size + kb.size + 2) ⟨0, ka.size, 0, kb.size⟩
    ⟨Array.replicate ka.size false, Array.replicate kb.size false⟩
  let spread (size : Nat) (k : Array Nat) (edited : Array Bool) : Array Bool :=
    (List.range k.size).foldl (fun m i => m.setIfInBounds (k.getD i 0) (edited.getD i false))
      (Array.replicate size true)
  let marks : Marks := ⟨spread a.size ka found.left, spread b.size kb found.right⟩
  let within (xs : Array α) (i j : Nat) : Bool :=
    match xs[i]?, xs[j]? with
    | some x, some y => x == y
    | _, _ => false
  let m := marks.shifted (within a) (within b)
  changesFrom m (a.size + b.size + 2) 0 0

end Host.Edits

end PolicyGate
