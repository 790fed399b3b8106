import PolicyGate.Host.Raw

/-!
# Streams of bytes

A stream has some bytes and then ends, or goes on with a pattern that never ends. A *feed* is a
stream that comes in the course of time, which is counted in microseconds.
-/

namespace PolicyGate

namespace Host

structure Stream where
  bytes : List UInt8
  /-- What is repeated for ever after the bytes. Nothing if the stream ends. -/
  cycle : List UInt8 := []
  deriving DecidableEq, Repr

namespace Stream

def empty : Stream := ⟨[], []⟩

def isEndless (s : Stream) : Bool := !s.cycle.isEmpty

/-- The stream with at least `n` bytes written out, if it has them. -/
def unroll (s : Stream) (n : Nat) : List UInt8 :=
  if s.isEndless && s.bytes.length < n then
    s.bytes ++ (List.replicate ((n - s.bytes.length) / s.cycle.length + 1) s.cycle).flatten
  else s.bytes

/-- The first bytes. -/
def take (s : Stream) (n : Nat) : List UInt8 := (s.unroll n).take n

/-- What comes behind a stream that may end. -/
def append (s t : Stream) : Stream := if s.isEndless then s else ⟨s.bytes ++ t.bytes, t.cycle⟩

/-- Treats every byte alike. -/
def flatMap (f : UInt8 → List UInt8) (s : Stream) : Stream :=
  ⟨s.bytes.flatMap f, s.cycle.flatMap f⟩

end Stream

/-- Cuts bytes into lines, each with the byte that ends it. A last line may lack it. -/
def linesEndedBy (ending : UInt8) (bytes : List UInt8) : List (List UInt8) :=
  let step : List (List UInt8) × List UInt8 → UInt8 → List (List UInt8) × List UInt8 :=
    fun (done, line) b =>
      if b = ending then ((b :: line).reverse :: done, []) else (done, b :: line)
  let (done, line) := bytes.foldl step ([], [])
  (if line.isEmpty then done else line.reverse :: done).reverse

/-- Cuts bytes into lines, each with its newline. -/
def byteLines (bytes : List UInt8) : List (List UInt8) := linesEndedBy 0x0A bytes

/-- A moment, in microseconds from the start. -/
abbrev Moment := Nat

structure Feed where
  /-- The bytes with the moments at which they come, the earliest first. -/
  chunks : List (Moment × List UInt8) := []
  /-- What is repeated for ever after them. -/
  cycle : List UInt8 := []
  /-- When no more can come, if there is such a moment. -/
  ends : Option Moment := some 0
  deriving DecidableEq, Repr

namespace Feed

def ofStream (s : Stream) : Feed :=
  ⟨if s.bytes.isEmpty then [] else [(0, s.bytes)], s.cycle, some 0⟩

def toStream (f : Feed) : Stream := ⟨f.chunks.flatMap (·.2), f.cycle⟩

def isEndless (f : Feed) : Bool := !f.cycle.isEmpty

/-- When the last chunk has come. -/
def lastChunk (f : Feed) : Moment := (f.chunks.getLast?.map (·.1)).getD 0

/-- The moment at which everything has come that ever comes, if it ends. -/
def readyToEnd (f : Feed) : Option Moment := if f.isEndless then none else f.ends

/-- The moment at which `n` bytes have come, or the end. -/
def readyAt (f : Feed) (n : Nat) : Option Moment :=
  let step : Nat × Option Moment → Moment × List UInt8 → Nat × Option Moment :=
    fun (got, found) c =>
      let got := got + c.2.length
      (got, found.or (if n ≤ got then some c.1 else none))
  match n, (f.chunks.foldl step (0, none)).2 with
  | 0, _ => some 0
  | _, some t => some t
  | _, none => if f.isEndless then some f.lastChunk else f.ends

/-- Drops bytes from some chunks, and says how many were not there. -/
def dropFrom : Nat → List (Moment × List UInt8) → Nat × List (Moment × List UInt8)
  | n, [] => (n, [])
  | n, (t, bytes) :: rest =>
    if n < bytes.length then (0, (t, bytes.drop n) :: rest) else dropFrom (n - bytes.length) rest

/-- What is left behind `n` bytes. -/
def drop (f : Feed) (n : Nat) : Feed :=
  match dropFrom n f.chunks with
  | (0, chunks) => { f with chunks }
  | (n, _) =>
    if f.isEndless then
      let bytes := f.cycle.drop (n % f.cycle.length)
      { f with chunks := if bytes.isEmpty then [] else [(f.lastChunk, bytes)] }
    else { f with chunks := [] }

/-- The number of bytes in a block. -/
def blockSize : Nat := 8192

/-- How many bytes are read by one who needs `n` and takes whole blocks of what has come. -/
def blocksAround (f : Feed) (n : Nat) : Nat :=
  let moment := (f.readyAt n).getD 0
  let come := ((f.chunks.filter fun c => c.1 ≤ moment).map fun c => c.2.length).foldl (· + ·) 0
  max n (min come ((n + blockSize - 1) / blockSize * blockSize))

/-- The first line, with its newline unless the end comes before, and what is left. -/
def line (f : Feed) : List UInt8 × Feed :=
  let rec go : List UInt8 → List (Moment × List UInt8) → List UInt8 × Nat
    | done, [] => (done, done.length)
    | done, (_, bytes) :: rest =>
      let head := bytes.takeWhile (· != 0x0A)
      if head.length < bytes.length then
        (done ++ head ++ [0x0A], done.length + head.length + 1)
      else go (done ++ bytes) rest
  let unrolled : Feed := if f.isEndless then
    { f with chunks := f.chunks ++ [(f.lastChunk, f.cycle ++ f.cycle)] } else f
  let (found, n) := go [] unrolled.chunks
  (found, f.drop n)

end Feed

end Host

end PolicyGate
