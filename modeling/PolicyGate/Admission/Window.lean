/-!
# Sliding windows

Each client has at most `maxRequests` admitted requests in any closed window of a fixed length.
Only admitted requests are remembered, each by its time, and a client's times are pruned from the
front when the client asks again. A limiter that tracks too many clients also prunes all of them
and forgets those with nothing left, at most once per window.
-/

namespace PolicyGate

/-- Admitted requests per client. Times and the window are in the same unit. -/
structure Limiter where
  window : Nat
  maxRequests : Nat
  maxTracked : Nat
  /-- The times of each tracked client, oldest arrival first. -/
  buckets : List (String × List Int)
  lastSweep : Option Int
  deriving DecidableEq, Repr

namespace Limiter

/-- A limiter that has seen nothing. -/
def start (window maxRequests maxTracked : Nat) : Limiter :=
  ⟨window, maxRequests, maxTracked, [], none⟩

/-- The remembered times of a client. -/
def times (l : Limiter) (client : String) : List Int := (l.buckets.lookup client).getD []

/-- The number of tracked clients. -/
def tracked (l : Limiter) : Nat := l.buckets.length

/-- Drops the times at the front that lie before the window which ends now. -/
def prune (window : Nat) (now : Int) (times : List Int) : List Int :=
  times.dropWhile fun t => t < now - window

/-- Replaces the times of a client, who is tracked from then on. -/
def put (client : String) (times : List Int) :
    List (String × List Int) → List (String × List Int)
  | [] => [(client, times)]
  | (c, ts) :: rest =>
    if c = client then (c, times) :: rest else (c, ts) :: put client times rest

/-- Prunes every client and forgets those with no times left. -/
def sweep (l : Limiter) (now : Int) : Limiter :=
  let pruned := l.buckets.map fun b => (b.1, prune l.window now b.2)
  { l with buckets := pruned.filter fun b => !b.2.isEmpty }

/-- Whether the last automatic sweep is at least a window old. -/
def sweepDue (l : Limiter) (now : Int) : Bool :=
  l.lastSweep.all fun last => l.window ≤ (now - last).toNat

/-- Sweeps if too many clients are tracked and a sweep is due. -/
def tidy (l : Limiter) (now : Int) : Limiter :=
  if l.maxTracked < l.tracked && l.sweepDue now then
    { l.sweep now with lastSweep := some now }
  else l

/-- Asks for one request of a client, and remembers it if it is admitted. -/
def accept (l : Limiter) (client : String) (now : Int) : Bool × Limiter :=
  let kept := prune l.window now (l.times client)
  let admitted : Bool := kept.length < l.maxRequests
  let times := if admitted then kept ++ [now] else kept
  (admitted, { l with buckets := put client times l.buckets }.tidy now)

/-- Forgets everything. -/
def reset (l : Limiter) : Limiter := { l with buckets := [], lastSweep := none }

end Limiter

end PolicyGate
