/-!
# Slots for running engines

A fixed number of slots bounds the work under way. A slot is taken if one is free, and each
granted permit gives back its slot once.
-/

namespace PolicyGate

/-- How many slots are taken, of how many. -/
structure Slots where
  current : Nat
  max : Nat
  deriving DecidableEq, Repr

namespace Slots

/-- All slots free. -/
def start (max : Nat) : Slots := ⟨0, max⟩

/-- Takes a slot if one is free. -/
def acquire? (s : Slots) : Option Slots :=
  if s.current < s.max then some { s with current := s.current + 1 } else none

/-- Gives a slot back; the count has its floor at zero. -/
def release (s : Slots) : Slots := { s with current := s.current - 1 }

def isSaturated (s : Slots) : Bool := s.max ≤ s.current

end Slots

/-- Slots with the permits that hold them. Permits are numbered in the order they are granted. -/
structure Permits where
  slots : Slots
  granted : Nat
  live : List Nat
  deriving DecidableEq, Repr

namespace Permits

def start (max : Nat) : Permits := ⟨.start max, 0, []⟩

/-- Asks for a permit. -/
def acquire (p : Permits) : Bool × Permits :=
  match p.slots.acquire? with
  | none => (false, p)
  | some slots => (true, ⟨slots, p.granted + 1, p.granted :: p.live⟩)

/-- Gives a permit back, if it is held. -/
def release (p : Permits) (permit : Nat) : Bool × Permits :=
  if permit ∈ p.live then (true, ⟨p.slots.release, p.granted, p.live.erase permit⟩)
  else (false, p)

end Permits

end PolicyGate
