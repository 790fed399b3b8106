import PolicyGate.Gateway.Basic

/-!
# Scripted engines

A scripted engine does what its script says: its first run goes by the first cue, its second by the
second, and when the cues are used up the last one holds. A gated run does not end before it is
given a ticket. Tickets go to the runs that wait, first come first served, and those left over are
kept.
-/

namespace PolicyGate

namespace Rehearsal

/-- What one run of a scripted engine does. -/
structure Cue where
  ending : Ending
  gated : Bool
  deriving DecidableEq, Repr

namespace Cue

/-- A run with the given texts, of which neither counts as a run that wrote nothing if it failed. -/
def outcome (stdout stderr : Option String) (failure : Option Failure) : Outcome :=
  match stdout, stderr, failure with
  | none, none, some f => .failed f
  | _, _, _ => .written (stdout.getD "") (stderr.getD "") failure

end Cue

/-- A script, and how far it has been played. -/
structure Script where
  first : Cue
  rest : List Cue
  played : Nat
  tickets : Nat
  /-- The gated runs under way, by the number of their request. -/
  waiting : List (Nat × Ending)
  deriving DecidableEq, Repr

namespace Script

/-- A script that has not been played. -/
def ofCues (first : Cue) (rest : List Cue) : Script := ⟨first, rest, 0, 0, []⟩

/-- The cue for a run, counted from 0. -/
def cue (s : Script) : Nat → Cue
  | 0 => s.first
  | n + 1 => (s.rest.take (n + 1)).getLast?.getD s.first

/-- Starts a run. Its ending is given if it comes at once. -/
def call (s : Script) (number : Nat) : Script × Option Ending :=
  let c := s.cue s.played
  let s := { s with played := s.played + 1 }
  if !c.gated then (s, some c.ending)
  else if 0 < s.tickets then ({ s with tickets := s.tickets - 1 }, some c.ending)
  else ({ s with waiting := s.waiting ++ [(number, c.ending)] }, none)

/-- Gives out tickets. The runs that end by them are given. -/
def release (s : Script) (tickets : Nat) : Script × List (Nat × Ending) :=
  let all := s.tickets + tickets
  ({ s with tickets := all - s.waiting.length, waiting := s.waiting.drop all }, s.waiting.take all)

end Script

end Rehearsal

end PolicyGate
