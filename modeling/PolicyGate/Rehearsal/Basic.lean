import PolicyGate.Gateway.Response
import PolicyGate.Rehearsal.Cast

/-!
# Rehearsals

A gateway together with its engines. Whatever is sent to it runs as far as it can before anything
else happens: an engine's run that ends at once is taken in at once.
-/

namespace PolicyGate

structure Rehearsal where
  gateway : Gateway
  cast : Rehearsal.Cast
  /-- The answers given so far, by the number of their request. -/
  answers : List (Nat × Answer)

namespace Rehearsal

/-- A gateway with the given engines, before the first request. -/
def start (config : Config) (cast : Cast) (now : Moment) : Rehearsal where
  gateway := .start config
    (canFallBack cast.secondary.isSome config.engines.fallbackDisabled) now
  cast := cast
  answers := []

/-- Takes in an event. -/
def take (r : Rehearsal) (now : Moment) (e : Event) : Rehearsal × Option Reaction :=
  let (g, reaction) := r.gateway.step now e
  ({ r with gateway := g }, reaction)

/-- Follows a reaction of the gateway: an answer is kept, and an engine that is called and ends at
once makes an event. -/
def follow (now : Moment) : Rehearsal × Option Reaction → Rehearsal × Option Reaction
  | (r, none) => (r, none)
  | (r, some (.answered number a)) => ({ r with answers := (number, a) :: r.answers }, none)
  | (r, some (.called number role input)) =>
    match r.cast.call number role input with
    | (cast, none) => ({ r with cast := cast }, none)
    | (cast, some e) => { r with cast := cast }.take now (.ended number e)

/-- Takes in an event and runs as far as possible. A request makes two calls at most, so that after
three reactions there is no more. -/
def play (r : Rehearsal) (now : Moment) (e : Event) : Rehearsal :=
  (follow now (follow now (follow now (r.take now e)))).1

/-- What has become of a request that was sent. -/
inductive Sent where
  | responded (response : Response)
  /-- A request to validate, by its number. -/
  | submitted (number : Nat)

/-- Sends a request. -/
def send (r : Rehearsal) (now : Moment) (requestId : String) (q : Request) : Rehearsal × Sent :=
  match r.gateway.respond? now q with
  | some response => (r, .responded response)
  | none =>
    (r.play now (.arrived (Gateway.arrival requestId q)), .submitted r.gateway.arrived)

/-- The response to a request that was sent, once there is one. -/
def response? (r : Rehearsal) : Sent → Option Response
  | .responded response => some response
  | .submitted number => (r.answers.lookup number).map .ofAnswer

/-- The caller of a request leaves. -/
def leave (r : Rehearsal) (now : Moment) : Sent → Rehearsal
  | .responded _ => r
  | .submitted number => r.play now (.left number)

/-- Gives tickets to an engine. -/
def release (r : Rehearsal) (now : Moment) (role : EngineRole) (tickets : Nat) : Rehearsal :=
  let (cast, ended) := r.cast.release role tickets
  ended.foldl (fun r e => r.play now (.ended e.1 e.2)) { r with cast := cast }

end Rehearsal

end PolicyGate
