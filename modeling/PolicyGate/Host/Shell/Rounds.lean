import PolicyGate.Host.Shell.Program

/-!
# Loops and pipes

A loop that changes nothing any more goes on for ever, and one that makes too many rounds counts as one
that hangs. The parts of a pipe run at the same time; a part that writes to one that has ended is cut
off.
-/

namespace PolicyGate

namespace Host.Shell

/-! ## Loops -/

/-- The number of rounds that a loop makes at most. -/
def loopLimit : Nat := 400000

/-- After how many rounds a loop is looked at, whether it still changes anything. -/
def loopCheck : Nat := 2000

/-- The longest that a loop goes on. -/
def timeLimit : Moment := 20000000000

/-- What a loop goes on to do that changes nothing any more: to write what its last round wrote, or
nothing. -/
def endlessly (before after : State) : State :=
  let written := after.emitted.take (after.emitted.length - before.emitted.length)
  match written.getLast? with
  | some e =>
    after.stop (.repeats e.sink ((written.filter (·.sink == e.sink)).reverse.flatMap (·.bytes)))
  | none => after.stop .hangs

/-- Whether a round has left all that can be seen as it was. -/
def isSettled (s t : State) : Bool :=
  let values (u : State) : List (Raw × Option Raw × Option Items) :=
    u.vars.map fun v => (v.1, v.2.value, v.2.items)
  let sizes (u : State) : List (Nat × Nat) := u.files.nodes.map fun n => (n.1, n.2.size)
  let left (u : State) : List (Nat × Nat) :=
    u.inputs.map fun i => (i.1, (i.2.feed.chunks.map fun c => c.2.length).foldl (· + ·) 0)
  s.clock == t.clock && values s == values t && s.positional == t.positional && s.home == t.home &&
    s.options == t.options && s.files.next == t.files.next &&
    s.files.entries.length == t.files.entries.length && sizes s == sizes t && left s == left t

/-- Runs rounds until one says to stop. -/
def rounds (round : State → Bool × State) : Nat → State → State
  | 0, s => s.stop .hangs
  | n + 1, s =>
    match round s with
    | (true, t) =>
      if n = 0 then endlessly s t
      else if timeLimit < t.clock then t.stop .hangs
      else if n % loopCheck = 0 && isSettled s t then endlessly s t
      else rounds round n t
    | (false, t) => t

/-- Runs a step for each of some values until one says to stop. -/
def eachOf (step : State → Raw → Bool × State) : List Raw → State → State
  | [], s => s
  | v :: vs, s =>
    match step s v with
    | (true, t) => eachOf step vs t
    | (false, t) => t

/-- What the end of a loop's round means: whether the loop goes on, and how. -/
def afterRound (s : State) : Bool × State :=
  match s.halt with
  | none => (true, s)
  | some (.continued 1) => (true, { s with halt := none })
  | some (.broke 1) => (false, { s with halt := none })
  | some (.continued n) => (false, s.stop (.continued (n - 1)))
  | some (.broke n) => (false, s.stop (.broke (n - 1)))
  | some _ => (false, s)

/-! ## Pipes -/

/-- A part of a pipe that has run. -/
structure Stage where
  pid : Nat
  ends : Option Moment
  /-- What it has given to the next part. -/
  feed : Feed
  /-- Whether it goes on writing to the next part for ever. -/
  floods : Bool
  status : Nat

/-- Ends parts that write to a part that has ended, the last part first: the moment at which each is
over, and at which it is cut off if it is. -/
def cutOffs (last : Option Moment) : List Stage → List (Stage × Option Moment × Option Moment)
  | [] => []
  | g :: gs =>
    let cut := last.bind fun e =>
      match g.feed.chunks.find? fun c => e < c.1 with
      | some c => some c.1
      | none => if g.floods then some (max e g.feed.lastChunk) else none
    let ends := match cut with
      | some c => some c
      | none => g.ends
    (g, ends, cut) :: cutOffs ends gs

/-- The later of two moments, if both come. -/
def later : Option Moment → Option Moment → Option Moment
  | some a, some b => some (max a b)
  | _, _ => none

/-- Puts an input in front of a part. -/
def fed (s : State) (feed : Option Feed) : State :=
  match feed with
  | some f =>
    let (t, n) := s.addInput { feed := f }
    t.setHandle 0 (.input n)
  | none => s

end Host.Shell

end PolicyGate
