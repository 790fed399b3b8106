import PolicyGate.Host.Shell.Rounds

/-!
# Commands that start commands

Some tools start a command that they are given: in other surroundings, for some time at most, or once for
each share of an input. How a program is run is given to them.
-/

namespace PolicyGate

namespace Host.Shell

/-- A way to run a program, given the name that it is called by and its arguments. -/
abbrev Runs := State → Raw → Program → List Raw → State

/-- Tells of a program that has been killed, and goes on. -/
def settle (s : State) : State :=
  match s.halt with
  | some (.killed n) => { ((s.tellKilled n).withStatus (128 + n)).collect with halt := none }
  | _ => s.collect

/-- A part in the background runs its last program in its own place, if that is a simple command. If the
program is killed then the part is, and it is not the part that tells so. -/
def inPlaceOf (body : Script) (s : State) : State :=
  let n := s.exitStatus - 128
  match s.halt, s.emitted with
  | none, e :: rest | some (.exit _), e :: rest =>
    if !s.rich && 0 < n && body.endsSimply && e.owner = s.pid && e.bytes = Raw.toBytes (State.signalText n ++ "\n") then
      { s with emitted := rest, halt := some (.killed n) }
    else s
  | _, _ => s

/-- What a run in a process of its own means for the one that has started it. -/
def rejoin (s inner : State) : State :=
  let t := (s.sharing inner).notBefore inner.clock
  match inner.halt with
  | some .hangs => t.stop .hangs
  | some (.waits n) => t.stop (.waits n)
  | some (.repeats k p) => t.stop (.repeats k p)
  | some (.killed n) => (t.withStatus (128 + n)).stop (.killed n)
  | _ => t.withStatus inner.exitStatus

/-- The variables of a process, those given last first. -/
def exportedText (s : State) (ending : Raw) : Raw :=
  let shown := s.vars.filterMap fun (n, v) => v.passed?.map fun r => n ++ "=" ++ r ++ ending
  String.join shown.reverse

/-- Runs a command in other surroundings. -/
def runEnv (run : Runs) (s : State) (e : Launch.Surroundings) : State :=
  let kept := if e.clears then s.vars.filter fun v => !v.2.exported else s.vars
  let t := { s with vars := kept.filter fun v => !e.dropped.contains v.1 }
  let t := e.given.foldl (fun t (n, v) =>
    if n.isEmpty then t else t.putVariable n { value := some v, exported := true }) t
  let moved : Except Raw State := match e.directory with
    | none => .ok t
    | some d =>
      match t.reach d with
      | .ok r => if r.node.isDirectory then .ok { t with home := r.loc } else .error "Not a directory"
      | .error f => .error (reason f)
  match moved with
  | .error what =>
    (s.complainPlain ("env: cannot change directory to " ++
      Tool.quoted (e.directory.getD "") ++ ": " ++ what)).withStatus 125
  | .ok t =>
    match e.command with
    | [] => (s.say (exportedText t (if e.zeros then "\x00" else "\n"))).withStatus 0
    | name :: args =>
      let search := if (t.value? "PATH").isSome then t
        else t.putVariable "PATH" { value := some "/bin:/usr/bin" }
      match program? search name with
      | .ok p =>
        { run t name p args with vars := s.vars, home := s.home, tracked := s.tracked }
      | .error why => (s.complainPlain (Launch.failure "env" name why.reason)).withStatus why.status

/-- Runs a command that is ended after some time. -/
def runLimited (start : State → State) (s : State) (l : Launch.Limit) : State :=
  let moment := s.clock + 1000 * l.ms
  let pid := s.nextPid + 1
  let later := (l.killAfter.map fun k => (moment + 1000 * k, 9)).toList
  let ends := if l.ms = 0 then [] else (moment, l.signal) :: later
  let before := { s with
    pid := s.nextPid, nextPid := s.nextPid + 1, cutOffs := ends ++ s.cutOffs
    signals := ends.map (fun (m, n) => (m, pid, n)) ++ s.signals }
  let inner := start before
  let isOver := l.ms != 0 && inner.finished.all (moment ≤ ·)
  let isFlood := match inner.halt with
    | some (.repeats ..) => true
    | _ => false
  let kept := inner.signals.filter fun g => g.2.1 != pid
  let t := { s.sharing { inner with signals := kept } with clock := inner.clock }
  if !isOver || isFlood then { t with status := inner.status, halt := inner.halt }
  else
    let hangs := inner.finished.isNone
    let t := if hangs then
        { t with clock := moment, emitted := t.emitted.filter fun e => e.time ≤ moment }
      else t
    let name := l.command.head?.getD ""
    let sent (m : Moment) (n : Nat) (t : State) : State :=
      if l.tells && m ≤ t.clock then
        t.complainPlain ("timeout: sending signal " ++ State.signalName n ++ " to command " ++
          Tool.quoted name)
      else t
    let t := later.foldl (fun t (m, n) => sent m n t) (sent moment l.signal t)
    let killer := if hangs then l.signal else
      match inner.halt with
      | some (.killed n) => n
      | _ => 0
    if killer = 9 then (t.withStatus 137).stop (.killed 9)
    else if l.keepsStatus then
      t.withStatus (if killer = 0 then inner.exitStatus else 128 + killer)
    else t.withStatus 124

/-- Shares an input out among commands, and runs one after another. -/
def runBatches (run : Runs) (s : State) (b : Launch.Batch) : State :=
  let given : Except Raw (Raw × State) := match b.file with
    | some path =>
      match s.scene.open? path with
      | .ok t => .ok (Raw.ofBytes t.bytes, s)
      | .error _ =>
        .error ("xargs: Cannot open input file " ++ Tool.quoted path ++ ": " ++
          (match s.reach path with
            | .error f => reason f
            | .ok _ => reason .isADirectory))
    | none =>
      match s.input? 0 with
      | some (k, i) =>
        let all := i.feed.toStream.bytes
        .ok (Raw.ofBytes all, (s.await i.feed.ends).setFeed k (i.feed.drop all.length))
      | none => .ok ("", s)
  match given with
  | .error e => (s.complainPlain e).withStatus 1
  | .ok (input, s) =>
    if !s.running then s
    else
      let (commands, fault) := match Launch.batches b input with
        | .ok cs => (cs, none)
        | .error e => ([], some e)
      let count := commands.length
      let step (acc : State × Bool) (words : List Raw) : State × Bool :=
        let (s, goes) := acc
        if !goes || !s.running then acc
        else
          let name := words.head?.getD ""
          let s := if b.tells then s.complainPlain (" ".intercalate words) else s
          match program? s name with
          | .error why =>
            ((s.complainPlain (Launch.failure "xargs" name why.reason)).withStatus why.status, false)
          | .ok p =>
            let before := s.status
            let t := if b.file.isSome then s else s.setHandle 0 (.output .nowhere)
            let t := run { t with status := 0 } name p words.tail
            let t := { t with handles := s.handles }
            match t.halt with
            | some (.killed n) =>
              (({ t with halt := none }.complainPlain ("xargs: " ++ name ++
                ": terminated by signal " ++ toString n)).withStatus 125, false)
            | some _ => (t, false)
            | none =>
              if t.status = 255 then
                ((t.complainPlain ("xargs: " ++ name ++ ": exited with status 255; aborting")).withStatus
                  124, false)
              else (t.withStatus (if t.status = 0 then before else 123), true)
      let (t, _) := commands.foldl step (s.withStatus 0, 0 ≤ count)
      match fault with
      | some e => if t.running then (t.complainPlain e).withStatus 1 else t
      | none => t

end Host.Shell

end PolicyGate
