import PolicyGate.Engine.Capture

/-!
# What processes do

A process writes, waits and ends, or goes on for ever. What a watcher with a deadline gets to see of
it is a list of events.
-/

namespace PolicyGate

namespace Host

/-- One thing that a process does. -/
inductive Act where
  | write (pipe : Pipe) (bytes : List UInt8)
  | wait (ms : Nat)
  deriving DecidableEq, Repr

/-- What comes after the last act. -/
inductive Finish where
  | exit (status : ExitStatus)
  /-- Writes a pattern over and over. -/
  | repeats (pipe : Pipe) (pattern : List UInt8)
  /-- Neither writes nor ends. -/
  | hangs
  deriving DecidableEq, Repr

structure Behaviour where
  acts : List Act
  finish : Finish
  deriving DecidableEq, Repr

namespace Behaviour

/-- The largest number of bytes in one read. -/
def readSize : Nat := 8192

/-- The reads that a write takes. -/
def chunks (pipe : Pipe) (bytes : List UInt8) : List ProcessEvent :=
  match bytes with
  | [] => []
  | b :: bs =>
    .read pipe ((b :: bs).take readSize) :: chunks pipe ((b :: bs).drop readSize)
termination_by bytes.length
decreasing_by
  rw [List.length_drop, readSize, List.length_cons]
  omega

/-- The reads of a pattern until a ceiling is passed. -/
def overflow (pipe : Pipe) (pattern : List UInt8) (cap : Nat) : List ProcessEvent :=
  chunks pipe (List.replicate (cap / pattern.length + 1) pattern).flatten

/-- The events after the last act. -/
def lastEvents (cap : Nat) : Finish → List ProcessEvent
  | .exit s => [.closed .stdout, .closed .stderr, .exited s]
  | .repeats pipe pattern => overflow pipe pattern cap ++ [.deadline]
  | .hangs => [.deadline]

/-- The events of some acts, given the time that is left. -/
def actEvents (left : Nat) (cap : Nat) (finish : Finish) : List Act → List ProcessEvent
  | [] => lastEvents cap finish
  | .write pipe bytes :: rest => chunks pipe bytes ++ actEvents left cap finish rest
  | .wait ms :: rest =>
    if ms < left then actEvents (left - ms) cap finish rest else [.deadline]

/-- What a watcher sees who waits for some time, under a ceiling. -/
def events (b : Behaviour) (timeoutMs cap : Nat) : List ProcessEvent :=
  if timeoutMs = 0 then [.deadline] else actEvents timeoutMs cap b.finish b.acts

end Behaviour

end Host

end PolicyGate
