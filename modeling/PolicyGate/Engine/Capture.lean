import PolicyGate.Engine.Outcome
import PolicyGate.Text.Utf8

/-!
# Watching a process

A process writes to two pipes, and each is captured up to a ceiling. The watch is a step system:
reads and ends of both pipes, a read error, the deadline and, once both pipes have ended, the exit
come in any order. The first event that settles the run is the last one that counts.

Main statements: **reading a chunk appends it and cuts at the ceiling** (`toList_read`), and the
pipe counts as cut exactly if there was more (`truncated_read`).
-/

namespace PolicyGate

/-! ## One pipe -/

/-- A pipe that is captured up to `cap` bytes. -/
structure Capture where
  bytes : Array UInt8
  cap : Nat
  truncated : Bool
  closed : Bool
  deriving DecidableEq, Repr

namespace Capture

def start (cap : Nat) : Capture := ⟨#[], cap, false, false⟩

/-- Takes in a chunk, as far as there is room. -/
def read (c : Capture) (chunk : List UInt8) : Capture :=
  let room := c.cap - c.bytes.size
  if room < chunk.length then
    { c with bytes := c.bytes ++ chunk.take room, truncated := true }
  else { c with bytes := c.bytes ++ chunk }

/-- The pipe has ended. -/
def close (c : Capture) : Capture := { c with closed := true }

/-- Reads chunks until the ceiling cuts one. -/
def readAll (c : Capture) : List (List UInt8) → Capture
  | [] => c
  | chunk :: rest => if c.truncated then c else readAll (c.read chunk) rest

/-- The captured bytes as text. -/
def text (c : Capture) : String := String.ofList (Utf8.lossy c.bytes.toList)

@[simp] theorem cap_read (c : Capture) (chunk : List UInt8) : (c.read chunk).cap = c.cap := by
  unfold read
  dsimp only
  split <;> rfl

@[simp] theorem closed_read (c : Capture) (chunk : List UInt8) :
    (c.read chunk).closed = c.closed := by
  unfold read
  dsimp only
  split <;> rfl

theorem toList_read (c : Capture) (chunk : List UInt8) (h : c.bytes.size ≤ c.cap) :
    (c.read chunk).bytes.toList = (c.bytes.toList ++ chunk).take c.cap := by
  unfold read
  dsimp only
  split
  · simp [List.take_append, List.take_of_length_le (l := c.bytes.toList) (by simpa using h)]
  · next hr =>
    have : (c.bytes.toList ++ chunk).length ≤ c.cap := by simp; omega
    simp [List.take_of_length_le this]

theorem truncated_read (c : Capture) (chunk : List UInt8) (h : c.bytes.size ≤ c.cap) :
    (c.read chunk).truncated = (c.truncated || decide (c.cap < c.bytes.size + chunk.length)) := by
  unfold read
  dsimp only
  split
  · have : c.cap < c.bytes.size + chunk.length := by omega
    simp [this]
  · have : ¬ c.cap < c.bytes.size + chunk.length := by omega
    simp [this]

theorem size_read (c : Capture) (chunk : List UInt8) (h : c.bytes.size ≤ c.cap) :
    (c.read chunk).bytes.size ≤ c.cap := by
  have := congrArg List.length (toList_read c chunk h)
  simp only [Array.length_toList, List.length_take] at this
  omega

end Capture

/-! ## Both pipes -/

/-- The two outputs of a process. -/
inductive Pipe where
  | stdout
  | stderr
  deriving DecidableEq, Repr

/-- How a process ends by itself. -/
inductive ExitStatus where
  | code (n : Int)
  | signal
  deriving DecidableEq, Repr

def ExitStatus.isSuccess (s : ExitStatus) : Bool := s = .code 0

def ExitStatus.code? : ExitStatus → Option Int
  | .code n => some n
  | .signal => none

/-- What can happen to a process that is watched. -/
inductive ProcessEvent where
  | read (pipe : Pipe) (chunk : List UInt8)
  | closed (pipe : Pipe)
  | readFailed (reason : String)
  | deadline
  | exited (status : ExitStatus)
  | waitFailed (reason : String)
  deriving DecidableEq, Repr

/-- How a watch ends. -/
inductive Settled where
  /-- The process has to be killed. -/
  | stopped (failure : Failure)
  | exited (status : ExitStatus)
  deriving DecidableEq, Repr

structure Watch where
  stdout : Capture
  stderr : Capture
  settled : Option Settled
  deriving DecidableEq, Repr

namespace Watch

def start (cap : Nat) : Watch := ⟨.start cap, .start cap, none⟩

def capture (w : Watch) : Pipe → Capture
  | .stdout => w.stdout
  | .stderr => w.stderr

def setCapture (w : Watch) (c : Capture) : Pipe → Watch
  | .stdout => { w with stdout := c }
  | .stderr => { w with stderr := c }

/-- Whether both pipes have ended. -/
def drained (w : Watch) : Bool := w.stdout.closed && w.stderr.closed

def stop (w : Watch) (f : Failure) : Watch := { w with settled := some (.stopped f) }

/-- Ends the watch if a pipe is over its ceiling. -/
def checkCeiling (w : Watch) : Watch :=
  if w.stdout.truncated || w.stderr.truncated then w.stop .outputTooLarge else w

/-- Takes in an event of a watch that is not settled. Events that cannot come count for nothing:
reads from a pipe that has ended, a read error after both ends, an exit before them. -/
def step (w : Watch) : ProcessEvent → Watch
  | .read pipe chunk =>
    if (w.capture pipe).closed then w
    else (w.setCapture ((w.capture pipe).read chunk) pipe).checkCeiling
  | .closed pipe => w.setCapture (w.capture pipe).close pipe
  | .readFailed reason => if w.drained then w else w.stop (.io reason)
  | .deadline => w.stop .timeout
  | .exited status => if w.drained then { w with settled := some (.exited status) } else w
  | .waitFailed reason => if w.drained then w.stop (.io reason) else w

/-- Takes in events up to the one that settles the watch. -/
def run (w : Watch) : List ProcessEvent → Watch
  | [] => w
  | e :: es => if w.settled.isSome then w else run (w.step e) es

/-! ## The outcome -/

/-- Adds a failure's text on a line of its own. -/
def appendFailure (stderr : String) (f : Failure) : String :=
  let lead := if stderr.isEmpty || stderr.toList.getLast? = some '\n' then stderr else stderr.push '\n'
  lead ++ f.message

/-- The failure of an exit, given the codes that blame the policy. -/
def exitFailure (policyCodes : List Int) (s : ExitStatus) : Option Failure :=
  if s.isSuccess then none
  else some (.exit s.code? (s.code?.any (· ∈ policyCodes)))

/-- What a settled watch gives. Actions are announced on the standard output, or on the error output
of a failed run that wrote nothing to the former. A run that never settled counts as one that is
still going at its deadline. -/
def outcome (policyCodes : List Int) (w : Watch) : Outcome :=
  let stdout := w.stdout.text
  let (stderr, failure) : String × Option Failure :=
    match w.settled with
    | some (.exited s) => (w.stderr.text, exitFailure policyCodes s)
    | some (.stopped f) => (appendFailure w.stderr.text f, some f)
    | none => (appendFailure w.stderr.text .timeout, some .timeout)
  let source := if failure.isNone || !stdout.isEmpty then stdout else stderr
  ⟨stdout, stderr, announced source, failure⟩

end Watch

end PolicyGate
