import PolicyGate.Fault
import PolicyGate.Width

/-!
# Size ceilings

The body, the policy code and the context each have a ceiling in bytes, which is itself allowed. A
body arrives in chunks and is read under a limit one byte past its ceiling, so that a body at the
ceiling and one over it stay apart.
-/

namespace PolicyGate

/-- The ceilings in bytes. -/
structure Limits where
  maxBody : Nat
  maxCode : Nat
  maxContext : Nat
  deriving DecidableEq, Repr

/-- The largest size that a ceiling can name. -/
def largestSize : Nat := Width.of64 - 1

namespace Limits

def ceiling (l : Limits) : Part → Nat
  | .body => l.maxBody
  | .code => l.maxCode
  | .context => l.maxContext

/-- Refuses a part with more bytes than its ceiling. -/
def check (l : Limits) (part : Part) (size : Nat) : Except Fault Unit :=
  if l.ceiling part < size then .error (.tooLarge part) else .ok ()

/-- The number of bytes read of a body at most. -/
def readLimit (l : Limits) : Nat := min (l.maxBody + 1) largestSize

end Limits

/-- A body on its way: its chunks in order, and whether the sender breaks off after them. -/
structure Upload where
  chunks : List (List UInt8)
  broken : Bool

namespace Upload

/-- A body that arrives at once. -/
def whole (bytes : List UInt8) : Upload := ⟨[bytes], false⟩

/-- Gathers chunks as long as they fit under a limit. -/
def gather (limit : Nat) (read : List UInt8) : List (List UInt8) → Option (List UInt8)
  | [] => some read
  | chunk :: rest =>
    if limit < read.length + chunk.length then none else gather limit (read ++ chunk) rest

/-- Reads a body under the read limit and then checks its ceiling. A chunk past the read limit
counts before a sender that breaks off. -/
def read (u : Upload) (limits : Limits) : Except Fault (List UInt8) :=
  match gather limits.readLimit [] u.chunks with
  | none => .error (.tooLarge .body)
  | some bytes =>
    if u.broken then .error (.internal "request body read failed")
    else (limits.check .body bytes.length).map fun _ => bytes

end Upload

end PolicyGate
