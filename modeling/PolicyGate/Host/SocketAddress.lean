import PolicyGate.Width

/-!
# Socket addresses

A place to listen: an IP address and the number of a service. Version 4 is written `a.b.c.d:n`,
version 6 in brackets as `[x:x:x:x:x:x:x:x]:n`, where one run of groups may be left out for `::`,
the last two groups may be written as an address of version 4, and a number after `%` names a scope.
-/

namespace PolicyGate

namespace Host

/-- An IP address. -/
inductive Address where
  | v4 (parts : List Nat)
  | v6 (groups : List Nat) (scope : Nat)
  deriving DecidableEq, Repr

structure SocketAddress where
  host : Address
  service : Nat
  deriving DecidableEq, Repr

namespace SocketAddress

/-! Each reader gives what it reads and what it leaves. -/

/-- Reads one character. -/
def one (c : Char) : List Char → Option (List Char)
  | d :: rest => if d = c then some rest else none
  | [] => none

/-- The value of a digit up to `f`. -/
def digitValue (c : Char) : Nat :=
  if c.isDigit then c.toNat - '0'.toNat else c.toLower.toNat - 'a'.toNat + 10

def isHexDigit (c : Char) : Bool :=
  c.isDigit || ('a' ≤ c && c ≤ 'f') || ('A' ≤ c && c ≤ 'F')

/-- The number that digits of a base write. -/
def value (base : Nat) (digits : List Char) : Nat :=
  digits.foldl (fun n c => n * base + digitValue c) 0

/-- Reads a decimal number below a bound. -/
def decimal (bound : Nat) (s : List Char) : Option (Nat × List Char) :=
  let digits := s.takeWhile Char.isDigit
  let n := value 10 digits
  if digits.isEmpty || bound ≤ n then none else some (n, s.dropWhile Char.isDigit)

/-- Reads a part of an address of version 4. Zeros do not stand in front. -/
def part (s : List Char) : Option (Nat × List Char) :=
  let digits := s.takeWhile Char.isDigit
  let padded := digits.head? = some '0' && 1 < digits.length
  if padded || 3 < digits.length then none else decimal 256 s

/-- Reads a number of parts, each behind a point. -/
def pointedParts : Nat → List Char → Option (List Nat × List Char)
  | 0, s => some ([], s)
  | n + 1, s => do
    let s ← one '.' s
    let (p, s) ← part s
    let (ps, s) ← pointedParts n s
    return (p :: ps, s)

/-- Reads an address of version 4. -/
def v4 (s : List Char) : Option (List Nat × List Char) := do
  let (p, s) ← part s
  let (ps, s) ← pointedParts 3 s
  return (p :: ps, s)

/-- Reads a group of up to four hexadecimal digits. -/
def group (s : List Char) : Option (Nat × List Char) :=
  let digits := s.takeWhile isHexDigit
  if digits.isEmpty || 4 < digits.length then none
  else some (value 16 digits, s.dropWhile isHexDigit)

/-- An address of version 4 as two groups. -/
def pair (parts : List Nat) : List Nat :=
  [value256 (parts.take 2), value256 (parts.drop 2)]
where
  /-- The number of two bytes. -/
  value256 (bytes : List Nat) : Nat := bytes.foldl (fun n b => n * 256 + b) 0

/-- Reads groups as long as there are any and there is room. The second component tells whether they
end in an address of version 4. -/
def groups (first : Bool) : Nat → List Char → (List Nat × Bool) × List Char
  | 0, s => (([], false), s)
  | room + 1, s =>
    let body := if first then some s else one ':' s
    match (if room = 0 then none else body.bind v4) with
    | some (parts, rest) => ((pair parts, true), rest)
    | none =>
      match body.bind group with
      | none => (([], false), s)
      | some (g, rest) =>
        let ((gs, ended), rest) := groups false room rest
        ((g :: gs, ended), rest)

/-- Reads an address of version 6. -/
def v6 (s : List Char) : Option (List Nat × List Char) :=
  let ((head, ended), rest) := groups true 8 s
  if head.length = 8 then some (head, rest)
  else if ended then none
  else do
    let rest ← one ':' rest
    let rest ← one ':' rest
    let ((tail, _), rest) := groups true (7 - head.length) rest
    return (head ++ List.replicate (8 - head.length - tail.length) 0 ++ tail, rest)

/-- Reads a scope if there is one. -/
def scope (s : List Char) : Nat × List Char :=
  ((one '%' s).bind (decimal Width.of32)).getD (0, s)

/-- Reads the number of the service behind its colon. -/
def readService (s : List Char) : Option (Nat × List Char) := (one ':' s).bind (decimal 65536)

/-- Reads the address in front of the service. -/
def readHost (s : List Char) : Option (Address × List Char) :=
  match v4 s with
  | some (parts, rest) => some (.v4 parts, rest)
  | none => do
    let s ← one '[' s
    let (gs, s) ← v6 s
    let (n, s) := scope s
    let s ← one ']' s
    return (.v6 gs n, s)

/-- Reads a text that is a socket address and nothing more. -/
def parse? (s : List Char) : Option SocketAddress := do
  let (host, s) ← readHost s
  let (service, s) ← readService s
  if s.isEmpty then return ⟨host, service⟩ else none

end SocketAddress

/-- Why no socket can be opened at an address. -/
inductive BindFault where
  | permissionDenied
  deriving DecidableEq, Repr

def BindFault.message : BindFault → String
  | .permissionDenied => "Permission denied (os error 13)"

/-- Opens a socket. Services below 1024 are reserved, but 0 stands for any free number. -/
def bind (a : SocketAddress) : Except BindFault Unit :=
  if a.service != 0 && a.service < 1024 then .error .permissionDenied else .ok ()

end Host

end PolicyGate
