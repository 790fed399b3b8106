import PolicyGate.Host.Tool.Basic

/-!
# What may be done with a file

A mode has three bits for each of the owner, the group and the others, and three more in front. It
is written as an octal number or as changes such as `u+x,go-w`, and shown as letters.
-/

namespace PolicyGate

namespace Host.Tool

/-- Octal digits of a number, at least so many. -/
def octal (width n : Nat) : Raw :=
  let digits := Nat.toDigits 8 n
  String.ofList (List.replicate (width - digits.length) '0' ++ digits)

/-- The letters of the nine main bits. The bits in front change the last letter of each three. -/
def modeLetters (mode : Nat) : Raw :=
  let three (shift special : Nat) (yes no : Char) : List Char :=
    let bits := mode / shift % 8
    let x := bits % 2 == 1
    [if 4 ≤ bits then 'r' else '-', if bits / 2 % 2 == 1 then 'w' else '-',
      if mode / special % 2 == 1 then (if x then yes else no) else if x then 'x' else '-']
  String.ofList (three 64 0o4000 's' 'S' ++ three 8 0o2000 's' 'S' ++ three 1 0o1000 't' 'T')

/-- The letter of a kind of node. -/
def kindLetter (n : Node) : Char :=
  match n.content with
  | .directory => 'd'
  | .link _ => 'l'
  | .channel => 'p'
  | .device _ => 'c'
  | _ => '-'

/-! ## Changes -/

/-- One change: whose bits, how, and which. -/
structure ModeChange where
  /-- The bits that may change, all of those of the chosen users. -/
  whose : Nat
  /-- Whether users are named. -/
  named : Bool
  sign : Char
  /-- The bits that are meant, for all users. -/
  bits : Nat := 0
  /-- Whether execution is meant only where someone may execute, or for directories. -/
  conditional : Bool := false
  /-- Whose bits are taken over. -/
  source : Option Char := none

/-- Reads changes behind the users they are for. -/
def modeActions (whose : Nat) (named : Bool) : Nat → List Char → Option (List ModeChange)
  | 0, _ => none
  | _ + 1, [] => some []
  | fuel + 1, sign :: cs =>
    if !(sign == '+' || sign == '-' || sign == '=') then none
    else
      let isBit (c : Char) : Bool := "rwxXst".toList.contains c
      match cs with
      | c :: rest =>
        if c == 'u' || c == 'g' || c == 'o' then do
          let more ← modeActions whose named fuel rest
          return { whose, named, sign, source := some c } :: more
        else
          let letters := cs.takeWhile isBit
          let bit (c : Char) : Nat :=
            match c with
            | 'r' => 0o444
            | 'w' => 0o222
            | 'x' => 0o111
            | 's' => 0o6000
            | 't' => 0o1000
            | _ => 0
          do
            let more ← modeActions whose named fuel (cs.drop letters.length)
            return { whose, named, sign, bits := letters.foldl (fun n c => n ||| bit c) 0,
                     conditional := letters.contains 'X' } :: more
      | [] => some [{ whose, named, sign }]

/-- Reads changes such as `u+x,go=r`. -/
def modeChanges? (r : Raw) : Option (List ModeChange) := do
  let parts ← (r.toList.splitOn ',').mapM fun cs =>
    let users := cs.takeWhile fun c => "ugoa".toList.contains c
    let mask (c : Char) : Nat :=
      match c with
      | 'u' => 0o4700
      | 'g' => 0o2070
      | 'o' => 0o1007
      | _ => 0o7777
    let rest := cs.drop users.length
    if rest.isEmpty then none
    else
      modeActions (if users.isEmpty then 0o7777 else users.foldl (fun n c => n ||| mask c) 0)
        (!users.isEmpty) (rest.length + 1) rest
  return parts.flatten

/-- Makes one change. Without named users the mask is left out. -/
def changedMode (mask : Nat) (isDirectory : Bool) (mode : Nat) (c : ModeChange) : Nat :=
  let taken := match c.source with
    | some 'u' => mode / 64 % 8
    | some 'g' => mode / 8 % 8
    | some _ => mode % 8
    | none => 0
  let x := if c.conditional && (isDirectory || mode &&& 0o111 != 0) then 0o111 else 0
  let bits := c.bits ||| x ||| (taken * 73)
  let meant := bits &&& c.whose &&& (if c.named then 0o7777 else 0o7777 ^^^ mask)
  let without (a b : Nat) : Nat := a &&& (0o7777 ^^^ b)
  if c.sign == '+' then mode ||| meant
  else if c.sign == '-' then without mode meant
  else
    let kept := if isDirectory then 0o6000 else 0
    without mode (without (c.whose &&& (if c.named then 0o7777 else 0o7777)) kept) ||| meant

/-- How a mode is to change: to a number, or step by step. -/
def modeFunction? (mask : Nat) (r : Raw) : Option (Bool → Nat → Nat) :=
  let isOctalDigit (c : Char) : Bool := '0' ≤ c && c ≤ '7'
  let cs := r.toList
  if cs.head?.any Char.isDigit then
    if cs.all isOctalDigit then
      let n := cs.foldl (fun (v : Nat) c => v * 8 + (c.toNat - 48)) 0
      if n ≤ 0o7777 then
        some fun isDirectory old =>
          if isDirectory && cs.length < 5 then n ||| (old &&& 0o6000) else n
      else none
    else none
  else (modeChanges? r).map fun changes isDirectory mode =>
    changes.foldl (changedMode mask isDirectory) mode

end Host.Tool

end PolicyGate
