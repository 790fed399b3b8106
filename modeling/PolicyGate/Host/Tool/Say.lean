import PolicyGate.Host.Format
import PolicyGate.Host.Tool.Basic

/-!
# Tools that make up what they write

They write their arguments, numbers or a word over and over, or only take time.
-/

namespace PolicyGate

namespace Host.Tool

/-! ## Words -/

/-- The output of `echo`, which knows escapes. -/
def echo (args : List Raw) : Ran :=
  let (newline, words) := match args with
    | "-n" :: rest => (false, rest)
    | ws => (true, ws)
  let (bytes, ended) := unescape (" ".intercalate words).toList
  wrote (if newline && !ended then bytes ++ [0x0A] else bytes) 0

/-- Whether a word consists of options of `echo`. -/
def isEchoOption (r : Raw) : Bool :=
  match r.toList with
  | '-' :: c :: cs => (c :: cs).all fun d => d == 'n' || d == 'e' || d == 'E'
  | _ => false

/-- The output of `echo` where it is a program of its own. It knows escapes only if it is asked. -/
def plainEcho (args : List Raw) : Ran :=
  let options := (args.takeWhile isEchoOption).flatMap fun a => a.toList.drop 1
  let words := args.dropWhile isEchoOption
  let escapes := (options.filter fun c => c == 'e' || c == 'E').getLast? == some 'e'
  let text := " ".intercalate words
  let (bytes, ended) := if escapes then unescapeAt .program .words text.toList else (Raw.toBytes text, false)
  wrote (if options.contains 'n' || ended then bytes else bytes ++ [0x0A]) 0

def printf (args : List Raw) : Ran :=
  let args := match args with
    | "--" :: rest => rest
    | as => as
  match args with
  | [] => complain "printf: usage: printf format [arg ...]" 2
  | form :: rest =>
    let (bytes, complaints, broken) := format form rest
    { writes := (complaints.map fun c => complaint ("printf: " ++ c)) ++ [(false, bytes)]
      status := if broken then 2 else if complaints.isEmpty then 0 else 1 }

/-- `printf` where it is a program of its own. -/
def plainPrintf (args : List Raw) : Ran :=
  let args := match args with
    | "--" :: rest => rest
    | as => as
  match args with
  | [] => Known.refuse { tool := "printf" } "missing operand"
  | form :: rest =>
    let (bytes, complaints, failed) := programFormat quotedIfNeeded form rest
    { writes := (complaints.map fun c => complaint ("printf: " ++ c)) ++ [(false, bytes)]
      status := if failed then 1 else 0 }

/-- A word over and over. -/
def yes (args : List Raw) : Ran :=
  let k : Known := { tool := "yes" }
  k.run args fun o =>
    { endless := ended (if o.operands.isEmpty then "y" else " ".intercalate o.operands) }

/-! ## Time -/

/-- Milliseconds of a duration such as `5`, `0.2` or `1m`. -/
def durationMs? (r : Raw) : Option Nat :=
  let far := 1000000000000
  match Double.readAny? r.toList with
  | none => none
  | some (x, unit) =>
    let factor : Option Float := match unit with
      | [] | ['s'] => some 1000.0
      | ['m'] => some 60000.0
      | ['h'] => some 3600000.0
      | ['d'] => some 86400000.0
      | _ => none
    match factor with
    | none => none
    | some k =>
      let ms := x * k
      if x.isNaN || x < 0.0 || r.startsWith " " then none
      else if ms < Float.ofNat far then some ms.ceil.toUInt64.toNat
      else some far

def sleepKnown : Known := { tool := "sleep" }

def sleep (args : List Raw) : Ran :=
  sleepKnown.run args fun o =>
    let bad := o.operands.filter fun a => (durationMs? a).isNone
    if o.operands.isEmpty then sleepKnown.refuse "missing operand"
    else if bad.isEmpty then
      { waitMs := (o.operands.map fun a => (durationMs? a).getD 0).foldl (· + ·) 0 }
    else
      complain ("\n".intercalate (bad.map fun a => "sleep: invalid time interval '" ++ a ++ "'") ++
        sleepKnown.hint) 1

end Host.Tool

end PolicyGate
