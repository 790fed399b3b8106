import PolicyGate.Host.Raw

/-!
# The order of versions

Names with numbers in them are ordered by those numbers: `a9` comes before `a10`. Endings such as
`.tar.gz` count only between names that are alike without them.
-/

namespace PolicyGate

namespace Host.Tool

namespace Version

/-- The weight of a character that is no digit, the end of a text being lighter than any but `~`. -/
def weight (cs : List Char) : Int :=
  match cs with
  | [] => -1
  | c :: _ =>
    if c.isDigit then 0
    else if c.isAlpha then (c.toNat : Int)
    else if c == '~' then -2
    else (c.toNat : Int) + 256

def digit (cs : List Char) : Bool := cs.head?.any Char.isDigit

/-- Compares what comes before the next digits: the difference, or what is left of both texts. -/
def letters : Nat → List Char → List Char → Except Int (List Char × List Char)
  | 0, a, b => .ok (a, b)
  | fuel + 1, a, b =>
    if (!a.isEmpty && !digit a) || (!b.isEmpty && !digit b) then
      if weight a != weight b then .error (weight a - weight b) else letters fuel a.tail b.tail
    else .ok (a, b)

/-- Compares numbers. The one with more digits is the larger. -/
def digits (a b : List Char) : Except Int (List Char × List Char) :=
  let x := a.takeWhile Char.isDigit
  let y := b.takeWhile Char.isDigit
  if x.length != y.length then .error ((x.length : Int) - (y.length : Int))
  else
    match (x.zip y).find? fun p => p.1 != p.2 with
    | some (c, d) => .error ((c.toNat : Int) - (d.toNat : Int))
    | none => .ok (a.drop x.length, b.drop y.length)

def compareFrom : Nat → List Char → List Char → Int
  | 0, _, _ => 0
  | fuel + 1, a, b =>
    if a.isEmpty && b.isEmpty then 0
    else
      match letters (a.length + b.length) a b with
      | .error n => n
      | .ok (a, b) =>
        match digits (a.dropWhile (· == '0')) (b.dropWhile (· == '0')) with
        | .error n => n
        | .ok (a, b) => compareFrom fuel a b

/-- Compares all of two texts. -/
def compareAll (a b : List Char) : Int := compareFrom (a.length + b.length + 1) a b

/-- Passes endings such as `.tar.gz` from a place on. -/
def passEndings : Nat → List Char → List Char
  | 0, cs => cs
  | fuel + 1, cs =>
    match cs with
    | '.' :: c :: rest =>
      if c.isAlpha || c == '~' then
        passEndings fuel (rest.dropWhile fun d => d.isAlphanum || d == '~')
      else cs
    | _ => cs

/-- The length of a text without its endings. -/
def stem : Nat → Nat → Nat → List Char → Nat
  | 0, _, known, _ => known
  | fuel + 1, place, known, cs =>
    match cs with
    | [] => known
    | _ :: rest =>
      let after := passEndings (rest.length + 1) rest
      stem fuel (place + 1 + (rest.length - after.length)) (place + 1) after

/-- Compares two names. Those that start with a dot come first. -/
def compare (a b : List Char) : Int :=
  if a == b then 0
  else if a.isEmpty then -1
  else if b.isEmpty then 1
  else
    let rank (cs : List Char) : Nat :=
      if cs == ['.'] then 0 else if cs == ['.', '.'] then 1 else if cs.head? == some '.' then 2 else 3
    if rank a != rank b then (rank a : Int) - (rank b : Int)
    else
      let x := stem (a.length + 1) 0 0 a
      let y := stem (b.length + 1) 0 0 b
      let n := compareAll (a.take x) (b.take y)
      if n != 0 || (x == a.length && y == b.length) then n else compareAll a b

end Version

end Host.Tool

end PolicyGate
