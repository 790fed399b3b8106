import PolicyGate.Host.Shell.Token

/-!
# Words for several words

In the rich notation a word with texts between braces stands for several words, one for each of the
texts, or for each step from one number or letter to another. Braces that hold neither stand for
themselves.
-/

namespace PolicyGate

namespace Host.Shell

namespace Braces

/-- A character that may mean something, or a part of a word that is taken as a whole. -/
inductive Atom where
  | letter (c : Char)
  | whole (p : Part)
  deriving DecidableEq, Repr

def atoms (w : Word) : List Atom :=
  w.flatMap fun p =>
    match p with
    | .text t false => t.toList.map .letter
    | p => [.whole p]

/-- The word that some atoms are. -/
def word (as : List Atom) : Word :=
  as.foldr (fun a w =>
    match a, w with
    | .letter c, .text t false :: rest => .text (c.toString ++ t) false :: rest
    | .letter c, w => .text c.toString false :: w
    | .whole p, w => p :: w) []

/-- Splits the atoms behind an opening brace at the brace that closes it, and what is between the two at
its commas: the texts and what lies behind. -/
def inside : Nat → List Atom → List (List Atom) → List Atom → Option (List (List Atom) × List Atom)
  | _, _, _, [] => none
  | depth, open_, done, a :: as =>
    if a == .letter '}' then
      match depth with
      | 0 => some ((open_.reverse :: done).reverse, as)
      | n + 1 => inside n (a :: open_) done as
    else if a == .letter '{' then inside (depth + 1) (a :: open_) done as
    else if a == .letter ',' && depth = 0 then inside depth [] (open_.reverse :: done) as
    else inside depth (a :: open_) done as

/-! ## Steps -/

/-- The characters of atoms, if they are no more than that. -/
def plain? (as : List Atom) : Option Raw :=
  let letter? (a : Atom) : Option Char :=
    match a with
    | .letter c => some c
    | .whole _ => none
  (as.mapM letter?).map String.ofList

def integer? (r : Raw) : Option Int :=
  let (negative, ds) := match r.toList with
    | '-' :: ds => (true, ds)
    | '+' :: ds => (false, ds)
    | ds => (false, ds)
  if ds.isEmpty || !ds.all Char.isDigit || 18 < ds.length then none
  else
    let n : Int := (ds.foldl (fun n c => 10 * n + (c.toNat - 48)) 0 : Nat)
    some (if negative then -n else n)

/-- The numbers from one to another. -/
def steps (a b step : Int) : List Int :=
  let size := if step = 0 then 1 else step.natAbs
  let count := (b - a).natAbs / size + 1
  (List.range count).map fun k => if a ≤ b then a + (k * size : Nat) else a - (k * size : Nat)

/-- A number with zeros in front, so that it is at least so long. -/
def padded (width : Nat) (n : Int) : Raw :=
  let digits := toString n.natAbs
  let sign : Raw := if n < 0 then "-" else ""
  sign ++ String.ofList (List.replicate (width - sign.length - digits.length) '0') ++ digits

/-- Whether a number is written with a zero in front. -/
def hasZero (r : Raw) : Bool :=
  match r.toList with
  | '0' :: _ :: _ => true
  | '-' :: '0' :: _ :: _ => true
  | _ => false

/-- The texts that steps stand for. -/
def sequence? (r : Raw) : Option (List Raw) :=
  let made (a b : Raw) (step : Int) : Option (List Raw) :=
    match integer? a, integer? b with
    | some x, some y =>
      let width := if hasZero a || hasZero b then max a.length b.length else 0
      if 100000 < (y - x).natAbs then none else some ((steps x y step).map (padded width))
    | _, _ =>
      match a.toList, b.toList with
      | [c], [d] =>
        if c.isAlpha && d.isAlpha then
          some ((steps c.toNat d.toNat step).map fun n => (Char.ofNat n.toNat).toString)
        else none
      | _, _ => none
  match r.splitOn ".." with
  | [a, b] => made a b 1
  | [a, b, c] => (integer? c).bind fun n => made a b n
  | _ => none

/-! ## Words -/

/-- The atoms of the words that some atoms stand for. -/
def expand : Nat → List Atom → List (List Atom)
  | 0, as => [as]
  | _ + 1, [] => [[]]
  | fuel + 1, a :: as =>
    let literally : List (List Atom) := (expand fuel as).map (a :: ·)
    if a != .letter '{' then literally
    else
      match inside 0 [] [] as with
      | none => literally
      | some ([only], rest) =>
        match (plain? only).bind sequence? with
        | some texts =>
          let ends := expand fuel rest
          texts.flatMap fun t => ends.map (t.toList.map Atom.letter ++ ·)
        | none => literally
      | some (texts, rest) =>
        let ends := expand fuel rest
        (texts.flatMap (expand fuel)).flatMap fun t => ends.map (t ++ ·)

/-- The words that a word stands for. -/
def words (w : Word) : List Word :=
  let as := atoms w
  if as.contains (.letter '{') then (expand (as.length + 1) as).map word else [w]

end Braces

end Host.Shell

end PolicyGate
