import PolicyGate.Host.Raw
import PolicyGate.Host.Regex.Basic

/-!
# Patterns for names

A pattern fits a text as a whole. What is quoted in it stands for itself. In the rich notation a pattern
may hold groups of others, and may fit letters regardless of their case.
-/

namespace PolicyGate

namespace Host.Shell

inductive PatternItem where
  | any
  | one
  | letter (c : Char)
  | set (s : CharSet)
  /-- Other patterns, of which one fits, or several one behind another, or none. -/
  | group (sign : Char) (choices : List (List PatternItem))
  deriving Repr

namespace Pattern

/-- The characters of a pattern, and whether each is quoted. -/
abbrev Marked := List (Char × Bool)

/-- Reads the inside of a set up to its closing bracket, which may not come first. -/
def setBody : Nat → Bool → List (Char × Char) → Marked → Option (List (Char × Char) × Marked)
  | 0, _, _, _ => none
  | _ + 1, _, _, [] => none
  | fuel + 1, first, ranges, (c, q) :: cs =>
    if c == ']' && !q && !first then some (ranges, cs)
    else
      match c, cs with
      | '[', (':', false) :: more =>
        let name := (more.takeWhile (·.1 != ':')).map (·.1)
        match more.drop name.length, CharSet.classes.lookup (String.ofList name) with
        | _ :: (']', false) :: rest, some rs => setBody fuel false (ranges ++ rs) rest
        | _, _ => setBody fuel false (ranges ++ [(c, c)]) cs
      | c, ('-', false) :: (d, e) :: more =>
        if d == ']' && !e then setBody fuel false (ranges ++ [(c, c)]) cs
        else setBody fuel false (ranges ++ [(c, d)]) more
      | c, cs => setBody fuel false (ranges ++ [(c, c)]) cs

/-- Reads a set after its opening bracket. -/
def setAfter? (cs : Marked) : Option (CharSet × Marked) :=
  let negated := cs.head? == some ('!', false) || cs.head? == some ('^', false)
  let inside := if negated then cs.tail else cs
  (setBody (inside.length + 1) true [] inside).map fun (ranges, rest) => (⟨negated, ranges⟩, rest)

def itemsFrom : Nat → Marked → List PatternItem
  | 0, _ => []
  | _ + 1, [] => []
  | fuel + 1, (c, quoted) :: cs =>
    if quoted then .letter c :: itemsFrom fuel cs
    else if c == '*' then .any :: itemsFrom fuel cs
    else if c == '?' then .one :: itemsFrom fuel cs
    else if c == '\\' then
      match cs with
      | (d, _) :: rest => .letter d :: itemsFrom fuel rest
      | [] => [.letter c]
    else if c == '[' then
      match setAfter? cs with
      | some (s, rest) => .set s :: itemsFrom fuel rest
      | none => .letter c :: itemsFrom fuel cs
    else .letter c :: itemsFrom fuel cs

def items (cs : Marked) : List PatternItem := itemsFrom (cs.length + 1) cs

def accepts (c : Char) : PatternItem → Bool
  | .any | .one => true
  | .letter d => c == d
  | .set s => s.accepts false c
  | .group .. => false

/-- Whether a text fits a pattern. -/
def fits : List PatternItem → List Char → Bool
  | [], cs => cs.isEmpty
  | .any :: ps, [] => fits ps []
  | .any :: ps, c :: cs => fits ps (c :: cs) || fits (.any :: ps) cs
  | _ :: _, [] => false
  | p :: ps, c :: cs => accepts c p && fits ps cs
termination_by ps cs => ps.length + cs.length
decreasing_by all_goals (simp only [List.length_cons]; omega)

/-! ## Groups -/

/-- Splits what stands behind the opening bracket of a group at its bars: the texts between them and what
lies behind the group. -/
def groupParts : Nat → Marked → List Marked → Marked → Option (List Marked × Marked)
  | _, _, _, [] => none
  | depth, open_, done, (c, q) :: cs =>
    if q then groupParts depth ((c, q) :: open_) done cs
    else if c == '(' then groupParts (depth + 1) ((c, q) :: open_) done cs
    else if c == ')' then
      match depth with
      | 0 => some ((open_.reverse :: done).reverse, cs)
      | n + 1 => groupParts n ((c, q) :: open_) done cs
    else if c == '|' && depth = 0 then groupParts depth [] (open_.reverse :: done) cs
    else groupParts depth ((c, q) :: open_) done cs

def groupedFrom : Nat → Marked → List PatternItem
  | 0, _ => []
  | _ + 1, [] => []
  | fuel + 1, (c, quoted) :: cs =>
    let group : Option (List Marked × Marked) :=
      if quoted || !"?*+@!".toList.contains c then none
      else
        match cs with
        | ('(', false) :: rest => groupParts 0 [] [] rest
        | _ => none
    match group with
    | some (choices, rest) => .group c (choices.map (groupedFrom fuel)) :: groupedFrom fuel rest
    | none =>
      if !quoted && c == '[' then
        match setAfter? cs with
        | some (s, rest) => .set s :: groupedFrom fuel rest
        | none => .letter c :: groupedFrom fuel cs
      else
        let used := if !quoted && c == '\\' then 2 else 1
        itemsFrom 2 ((c, quoted) :: cs.take (used - 1)) ++ groupedFrom fuel (cs.drop (used - 1))

/-- The items of a pattern that may hold groups. -/
def groupedItems (cs : Marked) : List PatternItem := groupedFrom (cs.length + 1) cs

/-- All ends of a text, the longest first. -/
def endsOf : List Char → List (List Char)
  | [] => [[]]
  | c :: cs => (c :: cs) :: endsOf cs

/-- Each of some ends of a text once. -/
def distinct (ends : List (List Char)) : List (List Char) :=
  ends.foldl (fun done e => if done.any (·.length == e.length) then done else done ++ [e]) []

/-- What an item that is no group may leave of a text. -/
def plainRests (folds : Bool) (p : PatternItem) (cs : List Char) : List (List Char) :=
  match p, cs with
  | .any, cs => endsOf cs
  | .letter d, c :: rest => if c == d || (folds && c.toLower == d.toLower) then [rest] else []
  | .set s, c :: rest => if s.accepts folds c then [rest] else []
  | .one, _ :: rest => [rest]
  | _, _ => []

/-- What some items may leave of a text whose front they fit. -/
def rests (folds : Bool) : Nat → List PatternItem → List Char → List (List Char)
  | 0, _, _ => []
  | _ + 1, [], cs => [cs]
  | fuel + 1, .group sign choices :: ps, cs =>
    let once (cs : List Char) : List (List Char) := distinct (choices.flatMap fun c => rests folds fuel c cs)
    let again (ends : List (List Char)) : List (List Char) :=
      (List.range cs.length).foldl (fun found _ => distinct (found ++ found.flatMap once)) ends
    let ends := match sign with
      | '?' => distinct (cs :: once cs)
      | '*' => again [cs]
      | '+' => again (once cs)
      | '!' =>
        let fitted := once cs
        (endsOf cs).filter fun e => !fitted.any fun f => f.length == e.length
      | _ => once cs
    distinct (ends.flatMap fun e => rests folds fuel ps e)
  | fuel + 1, p :: ps, cs => distinct ((plainRests folds p cs).flatMap fun e => rests folds fuel ps e)

/-- How patterns are taken in the rich notation. -/
structure Style where
  grouped : Bool := false
  folds : Bool := false

/-- Whether a text fits a pattern as a whole. -/
def accepted (style : Style) (pattern : Marked) (cs : List Char) : Bool :=
  if style.grouped || style.folds then
    let ps := if style.grouped then groupedItems pattern else items pattern
    (rests style.folds (pattern.length + 2) ps cs).any List.isEmpty
  else fits (items pattern) cs

/-- Whether a pattern can fit more than one text. -/
def isOpen (cs : Marked) : Bool :=
  (items cs).any fun i =>
    match i with
    | .letter _ => false
    | _ => true

/-- A value without what fits a pattern at its front or its back. -/
def cut (style : Style) (back longest : Bool) (pattern : Marked) (value : Raw) : Raw :=
  let cs := value.toList
  let sizes := List.range (cs.length + 1)
  let size := (if longest then sizes.reverse else sizes).find? fun n =>
    accepted style pattern (if back then cs.drop (cs.length - n) else cs.take n)
  match size with
  | some n => String.ofList (if back then cs.take (cs.length - n) else cs.drop n)
  | none => value

end Pattern

end Host.Shell

end PolicyGate
