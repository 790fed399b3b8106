/-!
# Regular expressions

A regular expression fits parts of a line. The part it finds is the one that starts first and, of
those, the longest, or the one that is come upon first where the subject says so; what its groups fit
follows from taking each repetition as long as can be, from the left. A `Spot` is a place in the line
together with what the groups have fitted so far.
-/

namespace PolicyGate

namespace Host

/-- A set of characters, given by ranges. -/
structure CharSet where
  negated : Bool := false
  ranges : List (Char × Char)
  deriving DecidableEq, Repr

namespace CharSet

def one (c : Char) : CharSet := ⟨false, [(c, c)]⟩

def all : CharSet := ⟨true, []⟩

/-- The characters of words. -/
def word : List (Char × Char) := [('a', 'z'), ('A', 'Z'), ('0', '9'), ('_', '_')]

def blank : List (Char × Char) := [(' ', ' '), ('\t', '\r')]

/-- The classes that have a name. -/
def classes : List (String × List (Char × Char)) :=
  [("alpha", [('a', 'z'), ('A', 'Z')]), ("digit", [('0', '9')]),
    ("alnum", [('a', 'z'), ('A', 'Z'), ('0', '9')]), ("upper", [('A', 'Z')]), ("lower", [('a', 'z')]),
    ("space", blank), ("blank", [(' ', ' '), ('\t', '\t')]),
    ("punct", [('!', '/'), (':', '@'), ('[', '\x60'), ('\x7b', '~')]), ("print", [(' ', '~')]),
    ("graph", [('!', '~')]), ("cntrl", [('\x00', '\x1f'), ('\x7f', '\x7f')]),
    ("xdigit", [('0', '9'), ('a', 'f'), ('A', 'F')])]

def holds (ranges : List (Char × Char)) (c : Char) : Bool :=
  ranges.any fun r => r.1 ≤ c && c ≤ r.2

/-- Whether a character is in the set, perhaps regardless of its case. -/
def accepts (s : CharSet) (fold : Bool) (c : Char) : Bool :=
  (holds s.ranges c || (fold && (holds s.ranges c.toLower || holds s.ranges c.toUpper))) != s.negated

end CharSet

/-- What can hold of a place between characters. -/
inductive Edge where
  | start
  | finish
  /-- The end, or a newline that is the last character. -/
  | lastLine
  /-- The start, or behind a newline. -/
  | lineStart
  /-- The end, or in front of a newline. -/
  | lineFinish
  | wordStart
  | wordEnd
  /-- One of the two. -/
  | wordEdge
  /-- None of the two. -/
  | noWordEdge
  deriving DecidableEq, Repr

inductive Regex where
  | empty
  | set (s : CharSet)
  | edge (e : Edge)
  | seq (a b : Regex)
  | either (a b : Regex)
  | many (least : Nat) (most : Option Nat) (a : Regex)
  | group (number : Nat) (a : Regex)
  /-- What a group has fitted. -/
  | again (number : Nat)
  /-- Repetitions of which the fewest are tried first. -/
  | few (least : Nat) (most : Option Nat) (a : Regex)
  /-- Whether an expression fits what follows, or what stands before. -/
  | look (behind negated : Bool) (a : Regex)
  /-- The first way in which an expression fits, and no other. -/
  | once (a : Regex)
  /-- What is found starts here. It counts as group zero. -/
  | starts
  deriving Repr

/-- The greatest number of a group. -/
def Regex.groupCount : Regex → Nat
  | .group n a => max n a.groupCount
  | .seq a b | .either a b => max a.groupCount b.groupCount
  | .many _ _ a | .few _ _ a | .look _ _ a | .once a => a.groupCount
  | _ => 0

/-- A line that is searched. -/
structure Subject where
  chars : Array Char
  /-- Whether the case of letters does not matter. -/
  fold : Bool := false
  /-- Whether the first way to fit counts, rather than the longest. -/
  eager : Bool := false

/-- A place in a line, and the parts that groups have fitted. -/
structure Spot where
  index : Nat
  groups : List (Nat × (Nat × Nat)) := []
  deriving DecidableEq, Repr

namespace Regex

def isWordChar (c : Char) : Bool := CharSet.holds CharSet.word c

/-- Whether something holds of a place. -/
def Edge.holds (s : Subject) (i : Nat) (e : Edge) : Bool :=
  let before := i != 0 && (s.chars[i - 1]?).any isWordChar
  let after := (s.chars[i]?).any isWordChar
  match e with
  | .start => i == 0
  | .finish => i == s.chars.size
  | .lastLine => i == s.chars.size || (i + 1 == s.chars.size && s.chars[i]? == some '\n')
  | .lineStart => i == 0 || s.chars[i - 1]? == some '\n'
  | .lineFinish => i == s.chars.size || s.chars[i]? == some '\n'
  | .wordStart => !before && after
  | .wordEnd => before && !after
  | .wordEdge => before != after
  | .noWordEdge => before == after

/-- The spots without those at a place where another is already. -/
def distinct (spots : List Spot) : List Spot :=
  let step : Array Bool × List Spot → Spot → Array Bool × List Spot := fun (seen, kept) p =>
    if seen.getD p.index false then (seen, kept)
    else (seen.setIfInBounds p.index true, p :: kept)
  match spots with
  | [] => []
  | [p] => [p]
  | _ =>
    let size := spots.foldl (fun n p => max n (p.index + 1)) 0
    (spots.foldl step (Array.replicate size false, [])).2.reverse

/-- The places up to which a set repeats, the farthest first. -/
def run (s : Subject) (cls : CharSet) (most : Option Nat) : Nat → Nat → List Nat → List Nat
  | 0, i, found => i :: found
  | fuel + 1, i, found =>
    if most == some 0 then i :: found
    else if (s.chars[i]?).any (cls.accepts s.fold) then
      run s cls (most.map (· - 1)) fuel (i + 1) (i :: found)
    else i :: found

/-- The spots that repetitions of `next` lead to, the longest first. Past the least number a
repetition has to get ahead. -/
def climb (next : Spot → List Spot) (least : Nat) (most : Option Nat) :
    Nat → Nat → List Nat → List Spot → List Spot
  | 0, _, _, _ => []
  | fuel + 1, level, seen, spots =>
    let here := if least ≤ level then spots else []
    if most == some level then here
    else
      let seen := if least ≤ level then spots.map (·.index) ++ seen else seen
      let further := (distinct (spots.flatMap next)).filter fun p => !seen.contains p.index
      if further.isEmpty then here
      else climb next least most fuel (level + 1) seen further ++ here

/-- The spots that repetitions of `next` lead to, the shortest first. -/
def stroll (next : Spot → List Spot) (least : Nat) (most : Option Nat) :
    Nat → Nat → List Nat → List Spot → List Spot
  | 0, _, _, _ => []
  | fuel + 1, level, seen, spots =>
    let here := if least ≤ level then spots else []
    if most == some level then here
    else
      let seen := if least ≤ level then spots.map (·.index) ++ seen else seen
      let further := (distinct (spots.flatMap next)).filter fun p => !seen.contains p.index
      if further.isEmpty then here
      else here ++ stroll next least most fuel (level + 1) seen further

/-- Whether a part of a line stands at a place once more. -/
def repeatsAt (s : Subject) (start size : Nat) (i : Nat) : Bool :=
  (List.range size).all fun k =>
    match s.chars[start + k]?, s.chars[i + k]? with
    | some c, some d => c == d || (s.fold && c.toLower == d.toLower)
    | _, _ => false

/-- The spots behind the parts that an expression fits, in order of preference. -/
def ends (s : Subject) : Regex → Spot → List Spot
  | .empty, p => [p]
  | .set cls, p =>
    if (s.chars[p.index]?).any (cls.accepts s.fold) then [{ p with index := p.index + 1 }] else []
  | .edge e, p => if Edge.holds s p.index e then [p] else []
  | .seq a b, p => distinct ((ends s a p).flatMap (ends s b))
  | .either a b, p => distinct (ends s a p ++ ends s b p)
  | .many least most (.set cls), p =>
    ((run s cls most (s.chars.size + 1) p.index []).filter fun i => p.index + least ≤ i).map
      fun i => { p with index := i }
  | .many least most a, p =>
    distinct (climb (ends s a) least most (s.chars.size + least + 2) 0 [] [p])
  | .group n a, p =>
    (ends s a p).map fun q =>
      { q with groups := (n, (p.index, q.index)) :: q.groups.filter (·.1 != n) }
  | .again n, p =>
    match p.groups.lookup n with
    | some (start, stop) =>
      if repeatsAt s start (stop - start) p.index then
        [{ p with index := p.index + (stop - start) }]
      else []
    | none => []
  | .few least most a, p =>
    distinct (stroll (ends s a) least most (s.chars.size + least + 2) 0 [] [p])
  | .look false negated a, p =>
    match (ends s a p).head? with
    | some q => if negated then [] else [{ q with index := p.index }]
    | none => if negated then [p] else []
  | .look true negated a, p =>
    let fits := (List.range (p.index + 1)).any fun i =>
      (ends s a { p with index := p.index - i }).any fun q => q.index == p.index
    if fits == negated then [] else [p]
  | .once a, p => (ends s a p).take 1
  | .starts, p => [{ p with groups := (0, (p.index, p.index)) :: p.groups.filter (·.1 != 0) }]

/-- The longest of some spots, and of equally long ones the first. -/
def longest : List Spot → Option Spot
  | [] => none
  | p :: ps => some (ps.foldl (fun best q => if best.index < q.index then q else best) p)

/-- What an expression fits: where that starts, where it ends, and what the groups fit. -/
structure Found where
  start : Nat
  stop : Nat
  groups : List (Nat × (Nat × Nat)) := []
  deriving DecidableEq, Repr

/-- Tries the places from `i` on. -/
def searchFrom (s : Subject) (r : Regex) : Nat → Nat → Option Found
  | 0, _ => none
  | fuel + 1, i =>
    let spots := ends s r ⟨i, []⟩
    match (if s.eager then spots.head? else longest spots) with
    | some p => some ⟨((p.groups.lookup 0).map (·.1)).getD i, p.index, p.groups⟩
    | none => searchFrom s r fuel (i + 1)

/-- What an expression finds at a place or behind it. -/
def search (s : Subject) (r : Regex) (i : Nat) : Option Found :=
  searchFrom s r (s.chars.size + 1 - i) i

end Regex

end Host

end PolicyGate
