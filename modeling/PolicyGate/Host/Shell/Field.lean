import PolicyGate.Host.Files
import PolicyGate.Host.Shell.Pattern

/-!
# Fields

An expanded word is cut into fields at the characters that separate them. Only what has come from an
expansion without quotes is cut. A field with an open pattern stands for the paths that fit it.
-/

namespace PolicyGate

namespace Host.Shell

/-- Where a piece of an expanded word has come from. -/
inductive Origin where
  | literal
  | quoted
  | expanded
  deriving DecidableEq, Repr

/-- A piece of an expanded word. -/
inductive Piece where
  | text (r : Raw) (origin : Origin)
  /-- The end of one argument among all of them. -/
  | cut
  /-- All of no arguments. -/
  | gap
  deriving DecidableEq, Repr

namespace Piece

/-- The pieces as one text. -/
def joined (ps : List Piece) : Raw :=
  String.join (ps.map fun p =>
    match p with
    | .text r _ => r
    | .cut => " "
    | .gap => "")

/-- The characters of the pieces, and whether each is quoted. -/
def marked (ps : List Piece) : Pattern.Marked :=
  ps.flatMap fun p =>
    match p with
    | .text r o => r.toList.map fun c => (c, o == .quoted)
    | .cut => [(' ', true)]
    | .gap => []

end Piece

/-- The fields of a word: the finished ones and the characters of the open one, all in reverse. -/
structure Fields where
  done : List Pattern.Marked := []
  current : Option Pattern.Marked := none
  /-- Whether a blank has ended the last field and no other separator has come. -/
  blankEnd : Bool := false

namespace Fields

def finish (f : Fields) : Fields :=
  match f.current with
  | some cs => { f with done := cs.reverse :: f.done, current := none }
  | none => f

def add (f : Fields) (cs : Pattern.Marked) : Fields :=
  { f with current := some (cs.reverse ++ f.current.getD []), blankEnd := false }

/-- Takes in a separator. Blanks around another separator belong to it. -/
def separate (f : Fields) (blank : Bool) : Fields :=
  match f.current, blank with
  | some _, true => { f.finish with blankEnd := true }
  | some _, false => { f.finish with blankEnd := false }
  | none, true => f
  | none, false =>
    if f.blankEnd then { f with blankEnd := false } else { f with done := [] :: f.done }

def isBlank (c : Char) : Bool := c == ' ' || c == '\t' || c == '\n'

def addPiece (separators : List Char) (f : Fields) : Piece → Fields
  | .text r .quoted => f.add (r.toList.map (·, true))
  | .text r .literal => if r.isEmpty then f else f.add (r.toList.map (·, false))
  | .text r .expanded =>
    r.toList.foldl (fun f c =>
      if separators.contains c then f.separate (isBlank c) else f.add [(c, false)]) f
  | .cut => { f.finish with blankEnd := false }
  | .gap => f

/-- Cuts an expanded word into fields. -/
def ofPieces (separators : Raw) (ps : List Piece) : List Pattern.Marked :=
  ((ps.foldl (addPiece separators.toList) {}).finish).done.reverse

end Fields

/-! ## Paths -/

/-- The text of a field. -/
def plainText (cs : Pattern.Marked) : Raw := String.ofList (cs.map (·.1))

/-- How paths are found for patterns. -/
structure Search where
  style : Pattern.Style := {}
  /-- Whether names with a point in front need none in the pattern. -/
  dots : Bool := false
  /-- Whether a point in front of a pattern leaves out a directory and the one above it. -/
  skips : Bool := false
  /-- Whether a pattern that no path fits stands for nothing. -/
  vanishes : Bool := false

/-- Whether a pattern can fit more than one text. -/
def Search.isOpen (g : Search) (part : Pattern.Marked) : Bool :=
  Pattern.isOpen part || (g.style.grouped && (Pattern.groupedItems part).any fun i =>
    match i with
    | .group .. => true
    | _ => false)

/-- The paths that fit the rest of a pattern, part by part, given those that fit its start. -/
def pathsFrom (g : Search) (files : Files) (home : List String) :
    List (Raw × Bool) → List Pattern.Marked → List Raw
  | starts, [] =>
    starts.filterMap fun (p, sure) =>
      if sure || (Host.reachName files home (Raw.toText p)).toOption.isSome then some p else none
  | starts, part :: rest =>
    let further := starts.flatMap fun (p, _) =>
      let lead := if p.isEmpty || p.endsWith "/" then p else p ++ "/"
      if part.isEmpty then [(lead, false)]
      else if !g.isOpen part then
        [(lead ++ String.ofList ((Pattern.items part).filterMap fun i =>
          match i with
          | .letter c => some c
          | _ => none), false)]
      else
        match Host.reach files home (Raw.toText (if lead.isEmpty then "." else lead)) with
        | .ok r =>
          if !r.node.isDirectory then []
          else
            let dotted := part.head?.any (·.1 == '.')
            let inside := (if dotted && !g.skips then [".", ".."] else []) ++ files.namesIn r.loc
            inside.filterMap fun n =>
              let n := Raw.ofText n
              if n.startsWith "." && !dotted && !g.dots then none
              else if Pattern.accepted g.style part n.toList then some (lead ++ n, true) else none
        | .error _ => []
    pathsFrom g files home further rest

/-- The paths that fit a pattern, in order. -/
def pathsFitting (g : Search) (files : Files) (home : List String) (pattern : Pattern.Marked) : List Raw :=
  let parts := pattern.splitOnP fun c => c.1 == '/'
  let found := match parts with
    | [] :: rest => pathsFrom g files home [("/", true)] rest
    | ps => pathsFrom g files home [("", true)] ps
  found.mergeSort fun a b => !(b < a)

/-- What a field stands for. One whose pattern no path fits stands for itself. -/
def resolved (g : Search) (files : Files) (home : List String) (expands : Bool) (field : Pattern.Marked) :
    List Raw :=
  let isCandidate := field.any fun c => !c.2 &&
    (c.1 == '*' || c.1 == '?' || c.1 == '[' || (g.style.grouped && c.1 == '('))
  if !expands || !isCandidate || !g.isOpen field then [plainText field]
  else
    match pathsFitting g files home field with
    | [] => if g.vanishes then [] else [plainText field]
    | ps => ps

end Host.Shell

end PolicyGate
