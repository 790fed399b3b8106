import PolicyGate.Host.Tool.List
import PolicyGate.Host.Tool.Search

/-!
# The space that files take

What lies at a path and below it is summed up, directory by directory. A node with several names counts
once. Sizes are those of whole blocks, of the contents, or one for each node.
-/

namespace PolicyGate

namespace Host.Tool

/-- What is counted. -/
inductive Measure where
  | blocks
  | contents
  | nodes
  deriving DecidableEq

/-- How a size is written. -/
inductive SizeScale where
  /-- In whole units of so many bytes, with letters behind. -/
  | units (size : Nat) (letters : Raw)
  /-- In the unit that fits, each so many of the one before. -/
  | fitting (base : Nat)

def SizeScale.text : SizeScale → Nat → Raw
  | .units size letters, n => toString ((n + size - 1) / max size 1) ++ letters
  | .fitting 1000, n => scaledSize 1000 "kMGTPE".toList n
  | .fitting base, n => scaledSize base "KMGTPE".toList n

/-- Reads a unit such as `4096`, `K` or `2MB`. A unit without a number is written behind each size. -/
def sizeScale? (r : Raw) : Option SizeScale :=
  if r == "human-readable" then some (.fitting 1024)
  else if r == "si" then some (.fitting 1000)
  else
    let digits := r.toList.takeWhile Char.isDigit
    let letters := r.toList.drop digits.length
    let n := if digits.isEmpty then 1 else numeral digits
    let shown (t : List Char) : Raw := if digits.isEmpty then String.ofList t else ""
    let power (base : Nat) (c : Char) : Option Nat :=
      ("KMGTPEZY".toList.idxOf? c.toUpper).map fun i => n * Nat.pow base (i + 1)
    let scale : Option SizeScale := match letters with
      | [] => if digits.isEmpty || n = 0 then none else some (.units n "")
      | [c] => (power 1024 c).map fun k => .units k (shown [if c == 'k' then 'K' else c])
      | [c, 'B'] => (power 1000 c).map fun k => .units k (shown [if c == 'K' then 'k' else c, 'B'])
      | [c, 'i', 'B'] => (power 1024 c).map fun k => .units k (shown [c, 'i', 'B'])
      | _ => none
    scale

def duKnown : Known :=
  { tool := "du", plain := "abchkmsxSLlDPH0AiI", withArgument := "dBZteF"
    long := [("all", 'a'), ("bytes", 'b'), ("total", 'c'), ("human-readable", 'h'), ("summarize", 's'),
      ("max-depth", 'd'), ("apparent-size", 'A'), ("block-size", 'Z'), ("count-links", 'l'),
      ("dereference", 'L'), ("dereference-args", 'D'), ("no-dereference", 'P'), ("inodes", 'I'),
      ("null", '0'), ("one-file-system", 'x'), ("separate-dirs", 'S'), ("si", 'i'),
      ("threshold", 't'), ("exclude", 'e'), ("files0-from", 'F')] }

/-- A place with what it takes by itself and whether that is in a directory. -/
structure Taken where
  loc : List String
  node : Node
  own : Nat

/-- What lies at a place and below it, each node once. The numbers of the nodes that have been counted
go along. -/
def takenBelow (files : Files) (m : Measure) (twice : Bool) (isOut : List String → Bool)
    (seen : List Nat) (loc : List String) : List Taken × List Nat :=
  let step : List Taken × List Nat → List String → List Taken × List Nat := fun (done, seen) loc =>
    match files.node? loc with
    | none => (done, seen)
    | some (number, node) =>
      if isOut loc || (!twice && !node.isDirectory && seen.contains number) then (done, seen)
      else
        let own := match m with
          | .blocks => 1024 * blocksOf node
          | .contents => if node.isDirectory then 0 else node.size
          | .nodes => 1
        (⟨loc, node, own⟩ :: done, number :: seen)
  let (done, seen) := (placesBelow files loc).foldl step ([], seen)
  (done.reverse, seen)

/-- The letters among the options that say how sizes are written, the last of them. -/
def usageScale (o : Options) (m : Measure) : SizeScale :=
  let step : SizeScale → Char × Raw → SizeScale := fun scale (c, r) =>
    match c with
    | 'b' => .units 1 ""
    | 'k' => .units 1024 ""
    | 'm' => .units 1048576 ""
    | 'h' => .fitting 1024
    | 'i' => .fitting 1000
    | 'B' | 'Z' => (sizeScale? r).getD scale
    | _ => scale
  o.given.foldl step (if m = .nodes then .units 1 "" else .units 1024 "")

/-- A size with a sign, below or above which nothing is told. -/
def threshold? (r : Raw) : Option (Nat → Bool) :=
  if r.startsWith "-" then
    (count? (String.ofList (r.toList.drop 1))).bind fun n =>
      if n = 0 then none else some fun size => size ≤ n
  else (count? r).map fun n size => n ≤ size

/-- How far below a path directories are told. Below zero there is no limit. -/
def depthLimit? (r : Raw) : Option Nat :=
  if r.startsWith "-" && isNumeral (String.ofList (r.toList.drop 1)) then some 1000000
  else if isNumeral r then some (numeral r.toList)
  else none

/-- What is wrong with the values of the options of `du`. -/
def usageFault? (k : Known) (o : Options) : Option Ran :=
  let depth := o.value? 'd'
  let bad : Option (Raw × Raw) := o.given.findSome? fun (c, r) =>
    match c with
    | 'B' => if (sizeScale? r).isNone then some ("-B", r) else none
    | 'Z' => if (sizeScale? r).isNone then some ("--block-size", r) else none
    | 't' => if (threshold? r).isNone then some ("-t", r) else none
    | _ => none
  match depth.filter fun d => (depthLimit? d).isNone, bad with
  | some d, _ => some (k.refuse ("invalid maximum depth " ++ quoted d))
  | none, some (option, r) => some (complain ("du: invalid " ++ option ++ " argument " ++ quoted r) 1)
  | none, none =>
    if o.has 'a' && o.has 's' then some (k.refuse "cannot both summarize and show all entries")
    else
      match o.has 's', depth with
      | true, some d =>
        if depthLimit? d == some 0 then none
        else some (k.refuse ("warning: summarizing conflicts with --max-depth=" ++ d))
      | _, _ => none

def du (s : Scene) (args : List Raw) : Ran :=
  let k := duKnown
  k.run args fun o =>
    match usageFault? k o with
    | some r => r
    | none =>
      let m : Measure := if o.has 'I' then .nodes else if o.has 'b' || o.has 'A' then .contents else .blocks
      let scale := usageScale o m
      let ending : UInt8 := if o.has '0' then 0 else 0x0A
      let depth := if o.has 's' then 0 else ((o.value? 'd').bind depthLimit?).getD 1000000
      let fits := ((o.value? 't').bind threshold?).getD fun _ => true
      let line (w : Work) (size : Nat) (name : Raw) : Work :=
        w.put false (Raw.toBytes (scale.text size ++ "\t" ++ name) ++ [ending])
      let step : Work × Nat × List Nat → Raw → Work × Nat × List Nat := fun (w, sum, seen) p =>
        match if o.has 'L' || o.has 'D' || o.has 'H' then s.reach p else s.reachName p with
        | .error e => (w.fail ("du: cannot access " ++ quoted p ++ ": " ++ reason e), sum, seen)
        | .ok r =>
          let named (loc : List String) : Raw :=
            p ++ String.join ((loc.drop r.loc.length).map fun n => "/" ++ Raw.ofText n)
          let isOut (loc : List String) : Bool :=
            (List.range (loc.length - r.loc.length + 1)).any fun i =>
              fitsName (o.values 'e') (named (loc.take (r.loc.length + i)))
          let (all, seen) := takenBelow s.files m (o.has 'l') isOut seen r.loc
          let whole (t : Taken) : Nat :=
            let mine := all.filter fun u => t.loc.isPrefixOf u.loc &&
              (!o.has 'S' || u.loc == t.loc || (!u.node.isDirectory && u.loc.dropLast == t.loc))
            (mine.map (·.own)).foldl (· + ·) 0
          let shown := all.filter fun t =>
            (t.loc == r.loc || (t.loc.length ≤ r.loc.length + depth && (o.has 'a' || t.node.isDirectory)))
          let w := shown.foldl (fun w t => if fits (whole t) then line w (whole t) (named t.loc) else w) w
          (w, sum + (all.map (·.own)).foldl (· + ·) 0, seen)
      let start : Work := { files := s.files }
      let start := if o.has 's' && (o.value? 'd').isSome then
          start.put true (ended "du: warning: summarizing is the same as using --max-depth=0") else start
      let listed : Except Raw (List Raw) := match o.value? 'F' with
        | some p =>
          match contents? s p with
          | .ok t => .ok (((linesEndedBy 0 t.bytes).map fun l =>
              Raw.ofBytes (if l.getLast? == some 0 then l.dropLast else l)).filter (!·.isEmpty))
          | .error e => .error ("du: cannot open " ++ quoted p ++ " for reading: " ++ e)
        | none => .ok (if o.operands.isEmpty then ["."] else o.operands)
      match listed with
      | .error e => complain e 1
      | .ok paths =>
        let (w, sum, _) := paths.foldl step (start, 0, [])
        (if o.has 'c' then line w sum "total" else w).ran

end Host.Tool

end PolicyGate
