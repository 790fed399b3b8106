import PolicyGate.Host.Tool.Basic

/-!
# Tools for paths

They cut paths into names, and say where paths lead.
-/

namespace PolicyGate

namespace Host.Tool

/-! ## Parts of paths -/

/-- The last name in a path. -/
def baseName (path : Raw) : Raw :=
  let cs := (path.toList.reverse.dropWhile (· == '/')).reverse
  if cs.isEmpty then (if path.isEmpty then "" else "/")
  else String.ofList (cs.reverse.takeWhile (· != '/')).reverse

/-- A path without its last name. -/
def dirName (path : Raw) : Raw :=
  let cs := (path.toList.reverse.dropWhile (· == '/')).reverse
  let rest := (cs.reverse.dropWhile (· != '/')).dropWhile (· == '/')
  if rest.isEmpty then (if path.startsWith "/" then "/" else ".") else String.ofList rest.reverse

/-- A name without an ending, unless that is all of it. -/
def withoutEnding (name ending : Raw) : Raw :=
  if name.endsWith ending && name != ending then
    String.ofList (name.toList.take (name.length - ending.length))
  else name

def missingOperand (k : Known) : Ran := k.refuse "missing operand"

/-- What ends each path that is shown. -/
def pathEnd (o : Options) : Raw := if o.has 'z' then "\x00" else "\n"

def dirname (args : List Raw) : Ran :=
  let k : Known := { tool := "dirname", plain := "z", long := [("zero", 'z')] }
  k.run args fun o =>
    if o.operands.isEmpty then missingOperand k
    else said (String.join (o.operands.map fun p => dirName p ++ pathEnd o)) 0

def basename (args : List Raw) : Ran :=
  let k : Known :=
    { tool := "basename", plain := "az", withArgument := "s", mixed := false
      long := [("multiple", 'a'), ("suffix", 's'), ("zero", 'z')] }
  k.run args fun o =>
    let many := o.has 'a' || o.has 's'
    match o.operands with
    | [] => missingOperand k
    | p :: rest =>
      if many then
        let ending := (o.value? 's').getD ""
        said (String.join ((p :: rest).map fun p => withoutEnding (baseName p) ending ++ pathEnd o)) 0
      else
        match rest with
        | _ :: extra :: _ => k.refuse ("extra operand " ++ quoted extra)
        | rest => said (withoutEnding (baseName p) (rest.head?.getD "") ++ pathEnd o) 0

/-! ## Where paths lead -/

/-- The path from the root on that leads to a place. -/
def pathOf (loc : List String) : Raw := Raw.ofText ("/" ++ "/".intercalate loc)

def pwd (s : Scene) : Ran := said (pathOf s.home ++ "\n") 0

/-- The names of a path without steps back, whatever is there. -/
def plainNames (start : List String) (path : String) : List String :=
  (names path).foldl (fun loc n =>
    if n.isEmpty || n == "." then loc else if n == ".." then loc.dropLast else loc ++ [n]) start

/-- How far a path may lead nowhere. -/
inductive Strictness where
  | full
  | lastMayMiss
  | anyMayMiss
  deriving DecidableEq, Repr

/-- Where a path leads. -/
def located (s : Scene) (strict : Strictness) (path : Raw) : Except PathFault (List String) :=
  match strict with
  | .full => (s.reach path).map (·.loc)
  | .lastMayMiss => s.place path
  | .anyMayMiss =>
    match s.place path with
    | .ok loc => .ok loc
    | .error .notFound | .error .notADirectory =>
      if path.isEmpty then .error .notFound
      else
        let text := Raw.toText path
        .ok (plainNames (if text.startsWith "/" then [] else s.home) text)
    | .error e => .error e

/-- The way from one place to another. -/
def relativePath (base loc : List String) : Raw :=
  let shared := ((base.zip loc).takeWhile fun p => p.1 == p.2).length
  let up := List.replicate (base.length - shared) ".."
  let steps := up ++ loc.drop shared
  Raw.ofText (if steps.isEmpty then "." else "/".intercalate steps)

/-! ## Names that travel -/

/-- What keeps a path from being a name elsewhere. Names for everyone have few kinds of characters, and are
short; names for tools do not start with a dash. -/
def pathFault? (s : Scene) (forAll forTools : Bool) (p : Raw) : Option Raw :=
  let parts := p.splitOn "/"
  let isFine (c : Char) : Bool := c.isAlphanum || c == '.' || c == '_' || c == '-' || c == '/'
  let most : Nat := if forAll then 14 else 255
  let limit (n length : Nat) (what shown : Raw) : Option Raw :=
    some ("limit " ++ toString n ++ " exceeded by length " ++ toString length ++ " of file name " ++
      what ++ quoted shown)
  if forTools && parts.any (·.startsWith "-") then
    some ("leading '-' in a component of file name " ++ quoted p)
  else if (forAll || forTools) && p.isEmpty then some "empty file name"
  else
    match if forAll then p.toList.find? fun c => !isFine c else none with
    | some c =>
      let shown := if c.toNat < 128 then quoted c.toString else
        "'\\" ++ String.ofList (Nat.toDigits 8 c.toNat) ++ "'"
      some ("non-portable character " ++ shown ++ " in file name " ++ quoted p)
    | none =>
      let missing : Option Raw := match s.reachName p with
        | .ok _ => none
        | .error .notFound => if p.isEmpty then some (quoted p ++ ": " ++ reason .notFound) else none
        | .error e => some (p ++ ": " ++ reason e)
      if !forAll && (parts.any fun n => 255 < n.length) then some (p ++ ": File name too long")
      else if !forAll && missing.isSome then missing
      else if forAll && 255 < p.length then limit 255 p.length "" p
      else
        match parts.find? fun n => most < n.length with
        | some n => limit most n.length "component " n
        | none => none

def pathchk (s : Scene) (args : List Raw) : Ran :=
  let k : Known := { tool := "pathchk", plain := "pPA", long := [("portability", 'A')] }
  k.run args fun o =>
    if o.operands.isEmpty then missingOperand k
    else
      let faults := o.operands.filterMap fun p =>
        (pathFault? s (o.has 'p' || o.has 'A') (o.has 'P' || o.has 'A') p).map fun e =>
          complaint ("pathchk: " ++ e)
      { writes := faults, status := if faults.isEmpty then 0 else 1 }

def realpathKnown : Known :=
  { tool := "realpath", plain := "eLmPqsz", withArgument := "TB"
    long := [("canonicalize-existing", 'e'), ("canonicalize-missing", 'm'), ("logical", 'L'),
      ("physical", 'P'), ("quiet", 'q'), ("relative-to", 'T'), ("relative-base", 'B'),
      ("strip", 's'), ("no-symlinks", 's'), ("zero", 'z')] }

def realpath (s : Scene) (args : List Raw) : Ran :=
  let k := realpathKnown
  k.run args fun o =>
    if o.operands.isEmpty then missingOperand k
    else
      let strict := if o.has 'e' then .full else if o.has 'm' then .anyMayMiss else Strictness.lastMayMiss
      let loc (p : Raw) : Except PathFault (List String) :=
        if o.has 's' && !p.isEmpty then
          let text := Raw.toText p
          .ok (plainNames (if text.startsWith "/" then [] else s.home) text)
        else located s strict p
      let base := (o.value? 'T').bind fun p => (loc p).toOption
      let below := (o.value? 'B').bind fun p => (loc p).toOption
      let shown (l : List String) : Raw :=
        match base, below with
        | some b, none => relativePath b l
        | some b, some w => if w.isPrefixOf l then relativePath b l else pathOf l
        | none, some w => if w.isPrefixOf l then relativePath w l else pathOf l
        | none, none => pathOf l
      (o.operands.foldl (fun (w : Work) p =>
        match loc p with
        | .ok l => { w with shown := (false, Raw.toBytes (shown l ++ pathEnd o)) :: w.shown }
        | .error e =>
          if o.has 'q' then { w with status := 1 }
          else w.fail ("realpath: " ++ (if p.isEmpty then "''" else p) ++ ": " ++ reason e))
        { files := s.files }).ran

def readlinkKnown : Known :=
  { tool := "readlink", plain := "efmnqsvz"
    long := [("canonicalize", 'f'), ("canonicalize-existing", 'e'), ("canonicalize-missing", 'm'),
      ("no-newline", 'n'), ("quiet", 'q'), ("silent", 's'), ("verbose", 'v'), ("zero", 'z')] }

def readlink (s : Scene) (args : List Raw) : Ran :=
  let k := readlinkKnown
  k.run args fun o =>
    if o.operands.isEmpty then missingOperand k
    else
      let follows := o.has 'f' || o.has 'e' || o.has 'm'
      let strict := if o.has 'e' then .full else if o.has 'm' then .anyMayMiss else Strictness.lastMayMiss
      let ending := if o.has 'n' && o.operands.length = 1 then "" else pathEnd o
      let target (p : Raw) : Except Raw Raw :=
        if follows then
          match located s strict p with
          | .ok l => .ok (pathOf l)
          | .error e => .error (reason e)
        else
          match s.reachName p with
          | .ok r =>
            match r.node.content with
            | .link t => .ok (Raw.ofText t)
            | _ => .error "Invalid argument"
          | .error e => .error (reason e)
      (o.operands.foldl (fun (w : Work) p =>
        match target p with
        | .ok t => { w with shown := (false, Raw.toBytes (t ++ ending)) :: w.shown }
        | .error e =>
          if o.has 'v' then w.fail ("readlink: " ++ p ++ ": " ++ e) else { w with status := 1 })
        { files := s.files }).ran

end Host.Tool

end PolicyGate
