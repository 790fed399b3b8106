import PolicyGate.Host.Shell.Program
import PolicyGate.Host.Shell.RichBuiltin

/-!
# What names mean to rich scripts

A name may mean several things at once, of which the first counts. `type` tells of them, and `hash`
keeps where programs have been found.
-/

namespace PolicyGate

namespace Host.Shell

/-- Something that a name means. -/
inductive Meaning where
  /-- Another text. -/
  | text (r : Raw)
  | keyword
  | function
  | builtin
  /-- A program, by its path, and whether that has been looked up before. -/
  | file (path : Raw) (known : Bool)
  deriving DecidableEq, Repr

namespace Meaning

/-- The one word for a meaning. -/
def kind : Meaning → Raw
  | .text _ => "alias"
  | .keyword => "keyword"
  | .function => "function"
  | .builtin => "builtin"
  | .file .. => "file"

/-- What is told of a name. -/
def told (name : Raw) : Meaning → Raw
  | .text r => name ++ " is aliased to \x60" ++ r ++ "'"
  | .keyword => name ++ " is a shell keyword"
  | .function => name ++ " is a function"
  | .builtin => name ++ " is a shell builtin"
  | .file path known => name ++ (if known then " is hashed (" ++ path ++ ")" else " is " ++ path)

/-- What leads to a name again. -/
def brief (name : Raw) : Meaning → Raw
  | .text r => "alias " ++ name ++ "=" ++ Quote.single r
  | .file path _ => path
  | _ => name

end Meaning

namespace State

/-- The paths of the programs that a name leads to. -/
def programPaths (s : State) (name : Raw) : List Raw :=
  if name.isEmpty then []
  else if name.toList.contains '/' then
    if (programAt s name).toOption.isSome then [name] else []
  else
    ((searchPath s).map fun dir => if dir.isEmpty then "./" ++ name else Tool.inside dir name).filter
      fun p => (s.node? p).any fun n => n.isFile && n.isExecutable

/-- What a name means, the first meaning first. -/
def meanings (s : State) (name : Raw) (functions all : Bool) : List Meaning :=
  let aliased := if s.hasSetting "expand_aliases" then (s.aliases.lookup name).map Meaning.text else none
  let isKeyword := Script.reservedWords.contains name || Script.richWords.contains name
  let known := if all then none else (s.tracked.lookup name).map fun p => Meaning.file p true
  aliased.toList ++ (if isKeyword then [.keyword] else []) ++
    (if functions && (s.functions.lookup name).isSome then [.function] else []) ++
    (if s.isRichBuiltin name then [.builtin] else []) ++ known.toList ++
    (s.programPaths name).map fun p => .file p false

def richType (s : State) (args : List Raw) : State :=
  s.withOptions "type" "afptP" "" false args fun g =>
    g.words.foldl (fun s name =>
      let all := g.has 'a'
      let found := if g.has 'P' then (s.programPaths name).map fun p => Meaning.file p false
        else s.meanings name (!g.has 'f') all
      let found := if all then found else found.take 1
      if found.isEmpty then
        if g.has 't' || g.has 'p' || g.has 'P' then s.withStatus 1
        else s.refuse "type" (name ++ ": not found") 1
      else
        let line (m : Meaning) : Option Raw :=
          if g.has 'p' || g.has 'P' then
            match m with
            | .file path _ => some path
            | _ => none
          else if g.has 't' then some m.kind
          else some (m.told name)
        s.say (String.join (found.filterMap fun m => (line m).map (· ++ "\n")))) (s.withStatus 0)

/-- Tells where names lead, or what they are. -/
def tellNames (s : State) (long : Bool) (names : List Raw) : State :=
  let told := names.map fun n => (n, (s.meanings n true false).head?)
  let t := told.foldl (fun s (n, m) =>
    match m with
    | some m => s.say ((if long then m.told n else m.brief n) ++ "\n")
    | none => if long then s.refuse "command" (n ++ ": not found") 1 else s) s
  t.withStatus (if told.any (·.2.isSome) then 0 else 1)

def richHash (s : State) (args : List Raw) : State :=
  s.withOptions "hash" "lrtd" "p" false args fun g =>
    let s := (if g.has 'r' then { s with tracked := [] } else s).withStatus 0
    let forget (n : Raw) (s : State) : State := { s with tracked := s.tracked.filter (·.1 != n) }
    let eachName (f : State → Raw → State) : State := g.words.foldl f s
    match g.value? 'p' with
    | some path => eachName fun s n => let t := forget n s; { t with tracked := t.tracked ++ [(n, path)] }
    | none =>
      if g.has 'd' then
        eachName fun s n =>
          if s.tracked.any (·.1 == n) then forget n s else s.refuse "hash" (n ++ ": not found") 1
      else if g.has 't' then
        if g.words.isEmpty then s.refuse "hash" "-t: option requires an argument" 1
        else
          eachName fun s n =>
            match s.tracked.lookup n with
            | some p => s.say ((if g.words.length = 1 then "" else n ++ "\t") ++ p ++ "\n")
            | none => s.refuse "hash" (n ++ ": not found") 1
      else if g.words.isEmpty then
        let listed := Items.listedTable s.tracked.reverse
        if g.has 'l' then
          s.say (String.join (listed.map fun (n, p) => "builtin hash -p " ++ p ++ " " ++ n ++ "\n"))
        else if g.has 'r' then s
        else if listed.isEmpty then s.say "hash: hash table empty\n"
        else s.say ("hits\tcommand\n" ++ String.join (listed.map fun (_, p) => "   0\t" ++ p ++ "\n"))
      else
        eachName fun s n =>
          if n.toList.contains '/' || s.isRichBuiltin n || (s.functions.lookup n).isSome then s
          else
            match program? s n with
            | .ok p => track (forget n s) n p
            | .error _ => s.refuse "hash" (n ++ ": not found") 1

/-- Complains about a command that cannot be run. -/
def notStarted (s : State) (lead name : Raw) (why : Missing) : State :=
  let hasPath := name.toList.contains '/'
  let isDirectory := (s.node? name).any Node.isDirectory
  if hasPath && isDirectory then
    let s := s.complain (name ++ ": Is a directory") 126
    if lead.isEmpty then s else s.complain (lead ++ name ++ ": cannot execute: Is a directory") 126
  else if hasPath then
    match why with
    | .absent =>
      if (s.node? name).isSome then s.complain (lead ++ name ++ ": cannot execute: required file not found") 127
      else s.complain (lead ++ name ++ ": No such file or directory") 127
    | w => s.complain (lead ++ name ++ ": " ++ w.reason) 126
  else if !lead.isEmpty then s.complain (lead ++ name ++ ": not found") 127
  else
    match why, searchPath s with
    | .denied, _ => s.complain (name ++ ": Permission denied") 126
    | _, [""] => s.complain (name ++ ": No such file or directory") 127
    | _, _ => s.complain (name ++ ": command not found") 127

end State

end Host.Shell

end PolicyGate
