import PolicyGate.Host.Shell.RichInput
import PolicyGate.Host.Shell.RichSetting

/-!
# Declarations in the rich notation

A declaration marks variables before it gives them values, so that the marks hold for the values too. In
a function it makes the variables the function's own.
-/

namespace PolicyGate

namespace Host.Shell

/-- What a declaration does with variables. -/
structure Marks where
  command : Raw
  /-- The letters of the marks that are set, and of those that are taken back. -/
  set : List Char := []
  cleared : List Char := []
  /-- Whether the variables become those of the function that runs. -/
  isOwn : Bool := false
  /-- Whether the variables are shown. -/
  shows : Bool := false
  /-- Whether it is about functions, and whether only their names are shown. -/
  functions : Bool := false
  namesOnly : Bool := false
  /-- Whether a variable that is made own keeps what it had. -/
  inherits : Bool := false

namespace Marks

/-- A variable with the marks that come before its value, or why it cannot have them. -/
def before (m : Marks) (name : Raw) (v : Variable) : Except Raw Variable := do
  let has (c : Char) : Bool := m.set.contains c
  let lacks (c : Char) : Bool := m.cleared.contains c
  let items ← match v.items with
    | some (.row vs) =>
      if has 'A' then throw (name ++ ": cannot convert indexed to associative array")
      else pure (some (Items.row vs))
    | some (.table vs) =>
      if has 'a' then throw (name ++ ": cannot convert associative to indexed array")
      else pure (some (Items.table vs))
    | none =>
      if has 'A' then pure (some (Items.table ((v.value.map fun r => ("0", r)).toList)))
      else if has 'a' then pure (some (Items.row ((v.value.map fun r => (0, r)).toList)))
      else pure none
  let turns := ['l', 'u', 'c'].filter has
  let turn := match turns with
    | [c] => some c
    | _ => if v.turn.any lacks then none else v.turn
  return { v with
    items, turn, integer := (v.integer || has 'i') && !lacks 'i'
    traced := (v.traced || has 't') && !lacks 't', refers := (v.refers || has 'n') && !lacks 'n'
    exported := (v.exported || has 'x') && !lacks 'x' }

/-- A variable with the mark that comes behind its value. -/
def after (m : Marks) (v : Variable) : Variable := { v with readOnly := v.readOnly || m.set.contains 'r' }

/-- Whether a variable is among those that are listed. -/
def lists (m : Marks) (v : Variable) : Bool :=
  m.set.all fun c => c == 'g' || v.letters.toList.contains c

end Marks

namespace State

/-- Makes a variable that of the function that runs. It starts without a value. -/
def makeOwn (s : State) (name : Raw) (inherits : Bool) : State :=
  if s.own.any (·.1 == name) then s
  else
    let old := s.stored? name
    let s := { s with own := (name, old) :: s.own }
    if inherits then s
    else s.putVariable name { value := none, exported := (old.any (·.exported)) }

/-- Marks a variable before it is given a value. -/
def marked? (s : State) (m : Marks) (name : Raw) : Except Raw State :=
  let s := if m.isOwn then s.makeOwn name m.inherits else s
  let name := if m.set.contains 'n' || m.cleared.contains 'n' then name else s.real name
  let v := (s.stored? name).getD { value := none }
  let clears := m.cleared.contains 'r' || m.cleared.contains 'a' || m.cleared.contains 'A'
  if v.readOnly && clears then .error (name ++ ": readonly variable")
  else
    match m.before name v with
    | .ok w => .ok (s.putVariable name w)
    | .error e => .error e

/-- Marks a variable after it has been given a value. -/
def settled (s : State) (m : Marks) (name : Raw) : State :=
  let name := if m.set.contains 'n' then name else s.real name
  match s.stored? name with
  | some v => s.putVariable name (m.after v)
  | none => s

/-- The variables that a declaration lists, in order. -/
def listed? (s : State) (m : Marks) : List (Raw × Variable) :=
  (s.vars.filter fun v => m.lists v.2).mergeSort fun a b => a.1 ≤ b.1

/-- The names of functions, in order. -/
def functionNames (s : State) : List Raw :=
  ((s.functions.map (·.1)).eraseDups).mergeSort fun a b => a ≤ b

/-- Shows the variables that a declaration names, or all that have its marks. -/
def showDeclared (s : State) (m : Marks) (names : List Raw) : State :=
  let s := s.withStatus 0
  if m.functions then
    if names.isEmpty then
      s.say (String.join (s.functionNames.map fun n => "declare -f " ++ n ++ "\n"))
    else
      names.foldl (fun s n =>
        if (s.functions.lookup n).isSome then s.say (n ++ "\n") else s.withStatus 1) s
  else if names.isEmpty then
    if m.set.isEmpty && !m.shows then
      if m.command == "local" then
        let mine := s.vars.filter fun v => s.own.any (·.1 == v.1)
        let sorted := mine.mergeSort fun a b => a.1 ≤ b.1
        s.say (String.join (sorted.map fun (n, v) => n ++ "=" ++ Quote.asNeeded (v.value.getD "") ++ "\n"))
      else s.say s.richVariableList
    else s.say (String.join ((s.listed? m).map fun (n, v) => v.declared n ++ "\n"))
  else
    names.foldl (fun s n =>
      match s.stored? n with
      | some v => s.say (v.declared n ++ "\n")
      | none => s.refuse m.command (n ++ ": not found") 1) s

/-- Reads the options of a declaration. -/
def marksOf (s : State) (command : Raw) (args : List Raw) : Except State (Marks × List Raw) :=
  let isMarker := command == "export" || command == "readonly"
  let known := if command == "export" then "fnp" else if command == "readonly" then "aAfp"
    else "aAfFgiIlnrtuxpc"
  match RichCommand.read known "" (!isMarker) args with
  | .error e => .error (s.misused command e)
  | .ok g =>
    let letters := "aAilnrtuxc".toList
    let has (sign : Char) : List Char :=
      (g.options.filter fun o => o.1 == sign && letters.contains o.2.1).map (·.2.1)
    let own := command == "local" ||
      ((command == "declare" || command == "typeset") && s.inFunction && !g.has 'g')
    let base : Marks :=
      { command, set := has '-', cleared := has '+', isOwn := own, shows := g.has 'p'
        functions := g.has 'f' || g.has 'F', namesOnly := g.has 'F', inherits := g.has 'I' }
    if command == "export" then
      .ok ({ base with
        set := if g.has 'n' then [] else ['x'], cleared := if g.has 'n' then ['x'] else [] }, g.words)
    else if command == "readonly" then .ok ({ base with set := 'r' :: base.set }, g.words)
    else .ok (base, g.words)

def richUnset (s : State) (args : List Raw) : State :=
  s.withOptions "unset" "fvn" "" false args fun g =>
    g.words.foldl (fun s w =>
      if g.has 'f' then { s with functions := s.functions.filter (·.1 != w) }
      else
        let (name, place) := splitPlace w
        let real := if g.has 'n' then name else s.real name
        match s.stored? real with
        | none =>
          if g.has 'v' then s else { s with functions := s.functions.filter (·.1 != w) }
        | some v =>
          if v.readOnly then s.refuse "unset" (real ++ ": cannot unset: readonly variable") 1
          else
            match place, v.items with
            | some p, some items =>
              if p == "@" || p == "*" then s.unsetVariable real
              else
                match s.keyOf? real p with
                | .ok key => s.putVariable real { v with items := some (items.drop key) }
                | .error e => s.refuse "unset" e 1
            | _, _ => s.unsetVariable real) (s.withStatus 0)

end State

end Host.Shell

end PolicyGate
