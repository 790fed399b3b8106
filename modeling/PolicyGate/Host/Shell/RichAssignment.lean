import PolicyGate.Host.Shell.RichDeclare
import PolicyGate.Host.Shell.RichParameter

/-!
# Assignments in the rich notation

A row gets values between brackets, each at the next number or at a place of its own. A declaration takes
words that assign and words that only name, once all that they hold has been expanded.
-/

namespace PolicyGate

namespace Host.Shell

namespace State

/-! ## Rows -/

/-- A value between the brackets of a row: its place as it is written, if it has one, and whether it is
added to what is there. -/
structure Entry where
  place : Option Raw := none
  adds : Bool := false
  value : Raw
  deriving DecidableEq, Repr

/-- The entries that keys and values in turn are. -/
def pairs : List Raw → List Entry
  | [] => []
  | [k] => [{ place := some k, value := "" }]
  | k :: v :: rest => { place := some k, value := v } :: pairs rest

/-- Gives a row the values between brackets, from a number on. -/
def fillFrom (name : Raw) : Nat → List Entry → State → State
  | _, [], s => s
  | n, e :: es, s =>
    let isTable := (s.items? name).any Items.isTable
    match e.place with
    | none =>
      if isTable then
        fillFrom name n es (s.complain
          (name ++ ": " ++ e.value ++ ": must use subscript when assigning associative array") 1)
      else
        match s.give? name (some (toString n)) false e.value with
        | .ok t => fillFrom name (n + 1) es t
        | .error w => fillFrom name (n + 1) es (s.complain w 1)
    | some place =>
      match if place.isEmpty then .error ("[]=" ++ e.value ++ ": bad array subscript") else s.keyOf? name place with
      | .error w => fillFrom name n es (s.complain w 1)
      | .ok key =>
        let next := if isTable then n else Items.number key + 1
        match s.give? name (some key) e.adds e.value with
        | .ok t => fillFrom name next es t
        | .error w => fillFrom name next es (s.complain w 1)

/-- Gives a row or a table the values between brackets, in place of what it has had or behind it. -/
def fill (s : State) (name : Raw) (adds : Bool) (entries : List Entry) : Except Raw State :=
  let name := s.real name
  let v := (s.stored? name).getD { value := none, exported := s.options.contains 'a' }
  if v.readOnly then .error (name ++ ": readonly variable")
  else
    let isTable := v.items.any Items.isTable
    let old : Items := match v.items with
      | some i => if adds then i else if isTable then .table [] else .row []
      | none =>
        match v.value with
        | some r => if adds then .row [(0, r)] else .row []
        | none => .row []
    let s := s.putVariable name { v with value := some "", items := some old }
    let isPairs := isTable && entries.head?.any fun e => e.place.isNone
    let entries := if isPairs then pairs (entries.map (·.value)) else entries
    .ok (fillFrom name old.bound entries s)

/-! ## Declarations -/

/-- What a declaration gives a variable. -/
inductive Given where
  | nothing
  | text (r : Raw)
  | row (entries : List Entry)
  deriving DecidableEq, Repr

/-- A word of a declaration, of which all has been expanded. -/
structure Declared where
  /-- The word as it is named in complaints. -/
  shown : Raw
  name : Raw
  place : Option Raw := none
  adds : Bool := false
  given : Given := .nothing
  /-- Whether it may be an option, because it does not look like an assignment. -/
  isWord : Bool := false
  deriving DecidableEq, Repr

/-- A word of a declaration that has come from an expansion. -/
def Declared.ofWord (w : Raw) : Declared :=
  let front := String.ofList (w.toList.takeWhile (· != '='))
  if front.length = w.length then
    let (name, place) := splitPlace w
    { shown := w, name, place, isWord := true }
  else
    let adds := front.endsWith "+"
    let (name, place) := splitPlace (if adds then (front.dropEnd 1).toString else front)
    { shown := w, name, place, adds, isWord := true
      given := .text (String.ofList (w.toList.drop (front.length + 1))) }

/-- A word of a declaration as it is told when it is run. -/
def Declared.told (d : Declared) : Raw :=
  match d.given with
  | .nothing => d.shown
  | .text r => if d.isWord then d.shown else d.name ++ (if d.adds then "+=" else "=") ++ r
  | .row es => d.name ++ "=(" ++ " ".intercalate (es.map (·.value)) ++ ")"

/-- Gives a variable what a declaration gives it. -/
def giveDeclared (s : State) (m : Marks) (d : Declared) : Except Raw State :=
  match d.given with
  | .nothing => .ok s
  | .row entries => s.fill d.name d.adds entries
  | .text r =>
    if m.set.contains 'n' then
      .ok (s.putVariable d.name { (s.stored? d.name).getD { value := none } with value := some r })
    else
      match d.place with
      | none => s.give? d.name none d.adds r
      | some p => (s.keyOf? d.name p).bind fun key => s.give? d.name (some key) d.adds r

/-- Declares one variable. -/
def declareOne (m : Marks) (s : State) (d : Declared) : State :=
  if !isName d.name then s.refuse m.command ("\x60" ++ d.shown ++ "': not a valid identifier") 1
  else
    let isRow := d.place.isSome || (match d.given with
      | .row _ => true
      | _ => false)
    let hasItems := m.set.contains 'a' || m.set.contains 'A' ||
      ((s.stored? (s.real d.name)).bind (·.items)).isSome && !m.isOwn
    let m := if isRow && !hasItems then { m with set := 'a' :: m.set } else m
    let old := s.stored? (s.real d.name)
    let isFixed := old.any (·.readOnly) && (d.given != .nothing || (m.isOwn && !s.own.any (·.1 == d.name)))
    if isFixed then
      let what := d.name ++ ": readonly variable"
      if m.command == "export" || m.command == "readonly" then s.complain what 1
      else s.refuse m.command what 1
    else
      match s.marked? m d.name with
      | .error e => s.refuse m.command e 1
      | .ok t =>
        match t.giveDeclared m d with
        | .ok u => u.settled m d.name
        | .error e => t.complain e 1

/-- Runs a declaration. -/
def richDeclare (s : State) (command : Raw) (ds : List Declared) : State :=
  let others := ds.dropWhile (·.isWord)
  match s.marksOf command ((ds.takeWhile (·.isWord)).map (·.shown)) with
  | .error t => t
  | .ok (m, names) =>
    let all := names.map Declared.ofWord ++ others
    if command == "local" && !s.inFunction then s.refuse "local" "can only be used in a function" 1
    else if m.functions then
      if command == "export" || command == "readonly" then s.withStatus 0
      else s.showDeclared m (all.map (·.shown))
    else if all.isEmpty || (m.shows && command != "export" && command != "readonly") then
      s.showDeclared m (all.map (·.shown))
    else all.foldl (declareOne m) (s.withStatus 0)

end State

end Host.Shell

end PolicyGate
