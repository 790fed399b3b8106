import PolicyGate.Host.Shell.State
import PolicyGate.Host.Shell.Field

/-!
# Words of commands

Words in front of a command may assign values to variables, or in the rich notation to places of rows
and tables. What words stand for otherwise is told here as far as nothing has to be run for it.
-/

namespace PolicyGate

namespace Host.Shell

def dropFinalNewlines (cs : List Char) : List Char :=
  (cs.reverse.dropWhile (· == '\n')).reverse

/-- All arguments, each a field of its own. -/
def allArguments (origin : Origin) (args : List Raw) : List Piece :=
  ((args.map fun a => [Piece.text a origin]).intersperse [Piece.cut]).flatten

/-! ## Assignments -/

/-- A word that assigns. -/
structure Assignment where
  name : Raw
  /-- The place of a row or a table, as it is written. -/
  place : Option Raw := none
  /-- Whether the value is added to what there is. -/
  adds : Bool := false
  value : Word
  deriving Repr

/-- What stands behind the sign of an assignment, and whether it adds. -/
def behindSign? (rich : Bool) (cs : List Char) (rest : Word) : Option (Bool × Word) :=
  let value (cs : List Char) : Word :=
    if cs.isEmpty then rest else .text (String.ofList cs) false :: rest
  match cs with
  | '=' :: cs => some (false, value cs)
  | '+' :: '=' :: cs => if rich then some (true, value cs) else none
  | _ => none

/-- What a word assigns, if it does. -/
def assignment? (rich : Bool) : Word → Option Assignment
  | .text s false :: rest =>
    let name := s.toList.takeWhile isNamePart
    let after := s.toList.drop name.length
    if !name.head?.any isNameStart then none
    else
      match after, rest with
      | [], .place p :: .text sign false :: more =>
        (behindSign? true sign.toList more).map fun (adds, value) =>
          { name := String.ofList name, place := some p, adds, value }
      | _, _ =>
        (behindSign? rich after rest).map fun (adds, value) => { name := String.ofList name, adds, value }
  | _ => none

/-- The assignments in front of a command, and its words. -/
def splitAssignments (rich : Bool) : List Word → List Assignment × List Word
  | [] => ([], [])
  | w :: ws =>
    match assignment? rich w with
    | some a =>
      let (as, rest) := splitAssignments rich ws
      (a :: as, rest)
    | none => ([], w :: ws)

/-- The place and the value of a word between the brackets of a row, such as `[1]=a`. -/
def placedValue? (w : Word) : Option (Word × Bool × Word) :=
  match w with
  | .text s false :: rest =>
    if s.startsWith "[" then go [] (String.ofList (s.toList.drop 1)) rest else none
  | _ => none
where
  /-- Looks for the end of the place. -/
  go (done : Word) (s : Raw) (rest : Word) : Option (Word × Bool × Word) :=
    let inside := s.toList.takeWhile (· != ']')
    let after := s.toList.drop inside.length
    let done := if inside.isEmpty then done else .text (String.ofList inside) false :: done
    match after with
    | _ :: cs => (behindSign? true cs rest).map fun (adds, value) => (done.reverse, adds, value)
    | [] =>
      match rest with
      | .text t false :: more => go done t more
      | p :: .text t false :: more => go (p :: done) t more
      | _ => none
  termination_by rest.length

/-! ## Homes -/

/-- A word in front of which the name of a home directory is written out. -/
def withHome (s : State) (w : Word) : Word :=
  match w with
  | .text t false :: rest =>
    let behind (n : Nat) : Word :=
      if t.length = n then rest else .text (String.ofList (t.toList.drop n)) false :: rest
    let ends (n : Nat) : Bool := (t.length = n && rest.isEmpty) || (t.toList.drop n).head? == some '/'
    let home (r : Raw) (n : Nat) : Word := Part.text r true :: behind n
    if t.startsWith "~" && ends 1 then home ((s.value? "HOME").getD "") 1
    else if s.rich && t.startsWith "~+" && ends 2 then home ((s.value? "PWD").getD "~+") 2
    else if s.rich && t.startsWith "~-" && ends 2 then home ((s.value? "OLDPWD").getD "~-") 2
    else if t.startsWith "~root" && ends 5 then home "/root" 5
    else w
  | _ => w

/-! ## Parameters -/

/-- Whether a parameter is all arguments, or all values of a row. -/
def isAllOf (name : Raw) : Bool := name == "@" || name.endsWith "[@]"

def isJoined (name : Raw) : Bool := name == "*" || name.endsWith "[*]"

/-- Whether a word is all arguments and nothing else. -/
def isAllArguments (w : Word) : Bool :=
  let isAll (p : Part) : Bool := p == .param "@" .none true
  let isNothing (p : Part) : Bool := p == .text "" true
  w.any isAll && w.all fun p => isAll p || isNothing p

/-- A word whose list parameters are joined into one text. -/
def withJoined (w : Word) : Word :=
  w.map fun p =>
    match p with
    | .param n f q => if isJoined n then .param n f true else .param n f q
    | p => p

/-- What a parameter stands for. -/
structure Reference where
  /-- Its name in complaints. -/
  label : Raw
  values : List Raw
  /-- Whether it is a list, and whether that is joined in quotes. -/
  isList : Bool := false
  joins : Bool := false
  isSet : Bool := true
  /-- The variable and the place that it can be given a value at. -/
  name : Raw := ""
  place : Option Raw := none
  deriving Repr

namespace Reference

def value (r : Reference) : Raw := " ".intercalate r.values

/-- Whether there is a value, and one that is not empty if that is asked for. -/
def holds (r : Reference) (onEmpty : Bool) : Bool := r.isSet && !(onEmpty && r.value.isEmpty)

/-- The pieces that some values are, in place of those of a parameter. -/
def pieces (r : Reference) (joint : Raw) (quoted : Bool) (values : List Raw) : List Piece :=
  let origin : Origin := if quoted then .quoted else .expanded
  if !r.isList then values.map fun v => .text v origin
  else if quoted && r.joins then [.text (joint.intercalate values) origin]
  else if values.isEmpty then [.gap]
  else allArguments origin values

end Reference

end Host.Shell

end PolicyGate
