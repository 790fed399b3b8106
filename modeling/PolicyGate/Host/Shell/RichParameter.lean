import PolicyGate.Host.Shell.RichOutput
import PolicyGate.Host.Shell.RichSetting
import PolicyGate.Host.Shell.Words

/-!
# Parameters of the rich notation

A parameter may be a list: all arguments, or all values of a row or a table. What is done with a value
is done with each value of a list, but a part of a list is some of its values.
-/

namespace PolicyGate

namespace Host.Shell

namespace State

/-! ## What parameters stand for -/

/-- What a parameter without a place stands for. -/
def plainReference (s : State) (name : Raw) : Reference :=
  if name == "@" || name == "*" then
    { label := name, values := s.positional, isList := true, joins := name == "*"
      isSet := !s.positional.isEmpty }
  else
    let value := s.parameter? name
    { label := name, values := [value.getD ""], isSet := value.isSome, name }

/-- The values of a variable with their keys. -/
def entries (s : State) (name : Raw) : List (Raw × Raw) :=
  match s.items? name with
  | some i => i.listed
  | none => ((s.value? name).map fun v => ("0", v)).toList

/-- What all values of a variable are. -/
def listReference (s : State) (name : Raw) (joins : Bool) : Reference :=
  let entries := s.entries name
  { label := name ++ (if joins then "[*]" else "[@]"), values := entries.map (·.2), isList := true, joins
    isSet := !entries.isEmpty, name }

/-- What a place of a variable is, by its key. -/
def elementReference (s : State) (label name key : Raw) : Reference :=
  let value := s.element? name key
  { label, values := [value.getD ""], isSet := value.isSome, name, place := some key }

/-- What the keys of a variable are. -/
def keyReference (s : State) (name : Raw) (joins : Bool) : Reference :=
  let keys := (s.entries name).map (·.1)
  { label := name, values := keys, isList := true, joins, isSet := !keys.isEmpty }

/-- What the names of the variables are that start in some way. -/
def nameReference (s : State) (start : Raw) (joins : Bool) : Reference :=
  let names := (s.vars.filter fun v => v.1.startsWith start && v.2.value.isSome).map (·.1)
  { label := start, values := names.mergeSort fun a b => a ≤ b, isList := true, joins
    isSet := !names.isEmpty }

/-- Draws the next number, if that is what a name stands for. -/
def advanced (s : State) (name : Raw) : State :=
  if name == "RANDOM" && (s.stored? name).isNone then
    { s with riches := { s.riches with seed := (s.riches.seed * 16807) % 2147483647 } }
  else s

/-! ## What is done with values -/

/-- A part of the values, or nothing if its end lies before its start. -/
def sliced? (s : State) (r : Reference) (offset : Int) (size : Option Int) : Option (List Raw) :=
  if !r.isList then (RichValue.slice? r.value offset size).map fun v => [v]
  else
    let entries : List (Nat × Raw) :=
      if r.name.isEmpty then (s.zero :: r.values).zipIdx.map fun (v, n) => (n, v)
      else
        match s.items? r.name with
        | some (.row vs) => vs
        | _ => r.values.zipIdx.map fun (v, n) => (n, v)
    let bound : Nat := (entries.getLast?.map fun e => e.1 + 1).getD 0
    let start := if offset < 0 then offset + (bound : Int) else offset
    let from_ := if start < 0 then [] else entries.filter fun e => start ≤ (e.1 : Int)
    match size with
    | none => some (from_.map (·.2))
    | some n => if n < 0 then none else some ((from_.take n.toNat).map (·.2))

/-- The command that makes a variable what it is. -/
def remade (s : State) (name : Raw) : Option Raw :=
  (s.stored? (s.real name)).bind fun v =>
    let value := v.value.map fun r => "=" ++ Quote.reusable r
    if v.items.isSome then some (v.declared name)
    else if v.letters.isEmpty then value.map (name ++ ·)
    else some ("declare -" ++ v.letters ++ " " ++ name ++ value.getD "")

/-- The values in another form, or nothing if there is no such form. -/
def shaped? (s : State) (r : Reference) (letter : Char) : Option (List Raw) :=
  let marks : Raw := ((s.stored? (s.real r.name)).map Variable.letters).getD ""
  let quotedKey (k : Raw) : Raw :=
    if (s.items? r.name).any Items.isTable && (Quote.needsQuotes k || k.isEmpty) then Quote.double k else k
  let entries := s.entries r.name
  if letter == 'a' then some (r.values.map fun _ => marks)
  else if letter == 'A' then
    if r.isSet then some ((if r.name.isEmpty then none else s.remade r.name).toList) else some []
  else if letter == 'K' && r.isList && !r.name.isEmpty then
    let last : Raw := if (s.items? r.name).any Items.isTable && r.isSet then " " else ""
    some [" ".intercalate (entries.map fun (k, v) => quotedKey k ++ " " ++ Quote.value v) ++ last]
  else if letter == 'k' && r.isList && !r.name.isEmpty then
    some (entries.flatMap fun (k, v) => [k, v])
  else if !r.isSet then some r.values
  else r.values.mapM (RichValue.shape? letter)

/-! ## How patterns are taken -/

/-- How the patterns of choices and changes are taken. -/
def style (s : State) : Pattern.Style :=
  if s.rich then { grouped := s.hasSetting "extglob", folds := s.hasSetting "nocasematch" } else {}

/-- How paths are found for patterns. -/
def search (s : State) : Search :=
  if s.rich then
    { style := { grouped := s.hasSetting "extglob", folds := s.hasSetting "nocaseglob" }
      dots := s.hasSetting "dotglob", skips := s.hasSetting "globskipdots"
      vanishes := s.hasSetting "nullglob" }
  else {}

/-- What is put for a text that fits, where an open sign stands for the text itself. -/
def putOf (s : State) (ps : List Piece) : RichValue.Put :=
  let asks := s.hasSetting "patsub_replacement"
  (Piece.marked ps).map fun (c, quoted) => if c == '&' && !quoted && asks then none else some c

end State

end Host.Shell

end PolicyGate
