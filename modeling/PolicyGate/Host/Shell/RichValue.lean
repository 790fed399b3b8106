import PolicyGate.Host.Shell.Pattern
import PolicyGate.Host.Shell.Token
import PolicyGate.Host.Shell.Variable

/-!
# Changed values

What the rich notation can do with the value of a parameter: take a part of it, put something else for
what fits a pattern, turn its letters, or write it in another form.
-/

namespace PolicyGate

namespace Host.Shell

namespace RichValue

/-! ## Parts -/

/-- The place that an offset stands for in something of some size. It counts from the end if it is
negative. -/
def placeOf (size : Nat) (offset : Int) : Option Nat :=
  let n := if offset < 0 then offset + size else offset
  if n < 0 || (size : Int) < n then none else some n.toNat

/-- A part of a value, or nothing if its end lies before its start. -/
def slice? (value : Raw) (offset : Int) (size : Option Int) : Option Raw :=
  let cs := value.toList
  match placeOf cs.length offset with
  | none => some ""
  | some start =>
    match size with
    | none => some (String.ofList (cs.drop start))
    | some n =>
      let finish := if n < 0 then n + cs.length else start + n
      if finish < start then none
      else some (String.ofList ((cs.drop start).take (finish.toNat - start)))

/-! ## Patterns -/

/-- The longest text at the front that fits a pattern: it and what lies behind. -/
def fitAt? (style : Pattern.Style) (items : List PatternItem) (fuel : Nat) (cs : List Char) :
    Option (List Char × List Char) :=
  let ends := Pattern.rests style.folds fuel items cs
  (ends.foldl (fun best e =>
    match best with
    | none => some e
    | some (b : List Char) => if e.length < b.length then some e else best) none).map fun e =>
      (cs.take (cs.length - e.length), e)

/-- What is put for a text that fits: its pieces, where the text itself may be asked for. -/
abbrev Put := List (Option Char)

def put (p : Put) (fitted : List Char) : List Char :=
  p.flatMap fun c =>
    match c with
    | some c => [c]
    | none => fitted

/-- Puts something for each text that fits, or for the first. -/
def changeFrom (fit : List Char → Option (List Char × List Char)) (p : Put) (all : Bool) :
    Nat → List Char → List Char
  | 0, cs => cs
  | _ + 1, [] => []
  | fuel + 1, c :: cs =>
    match fit (c :: cs) with
    | some (fitted, rest) =>
      if fitted.isEmpty then c :: changeFrom fit p all fuel cs
      else put p fitted ++ (if all then changeFrom fit p all fuel rest else rest)
    | none => c :: changeFrom fit p all fuel cs

/-- Puts something for what fits a pattern in a value. -/
def change (style : Pattern.Style) (which : Char) (pattern : Pattern.Marked) (p : Put) (value : Raw) : Raw :=
  let cs := value.toList
  let items := if style.grouped then Pattern.groupedItems pattern else Pattern.items pattern
  let fuel := pattern.length + 2
  let made : List Char :=
    if which == '#' then
      match fitAt? style items fuel cs with
      | some (fitted, rest) => put p fitted ++ rest
      | none => cs
    else if which == '%' then
      let start := (List.range (cs.length + 1)).find? fun n =>
        Pattern.accepted style pattern (cs.drop n)
      match start with
      | some n => cs.take n ++ put p (cs.drop n)
      | none => cs
    else if pattern.isEmpty then cs
    else changeFrom (fitAt? style items fuel) p (which == 'a') (cs.length + 1) cs
  String.ofList made

/-- Turns the letters that fit a pattern, or only the first character. -/
def turn (style : Pattern.Style) (sign : Char) (all : Bool) (pattern : Pattern.Marked) (value : Raw) : Raw :=
  let turned (c : Char) : Char :=
    let fits := pattern.isEmpty || Pattern.accepted style pattern [c]
    if !fits then c
    else if sign == '^' then c.toUpper
    else if sign == ',' then c.toLower
    else if c.isUpper then c.toLower else c.toUpper
  String.ofList (match value.toList with
    | [] => []
    | c :: cs => turned c :: (if all then cs.map turned else cs))

/-- The case that a mark of a variable gives its value. -/
def cased (letter : Option Char) (value : Raw) : Raw :=
  match letter with
  | some 'l' => String.ofList (value.toList.map Char.toLower)
  | some 'u' => String.ofList (value.toList.map Char.toUpper)
  | some 'c' =>
    String.ofList (match value.toList with
      | [] => []
      | c :: cs => c.toUpper :: cs.map Char.toLower)
  | _ => value

/-! ## Forms -/

/-- A value in another form: in quotes, with its escapes read, or with its letters turned. -/
def shape? (letter : Char) (value : Raw) : Option Raw :=
  match letter with
  | 'Q' | 'K' | 'k' => some (Quote.reusable value)
  | 'E' =>
    match escapedText (value.length + 2) [] (value.toList ++ ['\'']) with
    | some (done, _) => some (String.ofList done.reverse)
    | none => some value
  | 'U' => some (cased (some 'u') value)
  | 'L' => some (cased (some 'l') value)
  | 'u' => some (turn {} '^' false [] value)
  | 'P' => some value
  | _ => none

end RichValue

end Host.Shell

end PolicyGate
