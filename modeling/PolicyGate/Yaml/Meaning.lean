import PolicyGate.Yaml.Node
import PolicyGate.Decimal.Shortest
import PolicyGate.Text.Quoted
import PolicyGate.Width

/-!
# What scalars mean

A plain scalar without a tag is nothing, a truth value, an integer, a float, or else a text. A
scalar in quotes is always a text. The standard tags ask for a meaning, and other tags make a text
of a scalar unless they are local ones.
-/

namespace PolicyGate.Yaml

/-- A value as complaints name it. -/
inductive Found where
  | nothing
  | boolean (value : Bool)
  | integer (value : Int)
  | float (value : Float)
  | string (value : String)
  | sequence
  | mapping

/-! ## Plain texts -/

def isNull (text : String) : Bool := ["null", "Null", "NULL", "~"].contains text

def boolean? (text : String) : Option Bool :=
  if ["true", "True", "TRUE"].contains text then some true
  else if ["false", "False", "FALSE"].contains text then some false
  else none

/-- The value of a digit in a base up to sixteen. -/
def digit? (base : Nat) (c : Char) : Option Nat := (hexDigit? c).filter (· < base)

/-- The value of a numeral, which must not be empty. -/
def numeral? (base : Nat) : List Char → Option Nat
  | [] => none
  | cs => cs.foldl (fun n c => n.bind fun n => (digit? base c).map (n * base + ·)) (some 0)

/-- The base that a letter behind a zero stands for. -/
def base? : Char → Option Nat
  | 'x' => some 16
  | 'o' => some 8
  | 'b' => some 2
  | _ => none

/-- The value of a numeral with its base in front. -/
def basedNumeral? : List Char → Option Nat
  | '0' :: c :: cs => (base? c).bind (numeral? · cs)
  | _ => none

/-- Whether a text is a decimal numeral with a needless zero in front. Such a text is no number. -/
def hasNeedlessZero (cs : List Char) : Bool :=
  match cs with
  | '0' :: c :: cs => (c :: cs).all Char.isDigit
  | _ => false

def dropSign : List Char → List Char
  | '+' :: cs => cs
  | '-' :: cs => cs
  | cs => cs

def dropPlus : List Char → List Char
  | '+' :: cs => cs
  | cs => cs

/-- The value of an integer without a minus sign. -/
def unsigned? (cs : List Char) : Option Nat :=
  let ds := dropPlus cs
  (basedNumeral? ds).or (if hasNeedlessZero ds then none else numeral? 10 ds)

/-- The absolute value of an integer with a minus sign. -/
def negated? : List Char → Option Nat
  | '-' :: cs => (basedNumeral? cs).or (if hasNeedlessZero cs then none else numeral? 10 cs)
  | _ => none

/-- The integer that a plain text stands for. Integers have 128 bits at most. -/
def integer? (cs : List Char) : Option Int :=
  match (unsigned? cs).filter (· < Width.of128), (negated? cs).filter (· ≤ Width.of127) with
  | some n, _ => some n
  | none, some n => some (-n)
  | none, none => none

/-- A decimal as a double, unless it is too large for one. -/
def decimal? (digits : Nat) (exponent : Int) : Option Float :=
  let size := (Nat.toDigits 10 digits).length + exponent
  if digits = 0 ∨ size < -400 then some 0
  else if 400 < size then none
  else
    let f :=
      if 0 ≤ exponent then Float.ofScientific digits false exponent.toNat
      else Float.ofScientific digits true exponent.natAbs
    if f.isInf then none else some f

/-- The exponent behind the digits of a decimal. -/
def exponent? : List Char → Option Int
  | [] => some 0
  | c :: cs =>
    if c == 'e' || c == 'E' then
      match cs with
      | '-' :: ds => (numeral? 10 ds).map fun n => -(n : Int)
      | ds => (numeral? 10 (dropPlus ds)).map (↑·)
    else none

/-- The double that an unsigned decimal text stands for. -/
def unsignedFloat? (cs : List Char) : Option Float := do
  let whole := cs.takeWhile Char.isDigit
  let rest := cs.dropWhile Char.isDigit
  let after := match rest with
    | '.' :: ds => ds
    | _ => []
  let fraction := after.takeWhile Char.isDigit
  let tail := if rest.head? == some '.' then after.dropWhile Char.isDigit else rest
  let digits ← numeral? 10 (whole ++ fraction)
  decimal? digits ((← exponent? tail) - fraction.length)

/-- The double that a plain text stands for. -/
def float? (cs : List Char) : Option Float :=
  let text := String.ofList cs
  let unsignedText := String.ofList (dropPlus cs)
  if [".inf", ".Inf", ".INF"].contains unsignedText then some (1 / 0)
  else if ["-.inf", "-.Inf", "-.INF"].contains text then some (-1 / 0)
  else if [".nan", ".NaN", ".NAN"].contains text then some (0 / 0)
  else
    match cs with
    | '-' :: ds => (unsignedFloat? ds).map (-·)
    | _ => unsignedFloat? (dropPlus cs)

/-- What a plain text without a tag means. -/
def plainMeaning (text : String) : Found :=
  let cs := text.toList
  if text.isEmpty || isNull text then .nothing
  else
    match boolean? text, integer? cs with
    | some b, _ => .boolean b
    | none, some n => .integer n
    | none, none =>
      if hasNeedlessZero (dropSign cs) then .string text
      else
        match float? cs with
        | some f => .float f
        | none => .string text

/-! ## Tags -/

/-- A scalar whose text is not what its tag asks for. -/
structure Mismatch where
  text : String
  expected : String
  deriving DecidableEq, Repr

def standardTag (name : String) : String := "tag:yaml.org,2002:" ++ name

/-- What a scalar means. -/
def meaning (tag : Option String) (style : Style) (text : String) : Except Mismatch Found :=
  let cs := text.toList
  let as (expected : String) (found : Option Found) : Except Mismatch Found :=
    match found with
    | some f => .ok f
    | none => .error ⟨text, expected⟩
  match tag with
  | none => .ok (if style == .plain then plainMeaning text else .string text)
  | some t =>
    if t == standardTag "bool" then as "a boolean" ((boolean? text).map .boolean)
    else if t == standardTag "int" then as "an integer" ((integer? cs).map .integer)
    else if t == standardTag "float" then as "a float" ((float? cs).map .float)
    else if t == standardTag "null" then
      as "null" (if isNull text then some .nothing else none)
    else if t.toList.head? == some '!' && style == .plain then .ok (plainMeaning text)
    else .ok (.string text)

/-! ## Naming -/

/-- A double with a point in it, unless it is no finite number. -/
def pointedText (f : Float) : String :=
  let text := plainText f
  if f.isNaN || f.isInf || text.toList.contains '.' then text else text ++ ".0"

def Found.message : Found → String
  | .nothing => "unit value"
  | .boolean b => "boolean `" ++ (if b then "true" else "false") ++ "`"
  | .integer n =>
    let width := if n < -(Width.of63 : Int) then " as i128" else if Width.of64 ≤ n then " as u128" else ""
    "integer `" ++ toString n ++ "`" ++ width
  | .float f => "floating point `" ++ pointedText f ++ "`"
  | .string s => "string " ++ Text.quoted s
  | .sequence => "sequence"
  | .mapping => "map"

end PolicyGate.Yaml
