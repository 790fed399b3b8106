import PolicyGate.Host.Extract.Bench

/-!
# Functions of extraction scripts

The functions here only work on the values they are given.
-/

namespace PolicyGate

namespace Host.Extract

/-! ## Texts -/

def onFirst (f : Char → Char) : List Char → List Char
  | c :: cs => f c :: cs
  | [] => []

/-- Puts a backslash in front of what is no part of a word. -/
def shielded (cs : List Char) : List Char :=
  cs.flatMap fun c => if isWordPart c || 128 ≤ c.toNat then [c] else ['\\', c]

/-- The part of a text from a place on, where negative numbers count from the end: where it starts,
and how long it is. -/
def portion? (size : Nat) (start : Int) (count : Option Int) : Option (Nat × Nat) :=
  let first := if start < 0 then start + size else start
  if first < 0 && (count.isNone || start < 0 && first + (count.getD 0) < 0) || (size : Int) < first then none
  else
    let begin_ := (max first 0).toNat
    let stop : Int := match count with
      | none => size
      | some n => if n < 0 then size + n else first + n
    let stop := (min (max stop begin_) size).toNat
    some (begin_, stop - begin_)

/-- The first place from some place on at which a text holds another. -/
def placeOf (part : List Char) : Nat → List Char → Option Nat
  | i, cs =>
    if part.isPrefixOf cs then some i
    else
      match cs with
      | [] => none
      | _ :: rest => placeOf part (i + 1) rest

def indexIn (text part : List Char) (start : Int) : Int :=
  let i : Nat := (min (max start 0) (text.length : Int)).toNat
  match placeOf part i (text.drop i) with
  | some n => n
  | none => -1

/-- The last place up to some place at which a text holds another. -/
def lastIndexIn (text part : List Char) (start : Option Int) : Int :=
  let last := min (start.getD text.length) (text.length - part.length : Int)
  let tried := (List.range (text.length + 1)).filter fun (i : Nat) =>
    (i : Int) ≤ last && part.isPrefixOf (text.drop i)
  match tried.getLast? with
  | some n => n
  | none => -1

/-- The number that octal, hexadecimal or binary digits stand for. -/
def basedNumber (base : Nat) (cs : List Char) : Value :=
  let fits (c : Char) : Bool := (hexValue? c).any fun v => v < base
  let ds := (cs.filter (· != '_')).takeWhile fits
  .ofInt (ds.foldl (fun n c => n * base + (hexValue? c).getD 0) 0 : Nat)

def hexNumber (cs : List Char) : Value :=
  match cs with
  | '0' :: 'x' :: rest | '0' :: 'X' :: rest | 'x' :: rest => basedNumber 16 rest
  | cs => basedNumber 16 cs

def octNumber (cs : List Char) : Value :=
  match cs.dropWhile Value.isBlank with
  | '0' :: 'x' :: rest | '0' :: 'X' :: rest | 'x' :: rest => basedNumber 16 rest
  | '0' :: 'b' :: rest | '0' :: 'B' :: rest | 'b' :: rest => basedNumber 2 rest
  | cs => basedNumber 8 cs

/-- Characters that are put in the place of others, and how many have been found. -/
def turned (set put : List Char) (letters : Raw) (cs : List Char) : List Char × Nat :=
  let has (c : Char) : Bool := letters.toList.contains c
  let inSet (c : Char) : Bool := if has 'c' then !set.contains c else set.contains c
  let put := if put.isEmpty && !has 'd' then (if has 'c' then [] else set) else put
  let new (c : Char) : Option Char :=
    if has 'c' then
      if has 'd' then none else some (put.getLast?.getD c)
    else
      match set.idxOf? c with
      | some i => if i < put.length then put[i]? else if has 'd' then none else some (put.getLast?.getD c)
      | none => some c
  let step : List Char × Nat × Option Char → Char → List Char × Nat × Option Char :=
    fun (done, n, before) c =>
      if !inSet c then (c :: done, n, none)
      else
        match new c with
        | none => (done, n + 1, before)
        | some d => if has 's' && before == some d then (done, n + 1, before) else (d :: done, n + 1, some d)
  let (done, n, _) := cs.foldl step ([], 0, none)
  (done.reverse, n)

/-! ## Patterns -/

/-- How a pattern is read by the letters behind it. -/
def readingBy (letters : Raw) : Regex.Reading :=
  let has (c : Char) : Bool := letters.toList.contains c
  { fold := has 'i', lines := has 'm', anyDot := has 's', loose := has 'x' }

/-- Finds a pattern again and again, from a place on. After an empty part the search goes on one
further. -/
def findAll (subject : Subject) (r : Regex) : Nat → Nat → List Regex.Found
  | 0, _ => []
  | fuel + 1, i =>
    match Regex.search subject r i with
    | none => []
    | some f => f :: findAll subject r fuel (if f.stop = f.start then f.stop + 1 else f.stop)

def part (cs : Array Char) (i j : Nat) : Value := .text (String.ofList (cs.extract i j).toList)

/-- What the groups of a pattern have fitted, in order. -/
def groupValues (cs : Array Char) (count : Nat) (f : Regex.Found) : List Value :=
  (List.range count).map fun k =>
    match f.groups.lookup (k + 1) with
    | some (i, j) => part cs i j
    | none => .absent

/-- The parts of a text between what fits a pattern. -/
def splitBy (cs : Array Char) (r : Regex) (groups : Nat) (limit : Int) : List Value :=
  let subject : Subject := { chars := cs, eager := true }
  let usable (f : Regex.Found) : Bool := !(f.stop = f.start && (f.start = 0 || cs.size ≤ f.start))
  let found := (findAll subject r (cs.size + 2) 0).filter usable
  let found := if 0 < limit then found.take (limit.toNat - 1) else found
  let (done, from_) : List (List Value) × Nat := found.foldl
    (fun (done, i) f => ((part cs i f.start :: groupValues cs groups f) :: done, f.stop)) ([], 0)
  let all := done.reverse.flatten ++ [part cs from_ cs.size]
  if cs.isEmpty then []
  else if limit = 0 then
    (all.reverse.dropWhile fun v => v.toText.isEmpty).reverse
  else all

/-! ## Functions of single values -/

/-- A value by its number, or none. -/
def nth (vs : List Value) (i : Nat) : Value := (vs[i]?).getD .absent

/-- The functions that are given some values, each by itself. The first is the usual one if none is
given. -/
def plainFunction? (name : Raw) : Option (List Value → Value) :=
  let onText (f : List Char → List Char) : Option (List Value → Value) :=
    some fun vs => .text (String.ofList (f ((nth vs 0).toText.toList)))
  let onReal (f : Float → Float) : Option (List Value → Value) :=
    some fun vs => .ofFloat (f (nth vs 0).toFloat)
  if name == "uc" then onText (·.map Char.toUpper)
  else if name == "lc" || name == "fc" then onText (·.map Char.toLower)
  else if name == "ucfirst" then onText (onFirst Char.toUpper)
  else if name == "lcfirst" then onText (onFirst Char.toLower)
  else if name == "quotemeta" then onText shielded
  else if name == "length" then
    some fun vs =>
      match nth vs 0 with
      | .absent => .absent
      | v => .whole v.toText.length
  else if name == "chr" then
    some fun vs =>
      let n := (nth vs 0).toInt
      if n < 0 then .text (Raw.ofText "\ufffd")
      else if n < 256 then .text (Char.ofNat n.toNat).toString
      else .text (Raw.ofText (Char.ofNat n.toNat).toString)
  else if name == "ord" then
    some fun vs => .whole (((nth vs 0).toText.toList.head?.map Char.toNat).getD 0)
  else if name == "abs" then
    some fun vs =>
      match (nth vs 0).toNumber with
      | .whole n => .whole n.natAbs
      | .real x => .real x.abs
      | v => v
  else if name == "int" then
    some fun vs =>
      match (nth vs 0).toNumber with
      | .real x => if x.isNaN || x.isInf then .real x
        else if x.abs < 9007199254740992 then .whole (Value.truncated x) else .real x
      | v => v
  else if name == "sin" then onReal Float.sin
  else if name == "cos" then onReal Float.cos
  else if name == "exp" then onReal Float.exp
  else if name == "floor" then onReal Float.floor
  else if name == "ceil" then onReal Float.ceil
  else if name == "atan2" then
    some fun vs => .ofFloat (Float.atan2 (nth vs 0).toFloat (nth vs 1).toFloat)
  else if name == "hex" then some fun vs => hexNumber (nth vs 0).toText.toList
  else if name == "oct" then some fun vs => octNumber (nth vs 0).toText.toList
  else if name == "index" then
    some fun vs =>
      .whole (indexIn (nth vs 0).toText.toList (nth vs 1).toText.toList
        (((vs[2]?).map Value.toInt).getD 0))
  else if name == "rindex" then
    some fun vs =>
      .whole (lastIndexIn (nth vs 0).toText.toList (nth vs 1).toText.toList
        ((vs[2]?).map Value.toInt))
  else none

/-- The functions that are given a list. -/
def listFunction? (name : Raw) : Option (List Value → Value) :=
  if name == "join" then
    some fun vs =>
      let between := (nth vs 0).toText
      .text (between.intercalate (vs.tail.map Value.toText))
  else if name == "sprintf" then
    some fun vs =>
      let form := (nth vs 0).toText.toList
      .text (String.ofList (formatted (form.length + 1) form vs.tail))
  else if name == "sum" || name == "sum0" then
    some fun vs => if vs.isEmpty && name == "sum" then .absent else vs.foldl Value.add (.whole 0)
  else if name == "product" then some fun vs => vs.foldl Value.mul (.whole 1)
  else if name == "max" then
    some fun vs => vs.tail.foldl (fun m v => if Value.compareNumbers m v == some .lt then v else m)
      (nth vs 0)
  else if name == "min" then
    some fun vs => vs.tail.foldl (fun m v => if Value.compareNumbers m v == some .gt then v else m)
      (nth vs 0)
  else none

/-! ## Operators -/

def ofOrdering (o : Ordering) : Value :=
  .whole (match o with
    | .lt => -1
    | .eq => 0
    | .gt => 1)

/-- The value of an operator between two values, or what is complained about. -/
def applied (op : String) (a b : Value) : Except Raw Value :=
  let number (p : Ordering → Bool) : Except Raw Value :=
    .ok (.ofBool ((Value.compareNumbers a b).any p))
  let text (p : Ordering → Bool) : Except Raw Value := .ok (.ofBool (p (Value.compareTexts a b)))
  let bits (f : Nat → Nat → Nat) : Except Raw Value := .ok (.ofInt (f a.bits b.bits : Nat))
  match op with
  | "+" => .ok (a.add b)
  | "-" => .ok (a.sub b)
  | "*" => .ok (a.mul b)
  | "/" => if b.toFloat == 0 then .error "Illegal division by zero" else .ok (a.div b)
  | "%" => if b.toInt = 0 then .error "Illegal modulus zero" else .ok (a.mod b)
  | "**" => .ok (a.pow b)
  | "." => .ok (.text (a.toText ++ b.toText))
  | "x" => .ok (.text (String.join (List.replicate b.toInt.toNat a.toText)))
  | "==" => number (· == .eq)
  | "!=" => .ok (.ofBool (Value.compareNumbers a b != some .eq))
  | "<" => number (· == .lt)
  | ">" => number (· == .gt)
  | "<=" => number (· != .gt)
  | ">=" => number (· != .lt)
  | "<=>" => .ok (((Value.compareNumbers a b).map ofOrdering).getD .absent)
  | "eq" => text (· == .eq)
  | "ne" => text (· != .eq)
  | "lt" => text (· == .lt)
  | "gt" => text (· == .gt)
  | "le" => text (· != .gt)
  | "ge" => text (· != .lt)
  | "cmp" => .ok (ofOrdering (Value.compareTexts a b))
  | "&" => bits Nat.land
  | "|" => bits Nat.lor
  | "^" => bits Nat.xor
  | "<<" => .ok (.ofInt (a.bits * Nat.pow 2 (min b.toInt.toNat 64) % Width.of64 : Nat))
  | ">>" => .ok (.ofInt (a.bits / Nat.pow 2 (min b.toInt.toNat 64) : Nat))
  | "xor" => .ok (.ofBool (a.isTrue != b.isTrue))
  | _ => .ok .absent

/-- The values from one to another. -/
def span (a b : Value) : List Value :=
  let isNumber : Value → Bool
    | .text r =>
      let cs := match r.toList with
        | '-' :: cs => cs
        | cs => cs
      cs.head?.any Char.isDigit && cs.all Char.isDigit && (cs.length = 1 || cs.head? != some '0')
    | _ => true
  if isNumber a || a.toText.isEmpty then
    let i := a.toInt
    (List.range (b.toInt - i + 1).toNat).map fun (k : Nat) => Value.whole (i + k)
  else
    let last := b.toText
    let rec go : Nat → Value → List Value
      | 0, _ => []
      | fuel + 1, v =>
        if last.length < v.toText.length then []
        else if v.toText == last then [v]
        else v :: go fuel v.next
    go 100000 (.text a.toText)

end Host.Extract

end PolicyGate
