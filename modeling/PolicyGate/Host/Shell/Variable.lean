import PolicyGate.Host.Raw
import PolicyGate.Width

/-!
# Variables

A variable holds a text, or the values of a row, each at a number, or of a table, each at a text. In the
rich notation it may be marked, so that what it is given is worked out as a sum, or changes its case,
or goes to another variable.
-/

namespace PolicyGate

namespace Host.Shell

/-!
## Quoted texts in the rich notation

A text is written so that the rich notation reads it as itself: between single or double quotes, with
escapes where it holds characters that are not shown, or with backslashes.
-/

namespace Quote

def isShown (c : Char) : Bool := ' ' ≤ c && c ≤ '~'

/-- Whether a text holds characters that are not shown. -/
def needsEscapes (r : Raw) : Bool := !r.toList.all isShown

def octal (n : Nat) : List Char :=
  [n / 64 % 8, n / 8 % 8, n % 8].map fun d => Char.ofNat (48 + d)

/-- A text in single quotes behind a dollar sign, in which a backslash starts an escape. -/
def escaped (r : Raw) : Raw :=
  let one (c : Char) : List Char :=
    match c with
    | '\x1b' => ['\\', 'E']
    | '\x07' => ['\\', 'a']
    | '\x0b' => ['\\', 'v']
    | '\x08' => ['\\', 'b']
    | '\x0c' => ['\\', 'f']
    | '\n' => ['\\', 'n']
    | '\r' => ['\\', 'r']
    | '\t' => ['\\', 't']
    | '\\' | '\'' => ['\\', c]
    | c => if isShown c then [c] else '\\' :: octal c.toNat
  "$'" ++ String.ofList (r.toList.flatMap one) ++ "'"

/-- A text in single quotes. -/
def single (r : Raw) : Raw :=
  if r == "'" then "\\'" else "'" ++ "'\\''".intercalate (r.splitOn "'") ++ "'"

/-- A text in double quotes. -/
def double (r : Raw) : Raw :=
  let one (c : Char) : List Char :=
    if c == '"' || c == '$' || c == '\\' || c == '\x60' then ['\\', c] else [c]
  "\"" ++ String.ofList (r.toList.flatMap one) ++ "\""

/-- The characters that mean something outside of quotes. -/
def special : List Char := " \t\n'\"\\|&;()<>!\x7b\x7d*[?]^$\x60".toList

/-- Whether a text would not be read as itself without quotes, given the character before it. -/
def holdsSpecial : Option Char → List Char → Bool
  | _, [] => false
  | before, c :: cs =>
    special.contains c ||
      (c == '~' && (before.isNone || before == some '=' || before == some ':')) ||
      (c == '#' && (before.isNone || before == some ' ' || before == some '\t')) ||
      holdsSpecial (some c) cs

def needsQuotes (r : Raw) : Bool := holdsSpecial none r.toList

/-- A text with backslashes before the characters that mean something. -/
def backslashed (r : Raw) : Raw :=
  let marked := special ++ [',']
  let rec go : Option Char → List Char → List Char
    | _, [] => []
    | before, c :: cs =>
      let isMarked := marked.contains c || (c == '#' && before.isNone) ||
        (c == '~' && (before.isNone || before == some '=' || before == some ':'))
      (if isMarked then ['\\', c] else [c]) ++ go (some c) cs
  String.ofList (go none r.toList)

/-- A text as a single word of a script. -/
def word (r : Raw) : Raw :=
  if r.isEmpty then "''" else if needsEscapes r then escaped r else backslashed r

/-- A text in quotes that can be read again. -/
def reusable (r : Raw) : Raw :=
  if r.isEmpty then "''" else if needsEscapes r then escaped r else single r

/-- A text in double quotes, or with escapes if it needs them. -/
def value (r : Raw) : Raw := if needsEscapes r then escaped r else double r

/-- A text in the quotes that it needs, if it needs any. -/
def asNeeded (r : Raw) : Raw :=
  if needsEscapes r then escaped r else if needsQuotes r then single r else r

end Quote

/-! ## Values -/

/-- The values of a row, the first place first, or of a table, the latest entry first. -/
inductive Items where
  | row (values : List (Nat × Raw))
  | table (values : List (Raw × Raw))
  deriving DecidableEq, Repr

namespace Items

/-- The bucket in which a table keeps a key. -/
def bucket (key : Raw) : Nat :=
  let step (i : Nat) (c : Char) : Nat :=
    let n := if c.toNat < 128 then c.toNat else Width.of32 - 256 + c.toNat
    (i * 16777619 % Width.of32) ^^^ n
  key.toList.foldl step 2166136261 % 1024

/-- What a table holds, the latest entry first, in the order in which it is listed. -/
def listedTable {α : Type} (values : List (Raw × α)) : List (Raw × α) :=
  values.mergeSort fun a b => bucket a.1 ≤ bucket b.1

/-- The values with their places, in the order in which they are listed. -/
def listed : Items → List (Raw × Raw)
  | .row vs => vs.map fun v => (toString v.1, v.2)
  | .table vs => listedTable vs

def size : Items → Nat
  | .row vs => vs.length
  | .table vs => vs.length

def isTable : Items → Bool
  | .row _ => false
  | .table _ => true

/-- The number behind the last place of a row. -/
def bound : Items → Nat
  | .row vs => (vs.getLast?.map fun v => v.1 + 1).getD 0
  | .table _ => 0

/-- The number of a place in a row. -/
def number (key : Raw) : Nat := key.toList.foldl (fun n c => 10 * n + (c.toNat - 48)) 0

def get? (items : Items) (key : Raw) : Option Raw :=
  match items with
  | .row vs => vs.lookup (number key)
  | .table vs => vs.lookup key

/-- Puts a value at a place of a row. -/
def putAt (n : Nat) (value : Raw) : List (Nat × Raw) → List (Nat × Raw)
  | [] => [(n, value)]
  | (m, w) :: rest =>
    if m < n then (m, w) :: putAt n value rest
    else if m = n then (n, value) :: rest
    else (n, value) :: (m, w) :: rest

def put (items : Items) (key value : Raw) : Items :=
  match items with
  | .row vs => .row (putAt (number key) value vs)
  | .table vs =>
    if (vs.lookup key).isSome then .table (vs.map fun v => if v.1 == key then (key, value) else v)
    else .table ((key, value) :: vs)

def drop (items : Items) (key : Raw) : Items :=
  match items with
  | .row vs => .row (vs.filter (·.1 != number key))
  | .table vs => .table (vs.filter (·.1 != key))

/-- A row of values at the places from 0 on. -/
def ofList (values : List Raw) : Items := .row ((values.zipIdx 0).map fun (v, n) => (n, v))

/-- The values between brackets. -/
def text (items : Items) : Raw :=
  let key (k : Raw) : Raw :=
    match items with
    | .row _ => k
    | .table _ => if Quote.needsEscapes k then Quote.escaped k
      else if k.isEmpty || Quote.needsQuotes k || k == "@" then Quote.double k else k
  let shown := items.listed.map fun (k, v) => "[" ++ key k ++ "]=" ++ Quote.value v
  let last := if items.isTable && !shown.isEmpty then " " else ""
  "(" ++ " ".intercalate shown ++ last ++ ")"

end Items

structure Variable where
  value : Option Raw
  exported : Bool := false
  readOnly : Bool := false
  /-- The values of a row or a table. Then the value only tells whether it has been given any. -/
  items : Option Items := none
  /-- Whether what it is given is a sum. -/
  integer : Bool := false
  /-- How the case of what it is given is turned: to lower, to upper, or to upper at the front. -/
  turn : Option Char := none
  /-- Whether it stands for the variable that its value names. -/
  refers : Bool := false
  /-- Whether functions that are called see it. -/
  traced : Bool := false
  deriving DecidableEq, Repr

namespace Variable

/-- The value that programs are given, if they are given any. -/
def passed? (v : Variable) : Option Raw := if v.exported && v.items.isNone then v.value else none

/-- The letters of the marks. -/
def letters (v : Variable) : Raw :=
  let mark (c : Char) (isSet : Bool) : List Char := if isSet then [c] else []
  String.ofList (
    (match v.items with
      | some (.row _) => ['a']
      | some (.table _) => ['A']
      | none => []) ++
    mark 'i' v.integer ++ mark 'n' v.refers ++ mark 'r' v.readOnly ++ mark 't' v.traced ++
    mark 'x' v.exported ++ v.turn.toList)

/-- The command that declares a variable as it is. -/
def declared (name : Raw) (v : Variable) : Raw :=
  let marks := if v.letters.isEmpty then "-" else v.letters
  let value : Raw := match v.items with
    | some i => if v.value.isSome then "=" ++ i.text else ""
    | none => (v.value.map fun r => "=" ++ Quote.value r).getD ""
  "declare -" ++ marks ++ " " ++ name ++ value

end Variable

end Host.Shell

end PolicyGate
