import PolicyGate.Decimal.Rounded
import PolicyGate.Host.Raw
import PolicyGate.Width

/-!
# Formatted output

The escapes and directives of `printf`, and the escapes of `echo`. Both write bytes: an octal escape
stands for a byte, not for a character. The rich notation of scripts has more of both, and words of its
own for what is wrong, and so have the tools that are programs of their own.
-/

namespace PolicyGate

namespace Host

/-! ## Escapes -/

def isOctal (c : Char) : Bool := '0' ≤ c && c ≤ '7'

/-- The byte of up to `n` octal digits. -/
def octalByte (n : Nat) (cs : List Char) : UInt8 :=
  (((cs.take n).takeWhile isOctal).foldl (fun (v : Nat) (c : Char) => v * 8 + (c.toNat - 48)) 0).toUInt8

/-- How many of the next `n` characters are octal digits. -/
def octalLength (n : Nat) (cs : List Char) : Nat := ((cs.take n).takeWhile isOctal).length

/-- The byte that a one-letter escape stands for. -/
def letterEscape? : Char → Option UInt8
  | 'a' => some 0x07
  | 'b' => some 0x08
  | 'e' => some 0x1B
  | 'f' => some 0x0C
  | 'n' => some 0x0A
  | 'r' => some 0x0D
  | 't' => some 0x09
  | 'v' => some 0x0B
  | '\\' => some 0x5C
  | _ => none

/-- Whose formats and escapes are meant. -/
inductive Dialect where
  /-- Those of scripts. -/
  | plain
  /-- Those of scripts in the rich notation. -/
  | rich
  /-- Those of programs of their own. -/
  | program
  deriving DecidableEq, Repr

/-- Where an escape stands. -/
inductive EscapePlace where
  | format
  | argument
  /-- The words that `echo` writes. -/
  | words
  deriving DecidableEq, Repr

def byteOf (c : Char) : UInt8 := UInt8.ofNat c.toNat

def hexValue? (c : Char) : Option Nat :=
  let v := if c.isDigit then c.toNat - 48
    else if 'a' ≤ c.toLower && c.toLower ≤ 'f' then c.toLower.toNat - 87 else 16
  if v < 16 then some v else none

/-- The number of up to `n` hexadecimal digits, and how many there are. -/
def hexNumber (n : Nat) (cs : List Char) : Nat × Nat :=
  let ds := (cs.take n).takeWhile fun c => (hexValue? c).isSome
  (ds.foldl (fun n c => n * 16 + (hexValue? c).getD 0) 0, ds.length)

/-- A number in capital hexadecimal digits, with zeros in front. -/
def hexText (width n : Nat) : List Char :=
  let ds := (Nat.toDigits 16 n).map Char.toUpper
  List.replicate (width - ds.length) '0' ++ ds

/-- Reads a character that is written by its number, after its backslash. One that no byte stands for
is written as its escape. -/
def numberEscape? (withNames : Bool) (cs : List Char) : Option (List UInt8 × Nat) :=
  match cs with
  | 'x' :: rest =>
    let (n, size) := hexNumber 2 rest
    if size = 0 then none else some ([UInt8.ofNat n], 1 + size)
  | c :: rest =>
    if withNames && (c == 'u' || c == 'U') then
      let width := if c == 'u' then 4 else 8
      let (n, size) := hexNumber width rest
      if size = 0 then none
      else if n < 128 then some ([UInt8.ofNat n], 1 + size)
      else some (('\\' :: c :: hexText width n).map byteOf, 1 + size)
    else none
  | [] => none

/-- Reads an escape that scripts do not know, after its backslash. -/
def furtherEscape? (d : Dialect) (place : EscapePlace) (cs : List Char) : Option (List UInt8 × Nat) :=
  match d, cs with
  | .plain, _ => none
  | .rich, 'E' :: _ => some ([0x1B], 1)
  | _, cs => numberEscape? (d == .rich || place != .words) cs

/-- Reads an escape after its backslash: its bytes, and how many characters it takes. In an argument
an octal escape may start with an extra zero; in a format a quote may be escaped. -/
def escapeBytes (d : Dialect) (place : EscapePlace) (cs : List Char) : List UInt8 × Nat :=
  match furtherEscape? d place cs with
  | some found => found
  | none =>
  match cs with
  | [] => ([0x5C], 0)
  | c :: rest =>
    match letterEscape? c with
    | some b => ([b], 1)
    | none =>
      if place != .format && c == '0' && rest.head?.any isOctal then
        ([octalByte 3 rest], 1 + octalLength 3 rest)
      else if isOctal c && (place != .words || d != .rich || c == '0') then
        ([octalByte 3 cs], octalLength 3 cs)
      else if c == '"' && (place == .format || (d == .program && place == .argument)) then
        ([byteOf c], 1)
      else if c == '\'' && place == .format && d != .program then ([byteOf c], 1)
      else if d == .rich && place == .format && c == '?' then ([byteOf c], 1)
      else ([0x5C, byteOf c], 1)

/-- Whether the escape of a character by its number lacks the number. -/
def lacksNumber (cs : List Char) : Bool :=
  match cs with
  | c :: rest => "xuU".toList.contains c && !rest.head?.any fun c => (hexValue? c).isSome
  | [] => false

/-- The bytes of an argument with escapes, and whether an escape ends all output. -/
def unescapeAt (d : Dialect) (place : EscapePlace) : List Char → List UInt8 × Bool
  | [] => ([], false)
  | c :: cs =>
    if c == '\\' then
      if cs.head? == some 'c' then ([], true)
      else
        let (bytes, n) := escapeBytes d place cs
        let (more, ended) := unescapeAt d place (cs.drop n)
        (bytes ++ more, ended)
    else
      let (more, ended) := unescapeAt d place cs
      (byteOf c :: more, ended)
termination_by cs => cs.length
decreasing_by all_goals (simp only [List.length_cons, List.length_drop]; omega)

def unescape (cs : List Char) : List UInt8 × Bool := unescapeAt .plain .argument cs

/-! ## Directives -/

/-- A directive: what stands between a percent sign and its letter, and the letter. -/
structure Directive where
  left : Bool := false
  zeros : Bool := false
  plus : Bool := false
  blank : Bool := false
  alternative : Bool := false
  width : Nat := 0
  precision : Option Nat := none

def numberOf (cs : List Char) : Nat :=
  (cs.takeWhile Char.isDigit).foldl (fun (v : Nat) (c : Char) => v * 10 + (c.toNat - 48)) 0

/-- Fills up to the width. -/
def pad (d : Directive) (zeros : Bool) (lead body : Raw) : Raw :=
  let n := d.width - (lead.length + body.length)
  let fill (c : Char) : Raw := String.ofList (List.replicate n c)
  if d.left then lead ++ body ++ fill ' '
  else if zeros then lead ++ fill '0' ++ body
  else fill ' ' ++ lead ++ body

def signText (d : Directive) (negative : Bool) : Raw :=
  if negative then "-" else if d.plus then "+" else if d.blank then " " else ""

/-- A number in some base, as a directive asks for it. -/
def showNumber (d : Directive) (letter : Char) (n : Int) : Raw :=
  let base := if letter == 'o' then 8 else if letter == 'x' || letter == 'X' then 16 else 10
  let signed := letter == 'd' || letter == 'i'
  let value := if signed then n.natAbs else (n % Width.of64).toNat
  let digits := if d.precision == some 0 && value = 0 then [] else Nat.toDigits base value
  let digits := List.replicate (d.precision.getD 0 - digits.length) '0' ++ digits
  let digits := if d.alternative && letter == 'o' && digits.head? != some '0' then '0' :: digits
    else digits
  let digits := if letter == 'X' then digits.map Char.toUpper else digits
  let lead := if signed then signText d (n < 0)
    else if d.alternative && value != 0 && base = 16 then (if letter == 'X' then "0X" else "0x")
    else ""
  pad d (d.zeros && d.precision.isNone) lead (String.ofList digits)

/-- A number with a point, as a directive asks for it. -/
def showFloat (d : Directive) (letter : Char) (x : Float) : Raw :=
  let lower := letter.toLower
  let style : Double.Style := if lower == 'f' then .fixed else if lower == 'e' then .scientific
    else .general
  let v := Double.ofFloat x
  let isNumber := match v with
    | .nan | .infinite _ => false
    | _ => true
  let text := v.text style (d.precision.getD 6) d.alternative
  let text := if letter.isUpper then String.ofList (text.toList.map Char.toUpper) else text
  pad d (d.zeros && isNumber) (signText d v.isNegative) text

/-! ## Arguments -/

/-- Reads digits of a base. -/
def digitsIn (base : Nat) (cs : List Char) : Nat × List Char :=
  let ds := cs.takeWhile fun c => (hexValue? c).any (· < base)
  (ds.foldl (fun n c => n * base + (hexValue? c).getD 0) 0, cs.drop ds.length)

/-- Reads a whole number, whose first digits tell its base. -/
def wholeNumber? (cs : List Char) : Option (Int × List Char) :=
  let (negative, rest) := match cs with
    | '-' :: rest => (true, rest)
    | '+' :: rest => (false, rest)
    | rest => (false, rest)
  let sign (p : Nat × List Char) : Int × List Char := (if negative then -(p.1 : Int) else p.1, p.2)
  match rest with
  | '0' :: x :: more =>
    if (x == 'x' || x == 'X') && more.head?.any fun c => (hexValue? c).isSome then
      some (sign (digitsIn 16 more))
    else some (sign (digitsIn 8 rest))
  | c :: _ => if c.isDigit then some (sign (digitsIn (if c == '0' then 8 else 10) rest)) else none
  | [] => none

/-- A text in quotes, in which the quote and what is not shown are escaped. -/
def inQuotes (r : Raw) : Raw :=
  let one (c : Char) : List Char :=
    if c == '\'' || c == '\\' then ['\\', c]
    else if ' ' ≤ c && c ≤ '~' then [c]
    else
      match "\x07a\x08b\tt\nn\x0bv\x0cf\rr".toList.idxOf? c with
      | some i => '\\' :: (("\x07a\x08b\tt\nn\x0bv\x0cf\rr".toList)[i + 1]?).toList
      | none => '\\' :: [c.toNat / 64 % 8, c.toNat / 8 % 8, c.toNat % 8].map fun d => Char.ofNat (48 + d)
  "'" ++ String.ofList (r.toList.flatMap one) ++ "'"

/-- What is wrong with an argument that is no number as a whole. -/
def notANumber (d : Dialect) (whole : Bool) (arg : Raw) (some_ : Bool) : Raw :=
  match d with
  | .plain => arg ++ (if some_ then ": not completely converted" else ": expected numeric value")
  | .program =>
    inQuotes arg ++ (if some_ then ": value not completely converted" else ": expected a numeric value")
  | .rich =>
    let cs := arg.toList.dropWhile fun c => c == ' '
    let kind : Raw := match if whole then cs else [] with
      | '0' :: 'x' :: _ | '0' :: 'X' :: _ => "hex "
      | '0' :: _ => "octal "
      | _ => ""
    arg ++ ": invalid " ++ kind ++ "number"

/-- The value of an argument that has to be a number, and what is wrong with it. A quote makes a
number of a character. -/
def valueOf {α : Type} (d : Dialect) (whole : Bool) (read : List Char → Option (α × List Char)) (zero : α)
    (ofNat : Nat → α) (arg : Raw) : α × Option Raw :=
  let isBlank (c : Char) : Bool := c == ' ' || ('\t' ≤ c && c ≤ '\r')
  let character (cs : List Char) : α := ofNat ((cs.head?.map Char.toNat).getD 0)
  let number (cs : List Char) : α × Option Raw :=
    match read (cs.dropWhile isBlank) with
    | none => (zero, some (notANumber d whole arg false))
    | some (v, rest) => (v, if rest.isEmpty then none else some (notANumber d whole arg true))
  match arg.toList with
  | [] => (zero, none)
  | c :: cs =>
    if c != '"' && c != '\'' then number (c :: cs)
    else if d != .program then (character cs, none)
    else
      match cs with
      | [] => number [c]
      | _ :: [] => (character cs, none)
      | _ :: more =>
        (character cs, some ("warning: " ++ String.ofList more ++
          ": character(s) following character constant have been ignored"))

/-- A whole number within sixty-four bits. -/
def integerOf (d : Dialect) (signed : Bool) (arg : Raw) : Int × Option Raw :=
  let (n, fault) := valueOf d true wholeNumber? 0 (fun n => (n : Int)) arg
  let largest : Int := if signed then Width.of63 - 1 else Width.of64 - 1
  let least : Int := -(Width.of63 : Nat)
  let words : Raw := match d with
    | .plain => arg
    | .rich => "warning: " ++ arg
    | .program => inQuotes arg
  if n < least || largest < n then
    (if n < 0 then least else largest, some (words ++ ": Numerical result out of range"))
  else (n, fault)

/-! ## Formats -/

/-- What a format writes with the arguments it is given. -/
structure Formatted where
  /-- Whose format it is. -/
  dialect : Dialect := .plain
  /-- How an argument is quoted, and how a moment is shown in a form of its own. -/
  quote : Raw → Raw := id
  moment : Raw → Raw → Raw := fun _ _ => ""
  /-- What is written, the latest first. -/
  bytes : List (List UInt8) := []
  complaints : List Raw := []
  /-- Complaints that do not count. -/
  remarks : List Raw := []
  rest : List Raw
  /-- Whether an escape has ended all output. -/
  ended : Bool := false
  /-- Whether the format itself is wrong. -/
  broken : Bool := false

namespace Formatted

def rich (f : Formatted) : Bool := f.dialect == .rich

def isProgram (f : Formatted) : Bool := f.dialect == .program

def write (f : Formatted) (bytes : List UInt8) : Formatted := { f with bytes := bytes :: f.bytes }

def note (f : Formatted) (c : Option Raw) : Formatted :=
  match c with
  | some c =>
    if f.dialect != .plain && c.startsWith "warning: " then { f with remarks := f.remarks ++ [c] }
    else { f with complaints := f.complaints ++ [c] }
  | none => f

/-- Complains of something that does not make the format fail. -/
def remark (f : Formatted) (c : Raw) : Formatted := { f with remarks := f.remarks ++ [c] }

def fail (f : Formatted) (c : Raw) : Formatted :=
  { f.note (some c) with broken := true, ended := true }

/-- Takes the next argument. -/
def take (f : Formatted) : Raw × Formatted :=
  match f.rest with
  | a :: rest => (a, { f with rest })
  | [] => ("", f)

/-- Reads a number of a directive, which may be given by an argument. -/
def size (f : Formatted) (cs : List Char) : Option Int × List Char × Formatted :=
  match cs with
  | '*' :: rest =>
    let (a, f) := f.take
    let (n, fault) := integerOf f.dialect true a
    (some n, rest, f.note fault)
  | _ =>
    let ds := cs.takeWhile Char.isDigit
    (if ds.isEmpty then none else some (numberOf ds : Int), cs.drop ds.length, f)

/-- Writes an argument as a directive with its letter asks for it. -/
def argument (f : Formatted) (d : Directive) (letter : Char) : Formatted :=
  let (arg, f) := f.take
  let cut (r : Raw) : Raw := match d.precision with
    | some n => String.ofList (r.toList.take n)
    | none => r
  let put (f : Formatted) (r : Raw) : Formatted := f.write (Raw.toBytes r)
  if letter == 's' then put f (pad d false "" (cut arg))
  else if letter == 'c' then
    put f (pad d false "" (String.ofList [arg.toList.head?.getD '\x00']))
  else if letter == 'b' then
    let (bytes, ended) := unescapeAt f.dialect .argument arg.toList
    { put f (pad d false "" (cut (Raw.ofBytes bytes))) with ended }
  else if letter == 'q' then put f (pad d false "" (cut (f.quote arg)))
  else if letter == 'Q' then put f (pad d false "" (f.quote (cut arg)))
  else if letter == 'n' then f
  else if "diuoxX".toList.contains letter then
    let (n, fault) := integerOf f.dialect (letter == 'd' || letter == 'i') arg
    put (f.note fault) (showNumber d letter n)
  else
    let (x, fault) := valueOf f.dialect false Double.readAny? 0 Float.ofNat arg
    put (f.note fault) (showFloat d letter x)

/-- Refuses a directive, given what is read of it and its letter, if it has one. -/
def refuse (f : Formatted) (written : List Char) (letter : Option Char) : Formatted :=
  match f.dialect, letter with
  | .rich, none => f.fail "\x60%': missing format character"
  | .rich, some c => f.fail ("\x60" ++ c.toString ++ "': invalid format character")
  | .plain, none => f.fail "missing format character"
  | .plain, some _ => f.fail ("%" ++ String.ofList written ++ ": invalid directive")
  | .program, _ => f.fail ("%" ++ String.ofList written ++ ": invalid conversion specification")

/-- Whether a program refuses a letter behind some flags. -/
def isRefused (f : Formatted) (d : Directive) (isBare : Bool) (letter : Char) : Bool :=
  f.isProgram &&
    ((d.alternative && "cdisu".toList.contains letter) || (d.zeros && (letter == 'c' || letter == 's')) ||
      (d.precision.isSome && letter == 'c') || (!isBare && (letter == 'b' || letter == 'q')))

/-- Writes one directive, after its percent sign. -/
def directive (f : Formatted) (cs : List Char) : Formatted × List Char :=
  let isFlag (c : Char) : Bool := "-0+ #".toList.contains c || (f.isProgram && c == '\'')
  let flags := cs.takeWhile isFlag
  let (width, afterWidth, f) := f.size (cs.drop flags.length)
  let (precision, rest, f) := match afterWidth with
    | '.' :: more =>
      let (n, rest, f) := f.size more
      (some (n.getD 0), rest, f)
    | _ => (none, afterWidth, f)
  let w := width.getD 0
  let d : Directive :=
    { left := flags.contains '-' || w < 0, zeros := flags.contains '0', plus := flags.contains '+'
      blank := flags.contains ' ', alternative := flags.contains '#', width := w.natAbs
      precision := precision.bind fun n => if n < 0 then none else some n.toNat }
  let rest := if f.dialect != .plain then rest.dropWhile "hjlLtz".toList.contains else rest
  match rest with
  | [] => (f.refuse cs none, [])
  | letter :: after =>
    let known := match f.dialect with
      | .plain => "sbcdiuoxXeEfFgG"
      | .rich => "sbcdiuoxXeEfFgGqQn"
      | .program => "sbcdiuoxXeEfFgGq"
    if known.toList.contains letter && !f.isRefused d (rest.length = cs.length) letter then
      (f.argument d letter, after)
    else if f.rich && letter == '(' then
      let form := after.takeWhile (· != ')')
      match after.drop form.length with
      | _ :: 'T' :: more =>
        let (arg, f) := f.take
        (f.write (Raw.toBytes (pad d false "" (f.moment arg (String.ofList form)))), more)
      | _ => (f.refuse cs (some '('), [])
    else (f.refuse (cs.take (cs.length - after.length)) (some letter), [])

/-- Writes an escape of a format, after its backslash. -/
def escape (f : Formatted) (cs : List Char) : Formatted × List Char :=
  if f.isProgram && cs.head? == some 'c' then ({ f with ended := true }, [])
  else if f.isProgram && lacksNumber cs then (f.fail "missing hexadecimal number in escape", [])
  else
    let e := escapeBytes f.dialect .format cs
    let what : Raw := if cs.head? == some 'x' then "missing hex digit for \\" else
      "missing unicode digit for \\"
    let f := if f.rich && lacksNumber cs then f.remark (what ++ String.ofList (cs.take 1)) else f
    (f.write e.1, cs.drop e.2)

/-- Writes a format once. -/
def once : Nat → Formatted → List Char → Formatted
  | 0, f, _ => f
  | _ + 1, f, [] => f
  | fuel + 1, f, c :: cs =>
    if f.ended then f
    else if c == '\\' then
      let (f, rest) := f.escape cs
      once fuel f rest
    else if c == '%' then
      match cs with
      | '%' :: rest => once fuel (f.write [0x25]) rest
      | _ =>
        let (f, rest) := f.directive cs
        once fuel f rest
    else once fuel (f.write [byteOf c]) cs

/-- Writes a format again and again until the arguments are used up. -/
def all (format : List Char) : Nat → Formatted → Formatted
  | 0, f => f
  | fuel + 1, f =>
    let g := once (format.length + 1) f format
    if g.ended || g.rest.isEmpty then g
    else if g.rest.length = f.rest.length then
      if g.isProgram then
        g.remark ("warning: ignoring excess arguments, starting with " ++ inQuotes (g.rest.head?.getD ""))
      else g
    else all format fuel g

end Formatted

/-- What a format writes, with its complaints and whether it is wrong. -/
def format (form : Raw) (args : List Raw) : List UInt8 × List Raw × Bool :=
  let f := Formatted.all form.toList (args.length + 1) { rest := args }
  (f.bytes.reverse.flatten, f.complaints, f.broken)

/-- What a format of the rich notation writes, its complaints, and whether they count. -/
def richFormat (quote : Raw → Raw) (moment : Raw → Raw → Raw) (form : Raw) (args : List Raw) :
    List UInt8 × List Raw × Bool :=
  let f := Formatted.all form.toList (args.length + 1) { dialect := .rich, quote, moment, rest := args }
  (f.bytes.reverse.flatten, f.remarks ++ f.complaints, !f.complaints.isEmpty)

/-- What a format of a program writes, its complaints, and whether they count. -/
def programFormat (quote : Raw → Raw) (form : Raw) (args : List Raw) : List UInt8 × List Raw × Bool :=
  let f := Formatted.all form.toList (args.length + 1) { dialect := .program, quote, rest := args }
  (f.bytes.reverse.flatten, f.complaints ++ f.remarks, !f.complaints.isEmpty)

end Host

end PolicyGate
