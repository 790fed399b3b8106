import PolicyGate.Host.Tool.Basic

/-!
# Bytes in letters

An *alphabet* gives letters for the same number of bits each. Bytes are written in groups that take a
whole number of letters; a group that is not full is filled up with a sign that is no letter.
-/

namespace PolicyGate

namespace Host.Tool

structure Alphabet where
  letters : List Char
  /-- The number of bits of a letter. -/
  bits : Nat
  /-- The number of bytes of a group. -/
  group : Nat
  /-- Whether a byte's least weighty bit comes first. -/
  lowFirst : Bool := false

namespace Alphabet

def capitals : List Char := "ABCDEFGHIJKLMNOPQRSTUVWXYZ".toList
def digits : List Char := "0123456789".toList

def base64 : Alphabet :=
  ⟨capitals ++ "abcdefghijklmnopqrstuvwxyz".toList ++ digits ++ ['+', '/'], 6, 3, false⟩
def base64url : Alphabet := { base64 with letters := base64.letters.take 62 ++ ['-', '_'] }
def base32 : Alphabet := ⟨capitals ++ "234567".toList, 5, 5, false⟩
def base32hex : Alphabet := { base32 with letters := digits ++ capitals.take 22 }
def base16 : Alphabet := ⟨digits ++ capitals.take 6, 4, 1, false⟩
def base2msbf : Alphabet := ⟨['0', '1'], 1, 1, false⟩
def base2lsbf : Alphabet := { base2msbf with lowFirst := true }

/-- The number of letters of a group. -/
def size (a : Alphabet) : Nat := 8 * a.group / a.bits

/-- One group in letters. -/
def groupText (a : Alphabet) (bytes : List UInt8) : List Char :=
  let full := bytes ++ List.replicate (a.group - bytes.length) 0
  let n := full.foldl (fun n b => n * 256 + b.toNat) 0
  let used := (8 * bytes.length + a.bits - 1) / a.bits
  let letter (i : Nat) : Char :=
    (a.letters[n / Nat.pow 2 (a.bits * (a.size - 1 - i)) % a.letters.length]?).getD '0'
  let text := (List.range used).map letter
  (if a.lowFirst then text.reverse else text) ++ List.replicate (a.size - used) '='

/-- Bytes in letters. The first argument bounds the number of groups. -/
def encode (a : Alphabet) : Nat → List UInt8 → List Char
  | 0, _ => []
  | fuel + 1, bytes =>
    if bytes.isEmpty then []
    else a.groupText (bytes.take a.group) ++ encode a fuel (bytes.drop a.group)

/-- The bytes of one group, and whether it is written well. What stands in front of a fault still
counts. -/
def groupBytes (a : Alphabet) (cs : List Char) : List UInt8 × Bool :=
  let values := (cs.takeWhile fun c => a.letters.contains c).filterMap a.letters.idxOf?
  let values := if a.lowFirst then values.reverse else values
  let used := values.length
  let n := (values ++ List.replicate (a.size - used) 0).foldl (fun n v => n * a.letters.length + v) 0
  let count := used * a.bits / 8
  let bytes := (List.range count).map fun i => UInt8.ofNat (n / Nat.pow 256 (a.group - 1 - i) % 256)
  let needed := (8 * count + a.bits - 1) / a.bits
  (bytes, cs.length == a.size && (cs.drop used).all (· == '=') && 0 < count && used == needed)

/-- The bytes that letters stand for, and whether they are written well. -/
def decode (a : Alphabet) : Nat → List Char → List UInt8 × Bool
  | 0, _ => ([], true)
  | fuel + 1, cs =>
    if cs.isEmpty then ([], true)
    else
      let (bytes, fine) := a.groupBytes (cs.take a.size)
      if fine then
        let (more, fine) := decode a fuel (cs.drop a.size)
        (bytes ++ more, fine)
      else (bytes, false)

end Alphabet

/-- Cuts letters into lines of a width. -/
def lettersInLines (width : Nat) (cs : List Char) : List Char :=
  if width = 0 then cs
  else
    let rows := (List.range ((cs.length + width - 1) / width)).map fun i =>
      (cs.drop (width * i)).take width ++ ['\n']
    rows.flatten

def encoding (tool : String) : Known :=
  { tool, plain := "di", withArgument := "w"
    long := [("decode", 'd'), ("wrap", 'w'), ("ignore-garbage", 'i')] ++
      (if tool == "basenc" then
        [("base64", 'A'), ("base64url", 'B'), ("base32", 'C'), ("base32hex", 'D'), ("base16", 'E'),
          ("base2msbf", 'F'), ("base2lsbf", 'G')]
      else []) }

/-- Writes its input in the letters of an alphabet, or reads such letters. -/
def encodedIn (tool : String) (a : Alphabet) (s : Scene) (o : Options) : Ran :=
  let width := (o.value? 'w').map count?
  match width, o.operands with
  | some none, _ => complain (tool ++ ": invalid wrap size: " ++ quoted ((o.value? 'w').getD "")) 1
  | _, _ :: extra :: _ => (encoding tool).refuse ("extra operand " ++ quoted extra)
  | width, paths =>
    let (found, bad) := sources tool s paths
    if !bad.isEmpty then ({ status := 1 } : Ran).after bad 1
    else
      let bytes := (joined found).bytes
      let r : Ran :=
        if o.has 'd' then
          let cs := (Raw.ofBytes bytes).toList.filter fun c =>
            if o.has 'i' then c == '=' || a.letters.contains c else c != '\n'
          let (out, fine) := a.decode (cs.length + 1) cs
          if fine then wrote out 0
          else { writes := [(false, out), complaint (tool ++ ": invalid input")], status := 1 }
        else
          let text := a.encode (bytes.length + 1) bytes
          said (String.ofList (lettersInLines ((width.bind id).getD 76) text)) 0
      reading paths r

def base64 (s : Scene) (args : List Raw) : Ran :=
  (encoding "base64").run args (encodedIn "base64" .base64 s)

def base32 (s : Scene) (args : List Raw) : Ran :=
  (encoding "base32").run args (encodedIn "base32" .base32 s)

def basenc (s : Scene) (args : List Raw) : Ran :=
  (encoding "basenc").run args fun o =>
    let alphabets : List (Char × Alphabet) :=
      [('A', .base64), ('B', .base64url), ('C', .base32), ('D', .base32hex), ('E', .base16),
        ('F', .base2msbf), ('G', .base2lsbf)]
    match (o.given.filterMap fun g => alphabets.lookup g.1).getLast? with
    | some a => encodedIn "basenc" a s o
    | none => (encoding "basenc").refuse "missing encoding type"

end Host.Tool

end PolicyGate
