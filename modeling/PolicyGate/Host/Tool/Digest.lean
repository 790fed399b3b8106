import PolicyGate.Host.Digest
import PolicyGate.Host.Tool.Encoded

/-!
# Tools that compute digests

They write the digest of each file, or check digests that were written before.
-/

namespace PolicyGate

namespace Host.Tool

/-- A kind of digest: the tool that is named for it, its tag, and its bytes for bytes. -/
structure DigestKind where
  tool : String
  tag : String
  digest : List UInt8 → List UInt8

def digestKinds : List DigestKind :=
  [⟨"md5sum", "MD5", Digest.md5⟩, ⟨"sha1sum", "SHA1", Digest.sha1⟩,
    ⟨"sha224sum", "SHA224", Digest.sha224⟩, ⟨"sha256sum", "SHA256", Digest.sha256⟩,
    ⟨"sha384sum", "SHA384", Digest.sha384⟩, ⟨"sha512sum", "SHA512", Digest.sha512⟩,
    ⟨"b2sum", "BLAKE2b", Digest.blake2b 64⟩]

/-- A name in a list of digests. A backslash and a line end in it are escaped, and the line then starts
with a backslash. -/
def listedName (path : Raw) : Raw × Raw :=
  if path.toList.any fun c => c == '\\' || c == '\n' || c == '\r' then
    ("\\", String.join (path.toList.map fun c =>
      if c == '\\' then "\\\\" else if c == '\n' then "\\n" else if c == '\r' then "\\r" else c.toString))
  else ("", path)

/-- How digests are written. -/
structure DigestStyle where
  tagged : Bool := false
  binary : Bool := false
  ending : UInt8 := 0x0A

def DigestStyle.line (st : DigestStyle) (tag : Raw) (digest path : Raw) : List UInt8 :=
  let (mark, name) := if st.ending = 0 then ("", path) else listedName path
  Raw.toBytes (if st.tagged then mark ++ tag ++ " (" ++ name ++ ") = " ++ digest
    else mark ++ digest ++ (if st.binary then " *" else "  ") ++ name) ++ [st.ending]

/-! ## Checking -/

/-- The kinds that lines of a list may be tagged with, the kind of a digest without a tag, and whether
digests may be in base 64, which then wins. -/
structure Listing where
  tagged : List DigestKind
  bare : Option DigestKind
  packed : Bool := false

/-- A line of a list that has a form: the kind, the digest in base 16, and the path. -/
structure Listed where
  kind : DigestKind
  digest : Raw
  path : Raw

def isHex (cs : List Char) : Bool := cs.all fun c => c.isDigit || ('a' ≤ c.toLower && c.toLower ≤ 'f')

def isBlankMark (c : Char) : Bool := c == ' ' || c == '\t'

/-- A path without its escapes, unless one of them is of no kind. -/
def unescaped? : List Char → Option (List Char)
  | '\\' :: '\\' :: cs => (unescaped? cs).map ('\\' :: ·)
  | '\\' :: 'n' :: cs => (unescaped? cs).map ('\n' :: ·)
  | '\\' :: 'r' :: cs => (unescaped? cs).map ('\r' :: ·)
  | '\\' :: _ => none
  | c :: cs => (unescaped? cs).map (c :: ·)
  | [] => some []

/-- The size of a digest in bytes. -/
def DigestKind.size (k : DigestKind) : Nat := (k.digest []).length

/-- The kind with digests of another size, where there are such sizes. -/
def DigestKind.ofSize? (k : DigestKind) (size : Nat) : Option DigestKind :=
  if k.tag == "BLAKE2b" then
    if size = 0 || 64 < size then none else some { k with digest := Digest.blake2b size }
  else if size = k.size then some k
  else none

/-- A digest of a kind as its text in base 16. -/
def Listing.digest? (m : Listing) (k : DigestKind) (cs : List Char) : Option Raw :=
  if m.packed && cs.length == 4 * ((k.size + 2) / 3) then
    let (bytes, fine) := Alphabet.base64.decode (cs.length + 1) cs
    if fine && bytes.length == k.size then some (Digest.hexText bytes) else none
  else if cs.length == 2 * k.size && isHex cs then some (String.ofList (cs.map Char.toLower))
  else none

/-- Reads the rest of a line behind its tag: a path in brackets, a sign and the digest. -/
def taggedPath? (m : Listing) (k : DigestKind) (escaped : Bool) (cs : List Char) : Option Listed :=
  let cs := if cs.head? == some ' ' then cs.tail else cs
  match cs with
  | '(' :: inside =>
    let back := inside.reverse
    let digest := (back.takeWhile (· != ')')).reverse
    let path := ((back.dropWhile (· != ')')).drop 1).reverse
    match digest.dropWhile isBlankMark with
    | '=' :: digest =>
      if inside.contains ')' then do
        let path ← if escaped then unescaped? path else some path
        let digest ← m.digest? k (digest.dropWhile isBlankMark)
        some ⟨k, digest, String.ofList path⟩
      else none
    | _ => none
  | _ => none

/-- Reads a tag at the front of a line: its kind, and what is behind it. A tag may say how many bits
its digests have. -/
def tagged? (kinds : List DigestKind) (cs : List Char) : Option (DigestKind × List Char) :=
  kinds.findSome? fun k =>
    if k.tag.toList.isPrefixOf cs then
      match cs.drop k.tag.length with
      | '-' :: rest =>
        let bits := rest.takeWhile Char.isDigit
        if numeral bits % 8 = 0 then
          (k.ofSize? (numeral bits / 8)).map fun k => (k, rest.drop bits.length)
        else none
      | rest => if rest.head?.any fun c => c == ' ' || c == '(' then some (k, rest) else none
    else none

/-- A line of a list, given the form of the lines before: with one blank between digest and path, or
with a blank and a mark. -/
def listed? (m : Listing) (single : Option Bool) (line : Raw) : Option (Listed × Option Bool) :=
  let cs := line.toList.dropWhile isBlankMark
  let escaped := cs.head? == some '\\'
  let cs := if escaped then cs.tail else cs
  match tagged? m.tagged cs with
  | some (k, rest) => (taggedPath? m k escaped rest).map (·, single)
  | none => do
    let word := cs.takeWhile fun c => !isBlankMark c
    let bare ← m.bare
    let k ← if bare.tag == "BLAKE2b" then bare.ofSize? ((word.takeWhile (isHex [·])).length / 2)
      else some bare
    let digest ← m.digest? k word
    match cs.drop word.length with
    | _ :: path =>
      let isSingle := path.length == 1 || !(path.head? == some ' ' || path.head? == some '*')
      if path.isEmpty || (isSingle && single == some false) then none
      else
        let single := if isSingle then some true else some (single.getD false)
        let path := if single == some true then path else path.tail
        let path ← if escaped then unescaped? path else some path
        some (⟨k, digest, String.ofList path⟩, single)
    | [] => none

/-- What checking has come upon. -/
structure Checked where
  writes : List (Bool × List UInt8) := []
  single : Option Bool := none
  good : Nat := 0
  bad : Nat := 0
  unread : Nat := 0
  unlike : Nat := 0
  passed : Nat := 0

/-- A count with its word. -/
def countWords (n : Nat) (one many : Raw) : Raw := toString n ++ " " ++ (if n = 1 then one else many)

/-- Checks the lines of one list. -/
def checkedList (k : DigestKind) (m : Listing) (s : Scene) (o : Options) (path : Raw)
    (t : Stream) : Checked :=
  let loud := !o.has 's'
  let say (name state : Raw) : List (Bool × List UInt8) :=
    let (mark, shown) := listedName name
    if loud then [(false, ended (mark ++ shown ++ ": " ++ state))] else []
  let step : Checked → Raw × Nat → Checked := fun acc (line, number) =>
    let line := if line.endsWith "\r" then String.ofList line.toList.dropLast else line
    if line.startsWith "#" || line.isEmpty then acc
    else
      match listed? m acc.single line with
      | none =>
        { acc with
          unlike := acc.unlike + 1
          writes := acc.writes ++ (if o.has 'w' then
            [complaint (k.tool ++ ": " ++ path ++ ": " ++ toString number ++
              ": improperly formatted " ++ k.tag ++ " checksum line")] else []) }
      | some (l, single) =>
        let acc := { acc with single }
        match contents? s l.path with
        | .error e =>
          if o.has 'i' && e == reason .notFound then { acc with passed := acc.passed + 1 }
          else
            { acc with
              unread := acc.unread + 1
              writes := acc.writes ++ complaint (k.tool ++ ": " ++ l.path ++ ": " ++ e) ::
                say l.path "FAILED open or read" }
        | .ok content =>
          if Digest.hexText (l.kind.digest content.bytes) == l.digest then
            { acc with
              good := acc.good + 1
              writes := acc.writes ++ (if o.has 'q' then [] else say l.path "OK") }
          else { acc with bad := acc.bad + 1, writes := acc.writes ++ say l.path "FAILED" }
  ((plainLines t.bytes).zipIdx 1).foldl step {}

/-- What is said in the end on a list, and whether all is well with it. -/
def checkedEnd (k : DigestKind) (o : Options) (path : Raw) (c : Checked) : List Raw × Bool :=
  let warning (r : Raw) : Raw := k.tool ++ ": WARNING: " ++ r
  if c.good + c.bad + c.unread + c.passed = 0 then
    ([k.tool ++ ": " ++ path ++ ": no properly formatted checksum lines found"], false)
  else
    let notes := if o.has 's' then [] else
      (if c.unlike = 0 then [] else
        [warning (countWords c.unlike "line is improperly formatted" "lines are improperly formatted")]) ++
      (if c.unread = 0 then [] else
        [warning (countWords c.unread "listed file could not be read"
          "listed files could not be read")]) ++
      (if c.bad = 0 then [] else
        [warning (countWords c.bad "computed checksum did NOT match"
          "computed checksums did NOT match")]) ++
      (if o.has 'i' && c.good = 0 then [k.tool ++ ": " ++ path ++ ": no file was verified"] else [])
    (notes, 0 < c.good && c.bad = 0 && c.unread = 0 && !(o.has 'S' && 0 < c.unlike))

/-! ## The tools -/

def digestKnown (tool : String) : Known :=
  let sized := tool == "b2sum" || tool == "cksum"
  { tool, plain := "btcwz" ++ (if tool == "cksum" then "TU" else "")
    withArgument := (if sized then "l" else "") ++ (if tool == "cksum" then "a" else "")
    long := [("binary", 'b'), ("text", 't'), ("check", 'c'), ("tag", 'T'), ("quiet", 'q'),
      ("status", 's'), ("warn", 'w'), ("zero", 'z'), ("strict", 'S'), ("ignore-missing", 'i')] ++
      (if sized then [("length", 'l')] else []) ++
      (if tool == "cksum" then [("algorithm", 'a'), ("untagged", 'U'), ("raw", 'r'), ("base64", 'B')]
        else []) }

/-- What is wrong with a size in bits that digests are to have. -/
def sizeFault? (o : Options) (k : DigestKind) : Option Raw :=
  let broken (r what : Raw) : Raw :=
    k.tool ++ ": invalid length: " ++ quoted r ++
      (if what.isEmpty then "" else "\n" ++ k.tool ++ ": " ++ what)
  (o.value? 'l').bind fun r =>
    match count? r with
    | none => some (broken r "")
    | some 0 => none
    | some n =>
      if k.tag != "BLAKE2b" then
        some (k.tool ++ ": --length is only supported with --algorithm=blake2b")
      else if 512 < n then some (broken r "maximum digest length for 'BLAKE2b' is 512 bits")
      else if n % 8 != 0 then some (broken r "length is not a multiple of 8")
      else none

/-- Which options do not go together. -/
def digestFault? (o : Options) (forCksum : Bool) : Option Raw :=
  let marks := o.given.filterMap fun g => if ['b', 't', 'T'].contains g.1 then some g.1 else none
  let named : List (Char × Raw) :=
    [('i', "--ignore-missing"), ('s', "--status"), ('w', "--warn"), ('q', "--quiet"),
      ('S', "--strict")]
  if o.has 'B' && o.has 'r' then some "--base64 and --raw are mutually exclusive"
  else if o.has 'T' && marks.getLast? == some 't' then some "--tag does not support --text mode"
  else if o.has 'z' && o.has 'c' then
    some "the --zero option is not supported when verifying checksums"
  else if o.has 'T' && o.has 'c' && !forCksum then
    some "the --tag option is meaningless when verifying checksums"
  else if (o.has 'b' || o.has 't') && o.has 'c' then
    some "the --binary and --text options are meaningless when verifying checksums"
  else if o.has 'c' then none
  else
    (named.find? fun n => o.has n.1).map fun n =>
      "the " ++ n.2 ++ " option is meaningful only when verifying checksums"

/-- Computes or checks digests of a kind. -/
def digestsOf (k : DigestKind) (m : Listing) (s : Scene) (o : Options) (tagged : Bool) : Ran :=
  let bits := ((o.value? 'l').bind count?).getD 0
  let kind := if bits = 0 then k else (k.ofSize? (bits / 8)).getD k
  let tag := if bits = 0 || bits = 8 * k.size then k.tag else k.tag ++ "-" ++ toString bits
  let paths := if o.operands.isEmpty then ["-"] else o.operands
  let marks := o.given.filterMap fun g => if g.1 == 'b' || g.1 == 't' then some g.1 else none
  let style : DigestStyle :=
    { tagged, binary := marks.getLast? == some 'b', ending := if o.has 'z' then 0 else 0x0A }
  let shown (bytes : List UInt8) : Raw :=
    if o.has 'B' then String.ofList (Alphabet.base64.encode (bytes.length + 1) bytes)
    else Digest.hexText bytes
  let one (path : Raw) (content : Except Raw Stream) : List (Bool × List UInt8) × Bool :=
    match content with
    | .error e => ([complaint (k.tool ++ ": " ++ path ++ ": " ++ e)], false)
    | .ok t =>
      if o.has 'c' then
        let name := if path == "-" then "'standard input'" else path
        let c := checkedList k m s o name t
        let (notes, fine) := checkedEnd k o name c
        (c.writes ++ notes.map complaint, fine)
      else if o.has 'r' then ([(false, kind.digest t.bytes)], true)
      else ([(false, style.line tag (shown (kind.digest t.bytes)) path)], true)
  match sizeFault? o k, digestFault? o (k.tool == "cksum") with
  | some fault, _ => complain fault 1
  | none, some fault => (digestKnown k.tool).refuse fault
  | none, none =>
    let all := (contentsInTurn s paths).map fun (path, content) => one path content
    reading o.operands
      { writes := all.flatMap (·.1), status := if all.all (·.2) then 0 else 1 }

def digestTool (k : DigestKind) (s : Scene) (args : List Raw) : Ran :=
  (digestKnown k.tool).run args fun o => digestsOf k ⟨[k], some k, false⟩ s o (o.has 'T')

/-- A sum of each file, with the number of its bytes or blocks. -/
def sumsOf (tool : String) (line : List UInt8 → Raw → List UInt8) (s : Scene) (o : Options) : Ran :=
  let paths := if o.operands.isEmpty then ["-"] else o.operands
  let all := (contentsInTurn s paths).map fun (path, content) =>
    match content with
    | .error e => complaint (tool ++ ": " ++ path ++ ": " ++ e)
    | .ok t => (false, line t.bytes (if o.operands.isEmpty then "" else " " ++ path))
  reading o.operands { writes := all, status := if all.any (·.1) then 1 else 0 }

def widened (width : Nat) (fill : Char) (n : Nat) : Raw :=
  let ds := Nat.toDigits 10 n
  String.ofList (List.replicate (width - ds.length) fill ++ ds)

def turnedLine (bytes : List UInt8) (name : Raw) : List UInt8 :=
  ended (widened 5 '0' (Digest.turnedSum bytes) ++ " " ++
    widened 5 ' ' ((bytes.length + 1023) / 1024) ++ name)

def foldedLine (bytes : List UInt8) (name : Raw) : List UInt8 :=
  ended (toString (Digest.foldedSum bytes) ++ " " ++ toString ((bytes.length + 511) / 512) ++ name)

def redundancyLine (bytes : List UInt8) (name : Raw) : List UInt8 :=
  ended (toString (Digest.redundancy bytes) ++ " " ++ toString bytes.length ++ name)

/-- The redundancy code as four bytes, the highest first. -/
def redundancyWord (bytes : List UInt8) : List UInt8 :=
  let n := Digest.redundancy bytes
  [n / 16777216 % 256, n / 65536 % 256, n / 256 % 256, n % 256].map UInt8.ofNat

def sum (s : Scene) (args : List Raw) : Ran :=
  ({ tool := "sum", plain := "rs", long := [("sysv", 's')] } : Known).run args fun o =>
    let folded := (o.given.getLast?.map (·.1)) == some 's'
    sumsOf "sum" (if folded then foldedLine else turnedLine) s o

def cksum (s : Scene) (args : List Raw) : Ran :=
  let k := digestKnown "cksum"
  k.run args fun o =>
    let names := ["bsd", "sysv", "crc", "md5", "sha1", "sha224", "sha256", "sha384", "sha512",
      "blake2b", "sm3"]
    let name := (o.value? 'a').getD "crc"
    let known := digestKinds.map fun kind => { kind with tool := "cksum" }
    let bare : DigestKind := ⟨"cksum", "CRC", fun _ => []⟩
    let sums (line : List UInt8 → Raw → List UInt8) : Ran :=
      match sizeFault? o bare, digestFault? o true with
      | some fault, _ => complain fault 1
      | none, some fault => k.refuse fault
      | none, none =>
        if o.has 'r' && 1 < o.operands.length then
          complain "cksum: the --raw option is not supported with multiple files" 1
        else if o.has 'c' && (o.value? 'a').isSome then
          complain "cksum: --check is not supported with --algorithm=\x7bbsd,sysv,crc\x7d" 1
        else if o.has 'c' then digestsOf bare ⟨known, none, true⟩ s o false
        else sumsOf "cksum" line s o
    match ((names.drop 3).zip known).lookup name with
    | some kind =>
      if o.has 'r' && 1 < o.operands.length then
        complain "cksum: the --raw option is not supported with multiple files" 1
      else digestsOf kind ⟨[kind], some kind, true⟩ s o (!o.has 'U')
    | none =>
      if name == "crc" then sums fun bytes path =>
        if o.has 'r' then (redundancyWord bytes) else if o.has 'z' then (redundancyLine bytes path).dropLast ++ [0]
        else redundancyLine bytes path
      else if name == "bsd" then sums turnedLine
      else if name == "sysv" then sums foldedLine
      else
        complain ("cksum: invalid argument " ++ quoted name ++
          " for '--algorithm'\nValid arguments are:" ++
          String.join (names.map fun n => "\n  - " ++ quoted n) ++ k.hint) 1

end Host.Tool

end PolicyGate
