import PolicyGate.Host.Format
import PolicyGate.Host.Regex.Written
import PolicyGate.Host.Tool.Change

/-!
# Tools that take files apart

They copy blocks of bytes, and cut a file into files of some size or at lines that fit.
-/

namespace PolicyGate

namespace Host.Tool

/-! ## Blocks -/

/-- A block of bytes, so many at a time. -/
def blocks (size : Nat) (bytes : List UInt8) : List (List UInt8) :=
  if _h : size = 0 ∨ bytes = [] then (if bytes.isEmpty then [] else [bytes])
  else bytes.take size :: blocks size (bytes.drop size)
termination_by bytes.length
decreasing_by
  have : bytes ≠ [] := fun e => _h (.inr e)
  have := List.length_pos_iff.2 this
  rw [List.length_drop]
  omega

/-- A count such as `2k` or `2x512`. -/
def product? (r : Raw) : Option Nat :=
  (r.splitOn "x").foldlM (fun n part => (count? part).map (n * ·)) 1

/-- A number of bytes with its unit, as it stands in a report. -/
def bytesText (n : Nat) : Raw :=
  let rec scaled : Nat → Nat → Nat → List Raw → Raw
    | 0, _, _, _ => ""
    | _ + 1, _, _, [] => ""
    | fuel + 1, base, unit, u :: us =>
      if n < unit * base || us.isEmpty then
        let tenths := (n * 10 + unit / 2) / unit
        (if tenths < 100 then toString (tenths / 10) ++ "." ++ toString (tenths % 10)
          else toString ((n + unit / 2) / unit)) ++ " " ++ u
      else scaled fuel base (unit * base) us
  let decimal := scaled 5 1000 1000 ["kB", "MB", "GB"]
  let binary := scaled 5 1024 1024 ["KiB", "MiB", "GiB"]
  if n = 1 then "1 byte copied"
  else if n < 1000 then toString n ++ " bytes copied"
  else if n < 1024 then toString n ++ " bytes (" ++ decimal ++ ") copied"
  else toString n ++ " bytes (" ++ decimal ++ ", " ++ binary ++ ") copied"

/-- Exchanges the bytes of each pair. -/
def pairsExchanged : List UInt8 → List UInt8
  | a :: b :: rest => b :: a :: pairsExchanged rest
  | rest => rest

/-- The words for conversions, those for flags, and those for what is reported. -/
def conversionWords : List Raw :=
  ["ascii", "ebcdic", "ibm", "block", "unblock", "lcase", "sparse", "swab", "ucase", "noerror",
    "notrunc", "excl", "nocreat", "sync", "fdatasync", "fsync"]

def flagWords : List Raw :=
  ["append", "binary", "cio", "direct", "directory", "dsync", "noatime", "nocache", "noctty",
    "nofollow", "nolinks", "nonblock", "sync", "text", "fullblock", "count_bytes", "skip_bytes",
    "seek_bytes"]

def reportWords : List Raw := ["none", "noxfer", "progress"]

/-- The operands of `dd` with a number, and all of them. -/
def blockNumbers : List Raw :=
  ["bs", "ibs", "obs", "cbs", "count", "skip", "seek", "iseek", "oseek"]

def blockOperands : List Raw := blockNumbers ++ ["if", "of", "conv", "status", "iflag", "oflag"]

/-- An operand such as `bs=512` as its name and its value. -/
def blockOperand (a : Raw) : Raw × Option Raw :=
  let name := a.toList.takeWhile (· != '=')
  (String.ofList name,
    if name.length < a.length then some (String.ofList (a.toList.drop (name.length + 1))) else none)

/-- What is wrong with one operand of `dd`. -/
def operandFault? (a : Raw) : Option Raw :=
  let hint : Raw := "\nTry 'dd --help' for more information."
  let (name, value) := blockOperand a
  match value with
  | none => some ("unrecognized operand " ++ quoted a ++ hint)
  | some value =>
    let words : Option (List Raw × Raw) :=
      if name == "conv" then some (conversionWords, "invalid conversion")
      else if name == "iflag" then some (flagWords, "invalid input flag")
      else if name == "oflag" then some (flagWords, "invalid output flag")
      else if name == "status" then some (reportWords, "invalid status level")
      else none
    match words with
    | some (known, what) =>
      let parts := if name == "status" then [value] else value.splitOn ","
      (parts.find? fun w => !known.contains w).map fun w => what ++ ": " ++ quoted w ++ hint
    | none =>
      if !blockOperands.contains name then some ("unrecognized operand " ++ quoted a ++ hint)
      else if blockNumbers.contains name && (product? value).isNone then
        some ("invalid number: " ++ quoted value)
      else none

/-- What is wrong with the operands of `dd`: the first that is of no kind, else words that do not go
together. -/
def blockFault? (args : List Raw) : Option Raw :=
  let conv := args.flatMap fun a =>
    match blockOperand a with
    | ("conv", some value) => value.splitOn ","
    | _ => []
  let both (a b : Raw) : Bool := conv.contains a && conv.contains b
  match args.findSome? operandFault? with
  | some fault => some fault
  | none =>
    if both "ascii" "ebcdic" || both "ascii" "ibm" || both "ebcdic" "ibm" then
      some "cannot combine any two of \x7bascii,ebcdic,ibm\x7d"
    else if both "block" "unblock" then some "cannot combine block and unblock"
    else if both "lcase" "ucase" then some "cannot combine lcase and ucase"
    else if both "excl" "nocreat" then some "cannot combine excl and nocreat"
    else none

def dd (s : Scene) (args : List Raw) : Ran :=
  let args := args.filter (· != "--")
  let given := args.map blockOperand
  match blockFault? args with
  | some fault => complain ("dd: " ++ fault) 1
  | none =>
    let value? (name : Raw) : Option Raw := (given.reverse.lookup name).bind id
    let flags (name : Raw) : List Raw := (given.filter fun g => g.1 == name).flatMap fun g =>
      (g.2.getD "").splitOn ","
    let number (name : Raw) (standard : Nat) : Nat := ((value? name).bind product?).getD standard
    let run : Except Ran Ran := do
      let bs := number "bs" 0
      let ibs := number "ibs" 512
      let obs := number "obs" 512
      let cbs := number "cbs" 0
      let count := number "count" 0
      let skip := number (if (value? "iseek").isSome then "iseek" else "skip") 0
      let seek := number (if (value? "oseek").isSome then "oseek" else "seek") 0
      if (value? "bs").isSome && bs = 0 then throw (complain "dd: invalid number: '0'" 1)
      let inSize := max 1 (if bs = 0 then ibs else bs)
      let outSize := max 1 (if bs = 0 then obs else bs)
      let inFlags := flags "iflag"
      let conv := flags "conv"
      let skipBytes := if inFlags.contains "skip_bytes" then skip else skip * inSize
      let wanted : Option Nat := (value? "count").map fun _ =>
        if inFlags.contains "count_bytes" then count else count * inSize
      let source : Except Ran (Stream × Bool) := match value? "if" with
        | none => .ok (s.input, true)
        | some p =>
          match s.reach p with
          | .error e => .error (complain ("dd: failed to open " ++ quoted p ++ ": " ++ reason e) 1)
          | .ok r =>
            if r.node.isDirectory then .error (complain ("dd: error reading " ++ quoted p ++ ": Is a directory") 1)
            else .ok ((s.contentOf r).toOption.getD .empty, false)
      let (stream, isInput) ← source
      let reach := wanted.getD 0 + skipBytes
      let all := if stream.isEndless then stream.unroll reach else stream.bytes
      let rest := all.drop skipBytes
      let taken := match wanted with
        | some n => rest.take n
        | none => rest
      let parts := blocks inSize taken
      let full := (parts.filter fun b => b.length = inSize).length
      let partials := parts.length - full
      let data := if conv.contains "sync" then
          (parts.map fun b => b ++ List.replicate (inSize - b.length)
            (if conv.contains "block" || conv.contains "unblock" then 0x20 else 0)).flatten
        else taken
      let data := if conv.contains "swab" then pairsExchanged data else data
      let data := if conv.contains "ucase" then
          data.map fun b => if 0x61 ≤ b && b ≤ 0x7A then b - 32 else b
        else if conv.contains "lcase" then data.map fun b => if 0x41 ≤ b && b ≤ 0x5A then b + 32 else b
        else data
      let cut := if conv.contains "block" && 0 < cbs then
          ((byteLines data).filter fun l => cbs < (strip l).length).length else 0
      let data := if conv.contains "block" && 0 < cbs then
          ((byteLines data).map fun l =>
            (strip l).take cbs ++ List.replicate (cbs - (strip l).length) 0x20).flatten
        else if conv.contains "unblock" && 0 < cbs then
          ((blocks cbs data).map fun b => (b.reverse.dropWhile (· == 0x20)).reverse ++ [0x0A]).flatten
        else data
      let outParts := if bs != 0 && !conv.contains "block" && !conv.contains "unblock" then
          (if conv.contains "sync" then (full + partials, 0) else (full, partials))
        else (data.length / outSize, if data.length % outSize = 0 then 0 else 1)
      let status := (value? "status").getD ""
      let records := toString full ++ "+" ++ toString partials ++ " records in\n" ++ toString outParts.1 ++
        "+" ++ toString outParts.2 ++ " records out" ++
        (if cut = 0 then "" else "\n" ++ toString cut ++ (if cut = 1 then " truncated record"
          else " truncated records"))
      let report : List (Bool × List UInt8) :=
        if status == "none" then []
        else if status == "noxfer" then [complaint records]
        else [complaint (records ++ "\n" ++ bytesText data.length ++ ", 0.000151 s, " ++
          toString (data.length * 6 / 1000) ++ " kB/s")]
      let used : Option Stream := if isInput then
          some (if stream.isEndless then ⟨all.drop (skipBytes + taken.length), stream.cycle⟩
            else ⟨rest.drop taken.length, []⟩)
        else none
      match value? "of" with
      | none => return { writes := (false, data) :: report, rest := used }
      | some p =>
        match Host.seek s.files s.home (textOf p) true with
        | .error e => throw (complain ("dd: failed to open " ++ quoted p ++ ": " ++ reason e) 1)
        | .ok (loc, there) =>
          let old := (there.map fun (r : Reached) => r.node.bytes).getD []
          let start := seek * outSize
          let base := if (flags "oflag").contains "append" then old else old.take start
          let base := base ++ List.replicate (start - base.length) 0
          let behind := if conv.contains "notrunc" then old.drop (base.length + data.length) else []
          let isPlain := there.all fun (r : Reached) => r.node.isFile
          if there.isSome && conv.contains "excl" then
            throw (complain ("dd: failed to open " ++ quoted p ++ ": File exists") 1)
          else if there.isNone && conv.contains "nocreat" then
            throw (complain ("dd: failed to open " ++ quoted p ++ ": " ++ reason .notFound) 1)
          else if there.any fun (r : Reached) => r.node.isDirectory then
            throw (complain ("dd: failed to open " ++ quoted p ++ ": Is a directory") 1)
          else
            let own : List (Bool × List UInt8) :=
              match there.map fun (r : Reached) => r.node.content with
              | some (Content.device (.descriptor 1)) => [(false, data)]
              | some (Content.device (.descriptor 2)) => [(true, data)]
              | _ => []
            return {
              writes := own ++ report, rest := used
              files := if isPlain then some (s.files.putFile loc (base ++ data ++ behind) s.fileMode) else none }
    match run with
    | .ok r => r
    | .error r => r

/-! ## Pieces of a file -/

def splitKnown : Known :=
  { tool := "split", plain := "eux", withArgument := "abClntF", optional := "dN"
    long := [("suffix-length", 'a'), ("bytes", 'b'), ("line-bytes", 'C'), ("lines", 'l'),
      ("number", 'n'), ("separator", 't'), ("numeric-suffixes", 'N'), ("hex-suffixes", 'x'),
      ("additional-suffix", 'F'), ("elide-empty-files", 'e'), ("unbuffered", 'u'), ("verbose", 'V')] }

/-- A number in some digits, at least so many. -/
def digitsOf (digits : List Char) (width n : Nat) : List Char :=
  let base := digits.length
  let rec go : Nat → Nat → List Char
    | 0, _ => []
    | fuel + 1, n => (digits[n % max base 1]?).getD '0' :: (if n < base then [] else go fuel (n / max base 1))
  let cs := go 64 n
  List.replicate (width - cs.length) (digits.head?.getD '0') ++ cs.reverse

/-- The ending of the name of a piece. Without a length the endings grow, led by the last letter. -/
def pieceSuffix (digits : List Char) (width : Option Nat) (n : Nat) : List Char :=
  match width with
  | some w => digitsOf digits w n
  | none =>
    let base := digits.length
    let last := digits.getLast?.getD 'z'
    let rec go : Nat → Nat → Nat → List Char
      | 0, w, n => digitsOf digits w n
      | fuel + 1, w, n =>
        let room := Nat.pow base w - Nat.pow base (w - 1)
        if n < room then digitsOf digits w n else last :: go fuel (w + 1) (n - room)
    go 6 2 n

/-- Cuts lines into groups of no more than so many bytes. A longer line is cut. -/
def lineGroups (size : Nat) (lines : List (List UInt8)) : List (List UInt8) :=
  let step : List (List UInt8) × List UInt8 → List UInt8 → List (List UInt8) × List UInt8 :=
    fun (done, open_) l =>
      if open_.length + l.length ≤ size then (done, open_ ++ l)
      else
        let done := if open_.isEmpty then done else open_ :: done
        let parts := blocks size l
        (parts.dropLast.reverse ++ done, parts.getLast?.getD [])
  let (done, open_) := lines.foldl step ([], [])
  (if open_.isEmpty then done else open_ :: done).reverse

/-- Cuts items into groups of so many. -/
def groupsOf {α : Type} (n : Nat) (items : List α) : List (List α) :=
  (List.range ((items.length + n - 1) / max n 1)).map fun i => (items.drop (n * i)).take n

/-- Cuts bytes into a number of pieces, alike in size or cut at lines. -/
def chunksOf (spec : Raw) (bytes : List UInt8) : Option (List (List UInt8) × Option Nat) :=
  let parts := spec.splitOn "/"
  let (kind, numbers) := match parts with
    | "l" :: rest => ('l', rest)
    | "r" :: rest => ('r', rest)
    | rest => ('b', rest)
  match numbers.mapM count? with
  | none => none
  | some ns =>
    let (one, n) := match ns with
      | [n] => (none, n)
      | [k, n] => (some k, n)
      | _ => (none, 0)
    if n = 0 then none
    else
      let size := bytes.length
      let pieces := if kind == 'r' then
          let lines := byteLines bytes
          (List.range n).map fun i => ((lines.zipIdx.filter fun l => l.2 % n == i).map (·.1)).flatten
        else if kind == 'l' then
          let limit (i : Nat) : Nat := if i + 1 = n then size else (i + 1) * (size / n) + min (i + 1) (size % n)
          let (done, _) := (byteLines bytes).foldl (fun ((done, at_) : List (Nat × List UInt8) × Nat) l =>
            let i := ((List.range n).find? fun i => at_ < limit i).getD (n - 1)
            ((i, l) :: done, at_ + l.length)) ([], 0)
          (List.range n).map fun i => ((done.reverse.filter (·.1 == i)).map (·.2)).flatten
        else
          let start (i : Nat) : Nat := i * (size / n) + min i (size % n)
          (List.range n).map fun i => (bytes.take (if i + 1 = n then size else start (i + 1))).drop (start i)
      some (pieces, one)

def split (s : Scene) (args : List Raw) : Ran :=
  let k := { splitKnown with plain := splitKnown.plain ++ "V" }
  let args := args.map fun a =>
    match a.toList with
    | '-' :: c :: _ => if c.isDigit then "-l" ++ String.ofList (a.toList.drop 1) else a
    | _ => a
  k.run args fun o =>
    let path := o.operands.head?.getD "-"
    let stem := (o.operands[1]?).getD "x"
    match s.open? path with
    | .error e =>
      let name := String.ofList (e.toList.take path.length)
      complain ("split: cannot open " ++ quoted name ++ " for reading" ++
        String.ofList (e.toList.drop path.length)) 1
    | .ok stream =>
      let separator := (o.value? 't').map fun t => if t == "\\0" then (0 : UInt8) else byteOf (t.toList.head?.getD '\n')
      let lines := match separator with
        | none => byteLines stream.bytes
        | some b =>
          let parts := (stream.bytes.splitOn b)
          let ends := parts.dropLast.map (· ++ [b])
          if (parts.getLast?.getD []).isEmpty then ends else ends ++ [parts.getLast?.getD []]
      let bad (what : Raw) (v : Raw) : Except Ran (List (List UInt8) × Option Nat) :=
        .error (complain ("split: invalid number of " ++ what ++ ": " ++ quoted v) 1)
      let pieces : Except Ran (List (List UInt8) × Option Nat) :=
        match (o.given.filter fun g => "lbCn".toList.contains g.1).getLast? with
        | some ('b', v) => match product? v with
          | some 0 | none => bad "bytes" v
          | some n => .ok (blocks n stream.bytes, none)
        | some ('C', v) => match product? v with
          | some 0 | none => bad "bytes" v
          | some n => .ok (lineGroups n lines, none)
        | some ('n', v) => match chunksOf v stream.bytes with
          | some p => .ok p
          | none => bad "chunks" v
        | some (_, v) => match product? v with
          | some 0 | none => bad "lines" v
          | some n => .ok ((groupsOf n lines).map List.flatten, none)
        | none => .ok ((groupsOf 1000 lines).map List.flatten, none)
      match pieces with
      | .error r => r
      | .ok (pieces, some k) => reading (if path == "-" then [] else [path]) (wrote ((pieces[k - 1]?).getD []) 0)
      | .ok (pieces, none) =>
        let pieces := if o.has 'e' then pieces.filter fun p => !p.isEmpty else pieces
        let digits := if o.has 'd' || o.has 'N' then "0123456789" else if o.has 'x' then "0123456789abcdef"
          else "abcdefghijklmnopqrstuvwxyz"
        let first := numeral ((o.value? 'N').getD "").toList
        let ending := (o.value? 'F').getD ""
        let width := ((o.value? 'a').bind count?).or
          (if o.has 'n' then some (max 2 (toString pieces.length).length) else none)
        let w := pieces.zipIdx.foldl (fun (w : Work) (bytes, i) =>
          let name := stem ++ String.ofList (pieceSuffix digits.toList width (first + i)) ++ ending
          match place w.files s.home (textOf name) with
          | .ok loc =>
            let w := if o.has 'V' then w.say ("creating file " ++ quoted name) else w
            { w with files := w.files.putFile loc bytes s.fileMode }
          | .error e => w.fail ("split: " ++ name ++ ": " ++ reason e)) { files := s.files }
        reading (if path == "-" then [] else [path]) w.ran

/-! ## Pieces cut at lines that fit -/

/-- Where a piece ends. -/
inductive Cut where
  | line (n : Nat)
  | fitting (r : Regex) (offset : Int) (dropped : Bool)

/-- Reads the places of cuts, with how often each is used again. -/
def cuts : List Raw → Except Raw (List (Cut × Option Nat))
  | [] => .ok []
  | a :: rest => do
    let cut ← (match a.toList with
      | '/' :: cs => pattern a '/' cs
      | '%' :: cs => pattern a '%' cs
      | _ => if isNumeral a then .ok (.line (numeral a.toList)) else
          .error (quoted a ++ ": invalid pattern") : Except Raw Cut)
    match rest with
    | b :: more =>
      match b.toList with
      | '{' :: cs =>
        let n := String.ofList cs.dropLast
        let times := if n == "*" then none else some (numeral n.toList)
        return (cut, times) :: (← cuts more)
      | _ => return (cut, some 0) :: (← cuts (b :: more))
    | [] => return [(cut, some 0)]
where
  pattern (a : Raw) (mark : Char) (cs : List Char) : Except Raw Cut :=
    let inside := (cs.reverse.dropWhile (· != mark)).drop 1 |>.reverse
    let behind := (cs.reverse.takeWhile (· != mark)).reverse
    let offset : Int := match behind with
      | '-' :: ds => -(numeral ds : Int)
      | '+' :: ds => (numeral ds : Int)
      | ds => (numeral ds : Int)
    match Regex.parse { lenient := true } (String.ofList inside) with
    | .ok r => .ok (.fitting r offset (mark == '%'))
    | .error e => .error (quoted a ++ ": invalid regular expression: " ++ e.message)

/-- Cuts lines, given the number of the first of them: the pieces, and what went wrong. -/
def cutLines : Nat → Nat → List Raw → List (Cut × Option Nat) → List (List Raw) → List (List Raw) × Option Raw
  | 0, _, lines, _, done => ((lines :: done).reverse, none)
  | _ + 1, _, lines, [], done => ((lines :: done).reverse, none)
  | fuel + 1, first, lines, (cut, times) :: more, done =>
    let next := match times with
      | none => (cut, none) :: more
      | some 0 => more
      | some (n + 1) => (cut, some n) :: more
    match cut with
    | .line n =>
      if n < first then (done.reverse, some ("csplit: " ++ quoted (toString n) ++ ": line number out of range"))
      else if first + lines.length < n + 1 then
        ((lines :: done).reverse, some (quoted (toString n) ++ ": line number out of range"))
      else
        let next := match times with
          | some 0 => more
          | none => (.line (n + n), none) :: more
          | some (k + 1) => (.line (n + n), some k) :: more
        cutLines fuel n (lines.drop (n - first)) next (lines.take (n - first) :: done)
    | .fitting r offset dropped =>
      let from_ := if first = 1 && done.isEmpty then 0 else 1
      let found := (lines.zipIdx.drop from_).find? fun l =>
        (Regex.search { chars := l.1.toList.toArray } r 0).isSome
      match found with
      | none =>
        if times == none then ((lines :: done).reverse, none)
        else ((lines :: done).reverse, some "match not found")
      | some (_, i) =>
        let stop := ((i : Int) + offset).toNat
        cutLines fuel (first + stop) (lines.drop stop) next
          (if dropped then done else lines.take stop :: done)

/-- A form for the numbers in the names of pieces: the text around one directive, and its letter. -/
structure PieceForm where
  before : Raw
  directive : Directive
  letter : Char
  behind : Raw

def PieceForm.text (f : PieceForm) (n : Nat) : Raw :=
  f.before ++ showNumber f.directive (if f.letter == 'i' then 'd' else f.letter) n ++ f.behind

/-- Reads a form for numbers, in which a percent sign is written twice. -/
def pieceForm? (r : Raw) : Except Raw PieceForm :=
  let rec text : List Char → List Char × List Char
    | '%' :: '%' :: cs => let (t, rest) := text cs; ('%' :: t, rest)
    | '%' :: cs => ([], '%' :: cs)
    | c :: cs => let (t, rest) := text cs; (c :: t, rest)
    | [] => ([], [])
  let (before, rest) := text r.toList
  match rest with
  | [] => .error "missing % conversion specification in suffix"
  | _ :: cs =>
    let flags := cs.takeWhile fun c => "-+ 0'#".toList.contains c
    let cs := cs.drop flags.length
    let width := cs.takeWhile Char.isDigit
    let cs := cs.drop width.length
    let (precision, cs) := match cs with
      | '.' :: more => (some (numeral more), more.dropWhile Char.isDigit)
      | cs => (none, cs)
    match cs with
    | [] => .error "missing conversion specifier in suffix"
    | c :: cs =>
      if !("diuoxX".toList.contains c) then
        .error ("invalid conversion specifier in suffix: " ++ c.toString)
      else
        let (behind, more) := text cs
        if more.isEmpty then
          .ok {
            before := String.ofList before, letter := c, behind := String.ofList behind
            directive :=
              { left := flags.contains '-', zeros := flags.contains '0', width := numeral width
                precision, alternative := flags.contains '#' } }
        else .error "too many % conversion specifications in suffix"

def csplitKnown : Known :=
  { tool := "csplit", plain := "kqsz", withArgument := "bfn"
    long := [("prefix", 'f'), ("digits", 'n'), ("quiet", 's'), ("silent", 's'), ("suffix-format", 'b'),
      ("keep-files", 'k'), ("elide-empty-files", 'z')] }

def csplit (s : Scene) (args : List Raw) : Ran :=
  let k := csplitKnown
  k.run args fun o =>
    match o.operands with
    | [] => missingOperand k
    | [p] => k.refuse ("missing operand after " ++ quoted p)
    | path :: specs =>
      let width := (o.value? 'n').getD "2"
      let plainForm : PieceForm :=
        { before := "", directive := { zeros := true, width := numeral width.toList }, letter := 'd', behind := "" }
      let form? := ((o.value? 'b').map pieceForm?).getD (.ok plainForm)
      match form?, s.open? path, cuts specs with
      | .error e, _, _ => complain ("csplit: " ++ e) 1
      | _, .error e, _ =>
        complain ("csplit: cannot open " ++ quoted path ++ " for reading" ++
          String.ofList (e.toList.drop path.length)) 1
      | _, _, .error e => complain ("csplit: " ++ e) 1
      | .ok form, .ok stream, .ok places =>
        if !isNumeral width then complain ("csplit: invalid number: " ++ quoted width) 1
        else
        let lines := (byteLines stream.bytes).map Raw.ofBytes
        let (pieces, fault) := cutLines (lines.length + specs.length + 2) 1 lines places []
        let pieces := if o.has 'z' then pieces.filter fun p => !p.isEmpty else pieces
        let stem := (o.value? 'f').getD "xx"
        let quiet := o.has 's' || o.has 'q'
        let step : Work × Bool → List Raw × Nat → Work × Bool := fun (w, going) (ls, i) =>
          let bytes := ls.flatMap Raw.toBytes
          let name := stem ++ form.text i
          match going, place w.files s.home (textOf name) with
          | false, _ => (w, false)
          | true, .ok loc =>
            let w := if quiet then w else w.say (toString bytes.length)
            ({ w with files := w.files.putFile loc bytes s.fileMode }, true)
          | true, .error e =>
            let w := w.fail ("csplit: " ++ name ++ ": " ++ reason e)
            (if o.has 'k' then w else { w with files := s.files }, false)
        let (w, going) := pieces.zipIdx.foldl step ({ files := s.files }, true)
        let fault := if going then fault else none
        let w := match fault with
          | none => w
          | some e =>
            let spec := specs.head?.getD ""
            let w := w.fail ("csplit: " ++ (if e == "match not found" then quoted spec ++ ": " ++ e else e))
            if o.has 'k' then w else { w with files := s.files }
        reading (if path == "-" then [] else [path]) w.ran

end Host.Tool

end PolicyGate
