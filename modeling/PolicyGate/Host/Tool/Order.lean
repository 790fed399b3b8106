import PolicyGate.Decimal.Rounded
import PolicyGate.Host.Tool.Change
import PolicyGate.Host.Tool.Lines
import PolicyGate.Host.Tool.Version

/-!
# The order of lines

Lines are ordered by their bytes, or by keys, which are parts of them. A key may be compared as a
number, a month or a version, or regardless of the case of its letters, and in reverse. Lines that no
key tells apart are ordered by all of their bytes, unless equal keys are to be left in place or
dropped.
-/

namespace PolicyGate

namespace Host.Tool

/-! ## Keys -/

/-- How a key is compared, in the letters that ask for it. -/
structure KeyStyle where
  letters : List Char := []
  /-- Whether blanks in front of the start and in front of the end do not count. -/
  startBlanks : Bool := false
  endBlanks : Bool := false
  deriving DecidableEq, Repr

namespace KeyStyle

def has (k : KeyStyle) (c : Char) : Bool := k.letters.contains c

/-- Whether nothing is asked for. -/
def isPlain (k : KeyStyle) : Bool := k.letters.isEmpty && !k.startBlanks && !k.endBlanks

/-- The ways of comparing that exclude each other. -/
def clash? (k : KeyStyle) : Option Raw :=
  let kinds := "ghMnRV".toList.filter k.has
  let masks := "di".toList.filter k.has
  let numeric := kinds.filter fun c => c != 'V' && c != 'R'
  let plain := "Rhng MV".toList
  if 1 < kinds.length || (!numeric.isEmpty && !masks.isEmpty) ||
      (kinds.any plain.contains && !masks.isEmpty && !numeric.isEmpty) then
    some (String.ofList ("dfghiMnRV".toList.filter fun c => k.has c && c != 'f'))
  else none

end KeyStyle

/-- One end of a key: a field and a character in it, counted from one. -/
structure KeyEnd where
  field : Nat
  char : Option Nat := none

structure SortKey where
  start : KeyEnd
  stop : Option KeyEnd := none
  style : KeyStyle := {}

/-- The largest field or character that is told from others. -/
def keyCount (cs : List Char) : Nat := numeral (cs.take 18)

/-- Reads an end such as `2.3nr`. -/
def keyEnd (spec : Raw) (atStart : Bool) (cs : List Char) : Except Raw (KeyEnd × List Char) :=
  let field := cs.takeWhile Char.isDigit
  let rest := cs.drop field.length
  let bad (e : Raw) : Except Raw (KeyEnd × List Char) :=
    .error (e ++ ": invalid field specification " ++ quoted spec)
  let count (what : Raw) (cs : List Char) : Except Raw (KeyEnd × List Char) :=
    .error ("invalid number " ++ what ++ ": invalid count at start of " ++ quoted (String.ofList cs))
  if field.isEmpty then count (if atStart then "at field start" else "after ','") cs
  else if keyCount field = 0 then bad "field number is zero"
  else
    match rest with
    | '.' :: more =>
      let char := more.takeWhile Char.isDigit
      if char.isEmpty then count "after '.'" more
      else if keyCount char = 0 && atStart then bad "character offset is zero"
      else .ok (⟨keyCount field, some (keyCount char)⟩, more.drop char.length)
    | _ => .ok (⟨keyCount field, none⟩, rest)

def keyLetters : List Char := "bdfghiMnRrV".toList

/-- Reads a key such as `1,2nr`. -/
def sortKey (r : Raw) : Except Raw SortKey := do
  let isLetter (c : Char) : Bool := keyLetters.contains c
  let (start, rest) ← keyEnd r true r.toList
  let letters := rest.takeWhile isLetter
  let stray : Except Raw SortKey :=
    .error ("stray character in field spec: invalid field specification " ++ quoted r)
  match rest.drop letters.length with
  | [] =>
    return ⟨start, none, { letters := letters.filter (· != 'b'), startBlanks := letters.contains 'b' }⟩
  | ',' :: more =>
    let (stop, rest) ← keyEnd r false more
    if rest.all isLetter then
      return ⟨start, some stop,
        { letters := (letters ++ rest).filter (· != 'b'), startBlanks := letters.contains 'b'
          endBlanks := rest.contains 'b' }⟩
    else stray
  | _ => stray

def isGap (c : Char) : Bool := c == ' ' || c == '\t' || c == '\n'

/-- The fields of a line. Without a separator the blanks in front belong to a field. -/
def sortFields (separator : Option Char) (cs : List Char) : List (List Char) :=
  match separator with
  | some c => cs.splitOn c
  | none => gapFields cs.length [] cs
where
  gapFields : Nat → List (List Char) → List Char → List (List Char)
    | 0, done, _ => done.reverse
    | _ + 1, done, [] => done.reverse
    | fuel + 1, done, cs =>
      let gap := cs.takeWhile isGap
      let word := (cs.drop gap.length).takeWhile fun c => !isGap c
      gapFields fuel ((gap ++ word) :: done) (cs.drop (gap.length + word.length))

/-- The part of a line that a key names. -/
def keyText (separator : Option Char) (k : SortKey) (line : List Char) : List Char :=
  let fields := sortFields separator line
  let size (f : List Char) : Nat := f.length + (if separator.isSome then 1 else 0)
  let offset (n : Nat) : Nat := min line.length (((fields.take n).map size).foldl (· + ·) 0)
  let blanksAt (wanted : Bool) (i : Nat) : Nat :=
    if wanted then ((line.drop i).takeWhile isGap).length else 0
  let fieldStart := offset (k.start.field - 1)
  let start := fieldStart + blanksAt k.style.startBlanks fieldStart + (k.start.char.getD 1 - 1)
  let stop := match k.stop with
    | none => line.length
    | some e =>
      match e.char with
      | some 0 | none =>
        if fields.length ≤ e.field then line.length
        else offset e.field - (if separator.isSome then 1 else 0)
      | some c =>
        let at_ := offset (e.field - 1)
        at_ + blanksAt k.style.endBlanks at_ + c
  (line.take stop).drop start

/-! ## Values of keys -/

/-- What is compared of a key. -/
inductive KeyValue where
  | text (cs : List Char)
  /-- The order of the unit, the sign, the whole part and the fraction. -/
  | decimal (unit : Int) (negative : Bool) (whole : Nat) (fraction : List Char)
  | float (x : Option Float)
  | month (n : Nat)
  | version (cs : List Char)

namespace KeyValue

/-- The number at the front of a text: its sign, its whole part, its fraction, and what is behind. -/
def leadingNumber (cs : List Char) : Bool × Nat × List Char × List Char :=
  let cs := cs.dropWhile isGap
  let negative := cs.head? == some '-'
  let cs := if negative then cs.tail else cs
  let whole := cs.takeWhile Char.isDigit
  let (digits, rest) := match cs.drop whole.length with
    | '.' :: ds => (ds.takeWhile Char.isDigit, ds.dropWhile Char.isDigit)
    | rest => ([], rest)
  let fraction := (digits.reverse.dropWhile (· == '0')).reverse
  let value := numeral whole
  (negative && (value != 0 || !fraction.isEmpty), value, fraction, rest)

def monthNames : List (List Char) :=
  ["JAN", "FEB", "MAR", "APR", "MAY", "JUN", "JUL", "AUG", "SEP", "OCT", "NOV", "DEC"].map String.toList

/-- The value of a key. -/
def ofText (style : KeyStyle) (cs : List Char) : KeyValue :=
  if style.has 'n' then
    let (negative, whole, fraction, _) := leadingNumber cs
    .decimal 0 negative whole fraction
  else if style.has 'h' then
    let (negative, whole, fraction, rest) := leadingNumber cs
    let order := match rest.head? with
      | some 'k' => 1
      | some c => match "KMGTPEZYRQ".toList.idxOf? c with
        | some i => i + 1
        | none => 0
      | none => 0
    let order := if whole = 0 && fraction.isEmpty then 0 else order
    .decimal (if negative then -(order : Int) else (order : Int)) negative whole fraction
  else if style.has 'g' then
    .float ((Double.readAny? (cs.dropWhile isGap)).map (·.1))
  else if style.has 'M' then
    let three := ((cs.dropWhile isGap).take 3).map Char.toUpper
    .month ((monthNames.idxOf? three).elim 0 (· + 1))
  else if style.has 'V' then .version cs
  else
    let cs := if style.has 'd' then cs.filter fun c => isGap c || c.isAlphanum else cs
    let cs := if style.has 'i' then cs.filter isShown else cs
    let cs := if style.has 'f' then cs.map Char.toUpper else cs
    .text cs

/-- Whether one number comes before another. What is no number comes first, then what is not a
number. -/
def floatBefore (x y : Option Float) : Bool :=
  match x, y with
  | none, none => false
  | none, some _ => true
  | some _, none => false
  | some a, some b => if a.isNaN then !b.isNaN else a < b

def before : KeyValue → KeyValue → Bool
  | .text a, .text b => a < b
  | .decimal u s x f, .decimal v t y g =>
    let below (x y : Nat × List Char) : Bool := x.1 < y.1 || (x.1 == y.1 && x.2 < y.2)
    if u != v then u < v
    else
      match s, t with
      | true, true => below (y, g) (x, f)
      | true, false => true
      | false, true => false
      | false, false => below (x, f) (y, g)
  | .float a, .float b => floatBefore a b
  | .month a, .month b => a < b
  | .version a, .version b => Version.compare a b < 0
  | _, _ => false

end KeyValue

/-! ## Sorting -/

structure Sorting where
  separator : Option Char := none
  keys : List SortKey := []
  /-- Whether lines with equal keys are left as they are. -/
  stable : Bool := false
  /-- Whether the last resort goes backwards. -/
  reverse : Bool := false

/-- A line with the values of its keys. -/
structure SortLine where
  line : List Char
  values : List (KeyValue × Bool)

namespace Sorting

def prepare (s : Sorting) (line : List Char) : SortLine :=
  ⟨line, s.keys.map fun k => (KeyValue.ofText k.style (keyText s.separator k line), k.style.has 'r')⟩

/-- Whether the keys put a line before another, or nothing if they do not tell them apart. -/
def keysBefore : List (KeyValue × Bool) → List (KeyValue × Bool) → Option Bool
  | (x, reverse) :: xs, (y, _) :: ys =>
    if x.before y then some !reverse
    else if y.before x then some reverse
    else keysBefore xs ys
  | _, _ => none

def before (s : Sorting) (a b : SortLine) : Bool :=
  match keysBefore a.values b.values with
  | some r => r
  | none => if s.stable then false else if s.reverse then b.line < a.line else a.line < b.line

end Sorting

/-- Keeps the first of lines that nothing tells apart. -/
def firsts (same : SortLine → SortLine → Bool) : Option SortLine → List SortLine → List SortLine
  | _, [] => []
  | last, l :: ls => if last.any (same l) then firsts same last ls else l :: firsts same (some l) ls

/-- Takes the smallest of the first lines again and again. -/
def merged (before : SortLine → SortLine → Bool) : Nat → List (List SortLine) → List SortLine
  | 0, _ => []
  | fuel + 1, texts =>
    match texts.filter fun t => !t.isEmpty with
    | [] => []
    | t :: ts =>
      let heads := (t :: ts).zipIdx
      let best := heads.foldl (fun (best : Option (SortLine × Nat)) (text, i) =>
        match text.head?, best with
        | some l, some b => if before l b.1 then some (l, i) else best
        | some l, none => some (l, i)
        | none, _ => best) none
      match best with
      | none => []
      | some (l, i) =>
        l :: merged before fuel (heads.map fun (text, j) => if j = i then text.tail else text)

def sortKnown : Known :=
  { tool := "sort", plain := "bcdfghiMmnRrsuVzC", withArgument := "ktoSTWPF", optional := "K", refusal := 2
    long := [("numeric-sort", 'n'), ("reverse", 'r'), ("unique", 'u'), ("key", 'k'),
      ("field-separator", 't'), ("ignore-case", 'f'), ("stable", 's'), ("check", 'K'),
      ("output", 'o'), ("ignore-leading-blanks", 'b'), ("dictionary-order", 'd'),
      ("general-numeric-sort", 'g'), ("human-numeric-sort", 'h'), ("ignore-nonprinting", 'i'),
      ("month-sort", 'M'), ("merge", 'm'), ("random-sort", 'R'), ("version-sort", 'V'),
      ("zero-terminated", 'z'), ("sort", 'W'), ("parallel", 'P'), ("buffer-size", 'S'),
      ("temporary-directory", 'T'), ("files0-from", 'F')] }

/-- The letter that a word for an order stands for. -/
def orderLetter? (w : Raw) : Option Char :=
  ([("general-numeric", 'g'), ("human-numeric", 'h'), ("month", 'M'), ("numeric", 'n'), ("random", 'R'),
    ("version", 'V')] : List (Raw × Char)).lookup w

def sortingOf (o : Options) : Except Ran Sorting := do
  let refuse (e : Raw) : Ran := complain ("sort: " ++ e) 2
  let words ← (o.values 'W').mapM fun w =>
    match orderLetter? w with
    | some c => .ok c
    | none => .error (sortKnown.refuse ("invalid argument " ++ quoted w ++ " for '--sort'\nValid arguments are:" ++
        "\n  - 'general-numeric'\n  - 'human-numeric'\n  - 'month'\n  - 'numeric'\n  - 'random'\n  - 'version'"))
  let given := (o.given.map (·.1)).filter keyLetters.contains ++ words
  let global : KeyStyle :=
    { letters := given.filter (· != 'b'), startBlanks := given.contains 'b', endBlanks := given.contains 'b' }
  let keys ← (o.values 'k').mapM fun r => (sortKey r).mapError refuse
  let keys := if keys.isEmpty then [⟨⟨1, none⟩, none, {}⟩] else keys
  let keys := keys.map fun k => if k.style.isPlain then { k with style := global } else k
  match keys.findSome? fun k => k.style.clash? with
  | some letters => throw (refuse ("options '-" ++ letters ++ "' are incompatible"))
  | none => pure ()
  let separator ← match o.value? 't' with
    | none => .ok none
    | some "\\0" => .ok (some '\x00')
    | some t =>
      match t.toList with
      | [] => .error (refuse "empty tab")
      | [c] => .ok (some c)
      | _ => .error (refuse ("multi-character tab " ++ quoted t))
  return { separator, keys, stable := o.has 's' || o.has 'u', reverse := o.has 'r' }

def sort (s : Scene) (args : List Raw) : Ran :=
  let args := args.map fun a => if a == "--check" then "-c" else a
  sortKnown.run args fun o =>
    let quiet := o.has 'C' || (o.value? 'K').any fun v => v == "quiet" || v == "silent"
    let checks := o.has 'c' || o.has 'K' || o.has 'C'
    if o.has 'c' && o.has 'C' then complain "sort: options '-cC' are incompatible" 2
    else
      match sortingOf o with
      | .error r => r
      | .ok sorting =>
        let ending : UInt8 := if o.has 'z' then 0 else 0x0A
        let (found, bad) := sourcesBy (fun p e =>
          (if isDirectoryReason e then "sort: read failed: " else "sort: cannot read: ") ++ p ++ ": " ++ e)
          s o.operands
        let lines (t : Stream) : List SortLine := (linesEndedBy ending t.bytes).map fun l =>
          sorting.prepare (Raw.ofBytes (if l.getLast? == some ending then l.dropLast else l)).toList
        match bad with
        | c :: _ => complain c 2
        | [] =>
          let texts := found.map fun f => lines f.2
          let all := texts.flatten
          let same (a b : SortLine) : Bool := !sorting.before a b && !sorting.before b a
          if checks then
            match o.operands with
            | _ :: extra :: _ =>
              sortKnown.refuse ("extra operand " ++ quoted extra ++ " not allowed with -" ++
                (if o.has 'C' then "C" else "c"))
            | _ =>
              let pairs := (all.zip all.tail).zipIdx
              match pairs.find? fun p => sorting.before p.1.2 p.1.1 || (o.has 'u' && same p.1.1 p.1.2) with
              | none => reading o.operands (silent 0)
              | some ((_, b), i) =>
                let name := o.operands.head?.getD "-"
                if quiet then reading o.operands (silent 1)
                else
                  reading o.operands (complain ("sort: " ++ name ++ ":" ++ toString (i + 2) ++ ": disorder: " ++
                    String.ofList b.line) 1)
          else
            let sorted := if o.has 'm' then merged sorting.before (all.length + 1) texts
              else all.mergeSort fun a b => !sorting.before b a
            let sorted := if o.has 'u' then firsts same none sorted else sorted
            let out := sorted.flatMap fun l => Raw.toBytes (String.ofList l.line) ++ [ending]
            match o.value? 'o' with
            | some p =>
              match saved s p out with
              | .ok r => reading o.operands r
              | .error e => complain ("sort: open failed: " ++ p ++ ": " ++ e) 2
            | none => reading o.operands (wrote out 0)

/-! ## Repeated lines -/

/-- Lines that follow each other and are alike. -/
def alikeRuns (same : Raw → Raw → Bool) (lines : List Raw) : List (List Raw) :=
  let step : List (List Raw) → Raw → List (List Raw) := fun done l =>
    match done with
    | g :: rest => if (g.getLast?).any (same l) then (l :: g) :: rest else [l] :: done
    | [] => [[l]]
  ((lines.foldl step []).map List.reverse).reverse

def uniqKnown : Known :=
  { tool := "uniq", plain := "cdDuiz", withArgument := "fsw", optional := "AG"
    long := [("count", 'c'), ("repeated", 'd'), ("unique", 'u'), ("ignore-case", 'i'),
      ("all-repeated", 'A'), ("group", 'G'), ("skip-fields", 'f'), ("skip-chars", 's'),
      ("check-chars", 'w'), ("zero-terminated", 'z')] }

/-- What is compared of a line. -/
def comparedPart (o : Options) (l : Raw) : Raw :=
  let skipField (cs : List Char) : List Char :=
    (cs.dropWhile isGap).dropWhile fun c => !isGap c
  let cs := (List.range (((o.value? 'f').bind count?).getD 0)).foldl (fun cs _ => skipField cs) l.toList
  let cs := cs.drop (((o.value? 's').bind count?).getD 0)
  let cs := match (o.value? 'w').bind count? with
    | some n => cs.take n
    | none => cs
  String.ofList (if o.has 'i' then cs.map Char.toLower else cs)

/-- Where empty lines stand between groups. -/
inductive Separation where
  | none
  | prepended
  | appended
  | between
  | both
  deriving DecidableEq

def Separation.lines (sep : Separation) (ending : UInt8) (groups : List (List UInt8)) : List UInt8 :=
  match sep with
  | .none => groups.flatten
  | .prepended => groups.flatMap fun g => ending :: g
  | .appended => groups.flatMap fun g => g ++ [ending]
  | .between => (groups.intersperse [ending]).flatten
  | .both => if groups.isEmpty then [] else ending :: (groups.flatMap fun g => g ++ [ending])

def uniq (s : Scene) (args : List Raw) : Ran :=
  let args := args.flatMap fun a =>
    match a.toList with
    | '-' :: c :: cs => if c.isDigit then ["-f", String.ofList (c :: cs)] else [a]
    | '+' :: c :: cs => if c.isDigit then ["-s", String.ofList (c :: cs)] else [a]
    | _ => [a]
  uniqKnown.run args fun o =>
    let choices (option : Raw) (v : Raw) (names : List Raw) : Ran :=
      uniqKnown.refuse ("invalid argument " ++ quoted v ++ " for '--" ++ option ++ "'\nValid arguments are:" ++
        String.join (names.map fun n => "\n  - '" ++ n ++ "'"))
    let number (c : Char) (what : Raw) : Option Ran :=
      match o.value? c with
      | some r => if (count? r).isNone then some (complain ("uniq: " ++ r ++ ": invalid number of " ++ what) 1)
          else none
      | none => none
    let group := o.value? 'G'
    let repeated := if o.has 'D' then some "none" else o.value? 'A'
    let separation (v : Raw) (standard : Separation) : Option Separation :=
      if v.isEmpty then some standard
      else ([("none", .none), ("prepend", .prepended), ("append", .appended), ("separate", .between),
        ("both", .both)] : List (Raw × Separation)).lookup v
    match number 'f' "fields to skip", number 's' "bytes to skip", number 'w' "bytes to compare" with
    | some r, _, _ | _, some r, _ | _, _, some r => r
    | none, none, none =>
      if group.isSome && (o.has 'c' || o.has 'd' || o.has 'u' || repeated.isSome) then
        uniqKnown.refuse "--group is mutually exclusive with -c/-d/-D/-u"
      else if group.any fun v => v == "none" || (separation v .between).isNone then
        choices "group" (group.getD "") ["prepend", "append", "separate", "both"]
      else if repeated.any fun v => v == "append" || v == "both" || (separation v .none).isNone then
        choices "all-repeated" (repeated.getD "") ["none", "prepend", "separate"]
      else if repeated.isSome && o.has 'c' then
        uniqKnown.refuse "printing all duplicated lines and repeat counts is meaningless"
      else
        match o.operands with
        | _ :: _ :: extra :: _ => uniqKnown.refuse ("extra operand " ++ quoted extra)
        | ops =>
          let (found, bad) := sourcesBy (fun p e =>
            if isDirectoryReason e then "uniq: error reading " ++ quoted p ++ ": " ++ e
            else "uniq: " ++ p ++ ": " ++ e) s (ops.take 1)
          let ending : UInt8 := if o.has 'z' then 0 else 0x0A
          let lines := (linesEndedBy ending (joined found).bytes).map fun l =>
            Raw.ofBytes (if l.getLast? == some ending then l.dropLast else l)
          let same (a b : Raw) : Bool := comparedPart o a == comparedPart o b
          let runs := alikeRuns same lines
          let text (l : Raw) : List UInt8 := Raw.toBytes l ++ [ending]
          let out :=
            match group, repeated with
            | some v, _ => ((separation v .between).getD .between).lines ending (runs.map fun g => g.flatMap text)
            | none, some v =>
              let several := if o.has 'u' then [] else runs.filter fun g => 1 < g.length
              ((separation v .none).getD .none).lines ending (several.map fun g => g.flatMap text)
            | none, none =>
              let kept := runs.filter fun g => (!o.has 'd' || 1 < g.length) && (!o.has 'u' || g.length == 1)
              kept.flatMap fun g =>
                let count := toString g.length
                let lead := String.ofList (List.replicate (7 - count.length) ' ') ++ count ++ " "
                let first := g.head?.getD ""
                text (if o.has 'c' then lead ++ first else first)
          match ops with
          | [_, target] =>
            match saved s target out with
            | .ok r => reading (ops.take 1) (r.after bad 1)
            | .error e => complain ("uniq: " ++ target ++ ": " ++ e) 1
          | _ => reading (ops.take 1) ((wrote (if bad.isEmpty then out else []) 0).after bad 1)

/-! ## Other orders -/

def shufKnown : Known :=
  { tool := "shuf", plain := "erz", withArgument := "inoR"
    long := [("echo", 'e'), ("input-range", 'i'), ("head-count", 'n'), ("output", 'o'), ("repeat", 'r'),
      ("zero-terminated", 'z'), ("random-source", 'R')] }

/-- Items in an order that nobody can foresee. -/
def shuffled {α : Type} (items : List α) : List α :=
  let keyed := items.zipIdx.map fun (a, i) => ((i + 1) * 2654435761 % 4294967296 % 1000003, a)
  (keyed.mergeSort fun x y => x.1 ≤ y.1).map (·.2)

/-- The numbers of a range that is written as `LO-HI`. -/
def inputRange? (r : Raw) : Option (List Raw) :=
  match r.splitOn "-" with
  | [a, b] =>
    if isNumeral a && isNumeral b && numeral a.toList ≤ numeral b.toList + 1 then
      let low := numeral a.toList
      some ((List.range (min (numeral b.toList + 1 - low) 100000)).map fun i => toString (low + i))
    else none
  | _ => none

/-- What `shuf` mixes, with the files that it takes. -/
def shufItems (s : Scene) (o : Options) (ending : UInt8) (limit : Option Nat) :
    Except Ran (List Raw × List Raw) :=
  match o.value? 'i' with
  | some r =>
    if o.has 'e' then .error (shufKnown.refuse "cannot combine -e and -i options")
    else
      match o.operands with
      | extra :: _ => .error (shufKnown.refuse ("extra operand " ++ quoted extra))
      | [] => .ok ((inputRange? r).getD [], ["x"])
  | none =>
    if o.has 'e' then .ok (o.operands, ["x"])
    else
      match o.operands with
      | _ :: extra :: _ => .error (shufKnown.refuse ("extra operand " ++ quoted extra))
      | ops =>
        if limit == some 0 then .ok ([], ["x"])
        else
          match contents? s (ops.head?.getD "-") with
          | .ok t => .ok ((linesEndedBy ending t.bytes).map fun l =>
              Raw.ofBytes (if l.getLast? == some ending then l.dropLast else l), ops)
          | .error e => .error (complain (if isDirectoryReason e then "shuf: read error: " ++ e
              else "shuf: " ++ ops.head?.getD "-" ++ ": " ++ e) 1)

/-- What is wrong with the values of the options of `shuf`, the first that was given first. -/
def shufFault? (o : Options) : Option Raw :=
  let step : Option Raw × List (Char × Raw) → Char × Raw → Option Raw × List (Char × Raw) :=
    fun (fault, seen) (letter, r) =>
      match fault with
      | none =>
        let found : Option Raw :=
          if letter == 'i' && (seen.lookup 'i').isSome then some "multiple -i options specified"
          else if letter == 'i' && (inputRange? r).isNone then
            some ("invalid input range: " ++ quoted r)
          else if letter == 'n' && (count? r).isNone then
            some ("invalid line count: " ++ quoted r)
          else if letter == 'o' && (seen.lookup 'o').any (· != r) then
            some "multiple output files specified"
          else if letter == 'R' && (seen.lookup 'R').any (· != r) then
            some "multiple random sources specified"
          else none
        (found, (letter, r) :: seen)
      | some _ => (fault, seen)
  (o.given.foldl step (none, [])).1

def shuf (s : Scene) (args : List Raw) : Ran :=
  shufKnown.run args fun o =>
    let ending : UInt8 := if o.has 'z' then 0 else 0x0A
    let limit := ((o.values 'n').filterMap count?).min?
    match shufFault? o, shufItems s o ending limit with
    | some fault, _ => complain ("shuf: " ++ fault) 1
    | none, .error r => r
    | none, .ok (items, ops) =>
      let source : Except Raw Unit := match o.value? 'R' with
        | some p => (contents? s p).map fun _ => ()
        | none => .ok ()
      match source with
      | .error e => complain ("shuf: " ++ (o.value? 'R').getD "" ++ ": " ++ e) 1
      | .ok () =>
        if items.isEmpty && o.has 'r' && limit != some 0 then
          reading ops (complain "shuf: no lines to repeat" 1)
        else
          let mixed := shuffled items
          let chosen := match limit with
            | some n =>
              if o.has 'r' && !mixed.isEmpty then
                (List.range (min n 100000)).filterMap fun i => mixed[(i * 7919 + 3) % mixed.length]?
              else mixed.take n
            | none => mixed
          let out := chosen.flatMap fun l => Raw.toBytes l ++ [ending]
          match o.value? 'o' with
          | some p =>
            match saved s p out with
            | .ok r => reading ops r
            | .error e => complain ("shuf: " ++ p ++ ": " ++ e) 1
          | none => reading ops (wrote out 0)

/-- The pairs of an order: which name comes before which, the latest first. -/
abbrev Before := List (Raw × Raw)

/-- Follows pairs back from a name until one comes again: the names of that ring. -/
def ringFrom (pairs : Before) : Nat → List Raw → Raw → List Raw
  | 0, seen, _ => seen
  | fuel + 1, seen, n =>
    if seen.contains n then n :: (seen.takeWhile (· != n))
    else
      match pairs.find? fun p => p.2 == n with
      | some p => ringFrom pairs fuel (n :: seen) p.1
      | none => []

/-- Puts names in an order in which each comes behind those before it. Names of a ring are told, and one
of its pairs is left out. -/
def ordered : Nat → Before → List Raw → List Raw → List (Bool × Raw) → List (Bool × Raw)
  | 0, _, _, _, done => done.reverse
  | fuel + 1, pairs, left, ready, done =>
    match ready with
    | n :: ready =>
      let (mine, rest) := pairs.partition fun p => p.1 == n
      let step : List Raw × Before → Raw × Raw → List Raw × Before := fun (free, rest) p =>
        if rest.any fun q => q.2 == p.2 then (free, rest) else (if free.contains p.2 then free else free ++ [p.2], rest)
      let dropped : Nat → Before := fun k => mine.drop k
      let (free, _) := mine.zipIdx.foldl (fun (free, _) (p, i) =>
        step (free, rest ++ dropped (i + 1)) p) (([] : List Raw), rest)
      ordered fuel rest (left.filter (· != n)) (ready ++ free) ((false, n) :: done)
    | [] =>
      match left.find? fun n => pairs.any fun p => p.2 == n with
      | none => done.reverse
      | some n =>
        let ring := ringFrom pairs (pairs.length + 2) [] n
        let ring := if ring.isEmpty then [n] else ring
        let told := ring.map fun m => (true, m)
        let last := ring.getLast?.getD n
        let first := ring.head?.getD n
        let pairs := pairs.filter fun p => !(p == (last, first))
        let free := if pairs.any fun p => p.2 == first then [] else [first]
        ordered fuel pairs left free (told.reverse ++ (true, "") :: done)

def tsort (s : Scene) (args : List Raw) : Ran :=
  let k : Known := { tool := "tsort" }
  k.run args fun o =>
    match o.operands with
    | _ :: extra :: _ => k.refuse ("extra operand " ++ quoted extra)
    | ops =>
      let name := ops.head?.getD "-"
      match contents? s name with
      | .error e => complain ("tsort: " ++ name ++ ": " ++ (if isDirectoryReason e then "read error: " else "") ++ e) 1
      | .ok t =>
        let words := (((Raw.ofBytes t.bytes).toList.splitOnP isGap).filter (!·.isEmpty)).map String.ofList
        if words.length % 2 = 1 then
          complain ("tsort: " ++ name ++ ": input contains an odd number of tokens") 1
        else
          let rec pairsOf : List Raw → List (Raw × Raw)
            | a :: b :: rest => (a, b) :: pairsOf rest
            | _ => []
          let pairs := ((pairsOf words).filter fun p => p.1 != p.2).reverse
          let all := (words.eraseDups).mergeSort fun a b => !(b < a)
          let ready := all.filter fun n => !pairs.any fun p => p.2 == n
          let result := ordered (2 * all.length + pairs.length + 2) pairs all ready []
          let looped := result.any (·.1)
          reading ops
            { writes := result.map fun (isLoop, n) =>
                if isLoop then
                  complaint (if n.isEmpty then "tsort: " ++ name ++ ": input contains a loop:" else "tsort: " ++ n)
                else (false, Raw.toBytes (n ++ "\n"))
              status := if looped then 1 else 0 }

end Host.Tool

end PolicyGate
