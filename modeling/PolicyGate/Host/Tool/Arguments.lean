import PolicyGate.Host.Tool.Basic

/-!
# The tool that puts arguments in order

Arguments are read by a list of short and long options and are written so that a shell can read them
back: the options first, then two dashes, then the rest. Faults are told and left out.
-/

namespace PolicyGate

namespace Host.Tool

namespace Arguments

/-- Whether an option has an argument. -/
inductive Has where
  | none
  | needed
  | optional
  deriving DecidableEq

/-- Which options there are, and where words stand that are none. -/
structure Grammar where
  short : List (Char × Has) := []
  long : List (Raw × Has) := []
  /-- Whether options end at the first word that is none. -/
  stops : Bool := false
  /-- Whether words that are none stay where they are. -/
  inPlace : Bool := false
  /-- Whether a long option may start with a single dash. -/
  single : Bool := false

/-- How many colons stand in front, and what they say. -/
def colons (cs : List Char) : Has :=
  match cs with
  | ':' :: ':' :: _ => .optional
  | ':' :: _ => .needed
  | _ => .none

/-- Reads the letters of short options. -/
def letters : List Char → List (Char × Has)
  | [] => []
  | c :: cs => if c == ':' then letters cs else (c, colons cs) :: letters cs

/-- Reads a list of long options with commas or blanks in between. -/
def longNames (r : Raw) : List (Raw × Has) :=
  let names := (r.toList.splitOnP fun c => c == ',' || c == ' ' || c == '\t' || c == '\n')
  (names.filter (!·.isEmpty)).map fun cs =>
    let back := cs.reverse
    match back with
    | ':' :: ':' :: name => (String.ofList name.reverse, .optional)
    | ':' :: name => (String.ofList name.reverse, .needed)
    | _ => (String.ofList cs, .none)

/-- A part of what has been read. -/
inductive Item where
  | short (c : Char) (argument : Option Raw)
  | long (name : Raw) (argument : Option Raw)
  | word (r : Raw)
  | fault (what : Raw)

/-- What a word is as a long option, with the words that are left. -/
def longItem (g : Grammar) (dashes : Raw) (word : Raw) (rest : List Raw) : Item × List Raw :=
  let name := String.ofList (word.toList.takeWhile (· != '='))
  let value : Option Raw :=
    if name.length < word.length then some (String.ofList (word.toList.drop (name.length + 1))) else none
  let found : List (Raw × Has) := match g.long.filter (·.1 == name) with
    | [] => g.long.filter fun l => l.1.startsWith name
    | exact => exact.take 1
  match found with
  | [] => (.fault ("unrecognized option '" ++ dashes ++ name ++ "'"), rest)
  | [(full, has)] =>
    match has, value with
    | .none, some _ =>
      (.fault ("option '" ++ dashes ++ full ++ "' doesn't allow an argument"), rest)
    | .none, none => (.long full none, rest)
    | _, some v => (.long full (some v), rest)
    | .optional, none => (.long full (some ""), rest)
    | .needed, none =>
      match rest with
      | v :: rest => (.long full (some v), rest)
      | [] => (.fault ("option '" ++ dashes ++ full ++ "' requires an argument"), [])
  | many =>
    (.fault ("option '" ++ dashes ++ name ++ "' is ambiguous; possibilities:" ++
      String.join (many.map fun l => " '" ++ dashes ++ l.1 ++ "'")), rest)

/-- Reads the letters behind a dash. -/
def shortItems (g : Grammar) : List Char → List Raw → List Item × List Raw
  | [], rest => ([], rest)
  | c :: cs, rest =>
    match g.short.lookup c with
    | none =>
      let (items, rest) := shortItems g cs rest
      (.fault ("invalid option -- '" ++ c.toString ++ "'") :: items, rest)
    | some .none =>
      let (items, rest) := shortItems g cs rest
      (.short c none :: items, rest)
    | some .optional => ([.short c (some (String.ofList cs))], rest)
    | some .needed =>
      if !cs.isEmpty then ([.short c (some (String.ofList cs))], rest)
      else
        match rest with
        | v :: rest => ([.short c (some v)], rest)
        | [] => ([.fault ("option requires an argument -- '" ++ c.toString ++ "'")], [])

/-- Whether a word behind a single dash is read as a long option. -/
def isLongHere (g : Grammar) (cs : List Char) : Bool :=
  let name := String.ofList (cs.takeWhile (· != '='))
  g.single && ((g.long.any fun l => l.1.startsWith name) ||
    (cs.head?.any fun c => (g.short.lookup c).isNone))

/-- Reads all words: the items, and the words that stand behind the options. The first argument bounds
their number. -/
def readAll (g : Grammar) : Nat → List Raw → List Item × List Raw
  | 0, ws => ([], ws)
  | _ + 1, [] => ([], [])
  | fuel + 1, w :: ws =>
    match w.toList with
    | ['-', '-'] => ([], ws)
    | '-' :: '-' :: cs =>
      let (item, rest) := longItem g "--" (String.ofList cs) ws
      let (items, left) := readAll g fuel rest
      (item :: items, left)
    | '-' :: c :: cs =>
      let (mine, rest) :=
        if isLongHere g (c :: cs) then
          let (item, rest) := longItem g "-" (String.ofList (c :: cs)) ws
          ([item], rest)
        else shortItems g (c :: cs) ws
      let (items, left) := readAll g fuel rest
      (mine ++ items, left)
    | _ =>
      if g.stops then ([], w :: ws)
      else
        let (items, left) := readAll g fuel ws
        if g.inPlace then (.word w :: items, left) else (items, w :: left)

/-- How arguments are written for a shell. -/
inductive Shell where
  | plain
  | bourne
  | csh

/-- An argument as a shell reads it back. -/
def Shell.text (sh : Shell) (r : Raw) : Raw :=
  match sh with
  | .plain => r
  | .bourne => "'" ++ r.replace "'" "'\\''" ++ "'"
  | .csh =>
    "'" ++ String.join (r.toList.map fun c =>
      if c == '\'' then "'\\''" else if c == '\\' then "\\\\" else if c == '!' then "'\\!'"
      else if c == '\n' then "\\n" else if c == ' ' || c == '\t' then "'\\" ++ c.toString ++ "'"
      else c.toString) ++ "'"

def Item.text (sh : Shell) : Item → Raw
  | .short c argument =>
    " -" ++ c.toString ++ (match argument with
      | some a => " " ++ sh.text a
      | none => "")
  | .long name argument =>
    " --" ++ name ++ (match argument with
      | some a => " " ++ sh.text a
      | none => "")
  | .word r => " " ++ sh.text r
  | .fault _ => ""

def known : Known :=
  { tool := "getopt", plain := "aqQTu", withArgument := "lnos", refusal := 2, mixed := false
    long := [("alternative", 'a'), ("longoptions", 'l'), ("name", 'n'), ("options", 'o'),
      ("quiet", 'q'), ("quiet-output", 'Q'), ("shell", 's'), ("test", 'T'), ("unquoted", 'u')] }

/-- Reads words by a grammar, and tells what came of it. -/
def output (g : Grammar) (sh : Shell) (name : Raw) (silentFaults silentOutput : Bool) (ws : List Raw) :
    Ran :=
  let (items, left) := readAll g (ws.length + 1) ws
  let faults := items.filterMap fun i =>
    match i with
    | .fault what => some (complaint (name ++ ": " ++ what))
    | _ => none
  let line := String.join (items.map (Item.text sh)) ++ " --" ++
    String.join (left.map fun w => " " ++ sh.text w) ++ "\n"
  { writes := (if silentFaults then [] else faults) ++
      (if silentOutput then [] else [(false, Raw.toBytes line)])
    status := if faults.isEmpty then 0 else 1 }

/-- A grammar from the text of its short options, whose first sign may say where words stand. -/
def grammar (short : Raw) (long : List (Raw × Has)) (single obeys : Bool) : Grammar :=
  let cs := short.toList
  { short := letters (cs.dropWhile fun c => c == '+' || c == '-'), long, single
    stops := cs.head? == some '+' || (obeys && cs.head? != some '-'), inPlace := cs.head? == some '-' }

end Arguments

def getopt (s : Scene) (args : List Raw) : Ran :=
  let k := Arguments.known
  let obeys := (s.environment.lookup "POSIXLY_CORRECT").isSome
  match args with
  | [] => k.refuse "missing optstring argument"
  | first :: rest =>
    if !first.startsWith "-" then
      let short := String.ofList (first.toList.dropWhile fun c => c == '+' || c == '-')
      Arguments.output (Arguments.grammar short [] false obeys) .plain "getopt" false false rest
    else
      k.run args fun o =>
        let sh : Option Arguments.Shell := match o.value? 's' with
          | none => some .bourne
          | some r =>
            if r == "sh" || r == "bash" then some .bourne
            else if r == "csh" || r == "tcsh" then some .csh
            else none
        let words : Option (Raw × List Raw) := match o.value? 'o', o.operands with
          | some short, ws => some (short, ws)
          | none, short :: ws => some (short, ws)
          | none, [] => none
        match sh, words with
        | none, _ => k.refuse "unknown shell after -s or --shell argument"
        | some sh, words =>
          if o.has 'T' then silent 4
          else
            match words with
            | none => k.refuse "missing optstring argument"
            | some (short, ws) =>
              let long := (o.values 'l').flatMap Arguments.longNames
              Arguments.output (Arguments.grammar short long (o.has 'a') obeys)
                (if o.has 'u' then .plain else sh) ((o.value? 'n').getD "getopt") (o.has 'q') (o.has 'Q') ws

end Host.Tool

end PolicyGate
