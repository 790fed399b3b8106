import PolicyGate.Host.Edit.Listing
import PolicyGate.Host.Tool.Basic

/-!
# Running edit scripts

The script is run on one line after another. The line is kept in a *workspace*, which commands change
and which is shown at the end of the script; another text is *held* beside it. Commands can take in
further lines, jump, run programs and end the run. A text whose last line no newline ends is shown
without one, unless something follows.
-/

namespace PolicyGate

namespace Host.Edit

/-- A text, and whether the byte that ends lines belongs behind it. -/
structure Text where
  chars : List Char := []
  ended : Bool := true

/-- A line that is still to come. -/
structure Line where
  text : Text
  /-- What the file it belongs to is called, and its place among the files. -/
  source : Raw := "-"
  file : Nat := 0
  /-- Whether it is the last of its file. -/
  isLast : Bool := false

/-- The lines of a file, each without the byte that ends it. -/
def linesOf (ending : UInt8) (source : Raw) (file : Nat) (bytes : List UInt8) : List Line :=
  let line (l : List UInt8) : Line :=
    let ended := l.getLast? == some ending
    { text := ⟨(Raw.ofBytes (if ended then l.dropLast else l)).toList, ended⟩, source, file }
  let ls := (linesEndedBy ending bytes).map line
  match ls.getLast? with
  | some l => ls.dropLast ++ [{ l with isLast := true }]
  | none => []

/-- What a script works on. -/
structure Desk where
  coming : List Line
  files : Files
  line : Line := { text := {} }
  number : Nat := 0
  space : Text := {}
  held : Text := {}
  /-- Whether a part has been replaced since the line was taken in. -/
  replaced : Bool := false
  /-- The ranges that are open, by the places of their commands, each with the line it ends at if
  that is known. -/
  open_ : List (Nat × Option Nat) := []
  /-- The ranges from line 0 that have ended. -/
  spent : List Nat := []
  /-- The expression that was used last. -/
  recent : Option Expression := none
  /-- What has been shown, the latest first, and whether as a complaint. -/
  shown : List (Bool × List UInt8) := []
  /-- Whether the last of it ended as a line does. -/
  complete : Bool := true
  /-- What is to take the place of the file at hand, the latest first, and of those before it. -/
  page : List (List UInt8) := []
  pages : List (Nat × List UInt8) := []
  /-- What is shown behind the line, the latest first. -/
  queue : List (List UInt8) := []
  /-- What has been written to files since they were last brought up to date, the latest first. -/
  written : List (Raw × List UInt8) := []
  /-- The files that have been written to, and whether the last of it ended as a line does. -/
  marks : List (Raw × Bool) := []
  /-- What is left of files that are read line by line. -/
  readers : List (Raw × List (List UInt8)) := []
  waitMs : Nat := 0
  fault : Option Raw := none

/-- How a run of the script over one line ends. -/
inductive Turn where
  | done
  /-- Without showing the workspace. -/
  | dropped
  /-- Anew, without taking in a line. -/
  | again
  | quit (status : Nat) (silent : Bool)
  /-- Never. -/
  | endless

structure Settings where
  commands : Array Command
  /-- The number of blocks around each command. -/
  depths : Array Nat := #[]
  quiet : Bool := false
  /-- Whether each file has lines of its own. -/
  separate : Bool := false
  /-- Whether what is shown takes the place of the file. -/
  inPlace : Bool := false
  /-- Whether it is told what is done. -/
  traces : Bool := false
  /-- Whether the workspace is lost when a line is asked for that is not there. -/
  strict : Bool := false
  /-- The byte that ends lines. -/
  ending : UInt8 := 0x0A
  /-- The width of lines that are shown visibly. -/
  width : Nat := 70
  read : Files → Raw → Option (List UInt8)
  write : Files → Raw → List UInt8 → Files
  launch : Files → List Raw → Except Raw Ran

namespace Settings

def mark (set : Settings) : Char := Char.ofNat set.ending.toNat

end Settings

namespace Desk

/-! ## Showing -/

/-- Shows bytes, after the end of a line that lacks it. -/
def putBytes (set : Settings) (d : Desk) (bytes : List UInt8) (complete : Bool) : Desk :=
  let bytes := (if d.complete then [] else [set.ending]) ++ bytes
  if set.inPlace then { d with page := bytes :: d.page, complete }
  else { d with shown := (false, bytes) :: d.shown, complete }

/-- Adds the end of a line that lacks it. -/
def finishLine (set : Settings) (d : Desk) : Desk := if d.complete then d else d.putBytes set [] true

def lineBytes (set : Settings) (t : Text) : List UInt8 :=
  Raw.toBytes (String.ofList t.chars) ++ (if t.ended then [set.ending] else [])

def putLine (set : Settings) (d : Desk) (t : Text) : Desk := d.putBytes set (lineBytes set t) t.ended

def putText (set : Settings) (d : Desk) (r : Raw) : Desk := d.putBytes set (Raw.toBytes r) true

/-- A text of a command as a line. -/
def commandText (set : Settings) (r : Raw) : Raw :=
  if r.isEmpty then r else String.ofList (r.toList.dropLast ++ [set.mark])

/-- Tells something that is no output, if that is asked for. -/
def note (set : Settings) (d : Desk) (r : Raw) : Desk :=
  if set.traces then { d with shown := (false, Raw.toBytes r) :: d.shown } else d

def noteSpace (set : Settings) (d : Desk) : Desk :=
  d.note set ("PATTERN: " ++ shownText (String.ofList d.space.chars) ++ "\n")

def noteHeld (set : Settings) (d : Desk) : Desk :=
  d.note set ("HOLD:    " ++ shownText (String.ofList d.held.chars) ++ "\n")

/-- Shows what was kept back until the end of the line. -/
def flush (set : Settings) (d : Desk) : Desk :=
  if d.queue.isEmpty then d
  else
    let d := d.queue.reverse.foldl (fun d b => d.putBytes set b true) d
    { d with queue := [] }

/-! ## Files -/

/-- Brings the files up to date. -/
def settled (set : Settings) (d : Desk) : Desk :=
  let paths := (d.written.map (·.1)).eraseDups
  let files := paths.foldl (fun files p =>
    set.write files p ((d.written.filter (·.1 == p)).reverse.map (·.2)).flatten) d.files
  { d with files, written := [] }

/-- Adds a line to what a file gets. -/
def writeTo (set : Settings) (d : Desk) (path : Raw) (t : Text) : Desk :=
  let complete := (d.marks.lookup path).getD true
  let bytes := (if complete then [] else [set.ending]) ++ lineBytes set t
  let d := { d with marks := (path, t.ended) :: d.marks.filter (·.1 != path) }
  if path == "/dev/stdout" then { d with shown := (false, bytes) :: d.shown }
  else if path == "/dev/stderr" then { d with shown := (true, bytes) :: d.shown }
  else { d with written := (path, bytes) :: d.written }

/-- Takes the next line of a file. -/
def readLine (set : Settings) (d : Desk) (path : Raw) : Desk :=
  let lines := match d.readers.lookup path with
    | some ls => ls
    | none => linesEndedBy set.ending ((set.read d.files path).getD [])
  match lines with
  | [] => d
  | l :: rest =>
    { d with queue := l :: d.queue, readers := (path, rest) :: d.readers.filter (·.1 != path) }

/-- Runs a command: what it writes, or nothing if it never ends. -/
def execute (set : Settings) (d : Desk) (command : List Char) : Desk × Option (List UInt8) :=
  let d := d.settled set
  match set.launch d.files ["sh", "-c", String.ofList command] with
  | .error _ => (d, some [])
  | .ok r =>
    let errors := r.writes.filter (·.1)
    let d := { d with
      files := r.files.getD d.files, shown := errors.reverse ++ d.shown, waitMs := d.waitMs + r.waitMs }
    if r.hangs || !r.endless.isEmpty then (d, none)
    else (d, some ((r.writes.filter fun w => !w.1).map (·.2)).flatten)

/-- Puts what a command writes in the place of the workspace. -/
def replaceBy (set : Settings) (d : Desk) (bytes : List UInt8) : Desk :=
  let bytes := if bytes.getLast? == some set.ending then bytes.dropLast else bytes
  { d with space := { d.space with chars := (Raw.ofBytes bytes).toList } }

/-! ## Choosing lines -/

def isLastLine (set : Settings) (d : Desk) : Bool := d.coming.isEmpty || (set.separate && d.line.isLast)

/-- The expression that counts, which is the one used last where none is given. -/
def expression (d : Desk) (e : Option Expression) : Desk × Option Expression :=
  match e.or d.recent with
  | some e => ({ d with recent := some e }, some e)
  | none => ({ d with fault := some "-e expression #1, char 0: no previous regular expression" }, none)

/-- What an expression finds in the workspace at a place or behind it. -/
def search (e : Expression) (space : Array Char) (i : Nat) : Option Regex.Found :=
  Regex.search { chars := space, fold := e.fold } e.regex i

def meets (set : Settings) (d : Desk) : Address → Desk × Bool
  | .number n => (d, d.number == n)
  | .last => (d, d.isLastLine set)
  | .every first step =>
    (d, if step = 0 then d.number == first
      else first ≤ d.number && (d.number - first) % step == 0)
  | .fitting e =>
    match d.expression e with
    | (d, some e) => (d, (search e d.space.chars.toArray 0).isSome)
    | (d, none) => (d, false)

def openRange (d : Desk) (place : Nat) (finish : Option Nat) : Desk :=
  { d with open_ := (place, finish) :: d.open_.filter (·.1 != place) }

def closeRange (d : Desk) (place : Nat) : Desk :=
  { d with open_ := d.open_.filter (·.1 != place) }

/-- Whether a range is open, and what becomes of it, given its end. -/
def inRange (set : Settings) (d : Desk) (place : Nat) (finish : Stop) : Option Nat → Desk × Bool
  | some n =>
    if n ≤ d.number then (d.closeRange place, d.number ≤ n) else (d, true)
  | none =>
    match finish with
    | .at a =>
      let (d, hit) := d.meets set a
      (if hit then d.closeRange place else d, true)
    | _ => (d, true)

/-- Starts a range at this line, unless it ends here. -/
def startRange (d : Desk) (place : Nat) : Stop → Desk
  | .at (.number n) => if n ≤ d.number then d else d.openRange place (some n)
  | .at _ => d.openRange place none
  | .later n => if n = 0 then d else d.openRange place (some (d.number + n))
  | .multiple n =>
    if n = 0 then d else d.openRange place (some ((d.number / n + 1) * n))

/-- Whether a command is for the line. -/
def chosen (set : Settings) (d : Desk) (place : Nat) (s : Scope) : Desk × Bool :=
  let (d, hit) : Desk × Bool :=
    match s.start, s.stop with
    | none, _ => (d, true)
    | some a, none => d.meets set a
    | some a, some finish =>
      match d.open_.lookup place with
      | some known => d.inRange set place finish known
      | none =>
        match a with
        | .number 0 =>
          if d.spent.contains place then (d, false)
          else
            ({ d with spent := place :: d.spent }.openRange place none).inRange set place finish none
        | a =>
          let (d, hit) := d.meets set a
          if hit then (d.startRange place finish, true) else (d, false)
  (d, hit != s.negated)

/-! ## Changing -/

def turnLetter : LetterCase → Char → Char
  | .asIs, c => c
  | .upper, c => c.toUpper
  | .lower, c => c.toLower

/-- Puts characters in, with their letters turned. -/
def putIn (state : LetterCase × Option LetterCase) (cs : List Char) :
    List Char × (LetterCase × Option LetterCase) :=
  match cs with
  | [] => ([], state)
  | c :: rest =>
    match state.2 with
    | some one => (turnLetter one c :: rest.map (turnLetter state.1), (state.1, none))
    | none => ((c :: rest).map (turnLetter state.1), state)

/-- What is put in for a part that fits. -/
def filled (space : Array Char) (f : Regex.Found) (is : List Insert) : List Char :=
  let part (start stop : Nat) : List Char := (space.extract start stop).toList
  let step : List Char × (LetterCase × Option LetterCase) → Insert →
      List Char × (LetterCase × Option LetterCase) := fun (done, state) i =>
    let add (cs : List Char) := let (cs, state) := putIn state cs; (done ++ cs, state)
    match i with
    | .text r => add r.toList
    | .group 0 => add (part f.start f.stop)
    | .group n =>
      match f.groups.lookup n with
      | some (a, b) => add (part a b)
      | none => (done, state)
    | .turn c => (done, (c, if c == .asIs then none else state.2))
    | .turnNext c => (done, (state.1, some c))
  (is.foldl step ([], (.asIs, none))).1

/-- Replaces parts from a place on: the text it gives, and whether there was a part to replace. A fit
of nothing right behind another does not count. -/
def replaceFrom (e : Expression) (s : Substitution) (space : Array Char) :
    Nat → Nat → Nat → Option Nat → List Char × Bool
  | 0, _, _, _ => ([], false)
  | fuel + 1, i, count, behind =>
    let rest := (space.extract i space.size).toList
    if space.size < i then ([], false)
    else
      match search e space i with
      | none => (rest, false)
      | some f =>
        let before := (space.extract i f.start).toList
        let isEmpty := f.start == f.stop
        let one := (space.extract f.start (f.start + 1)).toList
        if isEmpty && behind == some f.start then
          let (more, hit) := replaceFrom e s space fuel (f.start + 1) count none
          (before ++ one ++ more, hit)
        else
          let wanted := s.nth.getD 1 ≤ count
          let here := if wanted then filled space f s.inserts
            else (space.extract f.start f.stop).toList
          let ahead := if isEmpty then f.stop + 1 else f.stop
          let gap := if isEmpty then one else []
          if wanted && !s.all then
            (before ++ here ++ (space.extract f.stop space.size).toList, true)
          else
            let (more, hit) := replaceFrom e s space fuel ahead (count + 1) (some f.stop)
            (before ++ here ++ gap ++ more, hit || wanted)

/-- What the first fit of an expression and its groups are. -/
def registers (space : Array Char) (f : Regex.Found) : Raw :=
  let one (n start stop : Nat) : Raw :=
    "  regex[" ++ toString n ++ "] = " ++ toString start ++ "-" ++ toString stop ++ " '" ++
      String.ofList (space.extract start stop).toList ++ "'\n"
  let groups := (List.range 10).filterMap fun n =>
    (f.groups.lookup n).map fun g => one n g.1 g.2
  "MATCHED REGEX REGISTERS\n" ++ one 0 f.start f.stop ++ String.join groups

/-- Replaces parts of the workspace. Nothing is given if a command that is run never ends. -/
def substitute (set : Settings) (d : Desk) (s : Substitution) : Desk × Bool :=
  match d.expression s.pattern with
  | (d, none) => (d, true)
  | (d, some e) =>
    let space := d.space.chars.toArray
    let d := match if set.traces then search e space 0 else none with
      | some f => d.note set (registers space f)
      | none => d
    match replaceFrom e s space (space.size + 2) 0 1 none with
    | (_, false) => (d, true)
    | (cs, true) =>
      let d := { d with space := { d.space with chars := cs }, replaced := true }
      let d := if s.printFirst then d.putLine set d.space else d
      let (d, ends) : Desk × Bool :=
        if s.runs then
          match d.execute set d.space.chars with
          | (d, some bytes) => (d.replaceBy set bytes, true)
          | (d, none) => (d, false)
        else (d, true)
      let d := if s.print then d.putLine set d.space else d
      match s.file with
      | some path => (d.writeTo set path d.space, ends)
      | none => (d, ends)

/-- A character as it is shown visibly. -/
def visible (c : Char) : List Char :=
  let octal (n : Nat) : List Char :=
    ['\\', Char.ofNat (48 + n / 64 % 8), Char.ofNat (48 + n / 8 % 8), Char.ofNat (48 + n % 8)]
  if c == '\\' then ['\\', '\\']
  else if c == '\x07' then ['\\', 'a']
  else if c == '\x08' then ['\\', 'b']
  else if c == '\x0c' then ['\\', 'f']
  else if c == '\n' then ['\\', 'n']
  else if c == '\r' then ['\\', 'r']
  else if c == '\t' then ['\\', 't']
  else if c == '\x0b' then ['\\', 'v']
  else if ' ' ≤ c && c ≤ '~' then [c]
  else octal c.toNat

/-- A text shown visibly, in lines of a width, where the width 0 stands for any. -/
def visibleLines (width : Nat) (mark : Char) (cs : List Char) : List Char :=
  let step : List Char × Nat → Char → List Char × Nat := fun (done, used) c =>
    let v := visible c
    if width != 0 && width - 1 < used + v.length then
      (v.reverse ++ mark :: '\\' :: done, v.length)
    else (v.reverse ++ done, used + v.length)
  ((cs.foldl step ([], 0)).1.reverse) ++ ['$', mark]

def firstLine (set : Settings) (cs : List Char) : List Char := cs.takeWhile (· != set.mark)

/-- Takes in the next line. Where each file has lines of its own, the first of a file starts anew. -/
def takeIn (set : Settings) (d : Desk) : Option Desk :=
  match d.coming with
  | [] => none
  | l :: ls =>
    let isNew := set.separate && l.file != d.line.file && d.number != 0
    let d := if !isNew then d
      else if set.inPlace then
        { d with pages := (d.line.file, d.page.reverse.flatten) :: d.pages, page := [], complete := true }
      else d.finishLine set
    let d := if isNew then
        { d with number := 0, open_ := [], spent := [], readers := [], held := { d.held with chars := [] } }
      else d
    some { d with coming := ls, line := l, number := d.number + 1 }

/-! ## The run -/

/-- The place of a label. Of several the last counts. -/
def placeOf? (commands : Array Command) (name : Raw) : Option Nat :=
  let isIt (c : Command) : Bool :=
    match c.act with
    | .label n => n == name
    | _ => false
  (commands.toList.reverse.findIdx? isIt).map fun i => commands.size - 1 - i

/-- Whether a changed text is shown now: at the end of a range, or at each line without one. -/
def changesHere (d : Desk) (place : Nat) (s : Scope) : Bool :=
  s.stop.isNone || s.negated || (d.open_.lookup place).isNone

/-- Runs the commands from a place on. -/
def turn (set : Settings) : Nat → Nat → Desk → Desk × Turn
  | 0, _, d => (d, .endless)
  | fuel + 1, place, d =>
    match set.commands[place]? with
    | none => (d, .done)
    | some c =>
      let d := if set.traces then
          d.note set ("COMMAND: " ++ c.shown ((set.depths[place]?).getD 0))
        else d
      match d.chosen set place c.scope with
      | (d, false) =>
        if d.fault.isSome then (d, .quit 1 true)
        else
          match c.act with
          | .block size => turn set fuel (place + size + 1) d
          | _ => turn set fuel (place + 1) d
      | (d, true) =>
        if d.fault.isSome then (d, .quit 1 true)
        else
          let on (d : Desk) : Desk × Turn := turn set fuel (place + 1) d
          let jump (name : Raw) (d : Desk) : Desk × Turn :=
            if name.isEmpty then (d, .done)
            else
              match placeOf? set.commands name with
              | some p => turn set fuel p d
              | none => (d, .done)
          let space := d.space
          match c.act with
          | .block _ | .blockEnd | .label _ => on d
          | .jump name => jump name d
          | .jumpIfReplaced name =>
            if d.replaced then jump name { d with replaced := false } else on d
          | .jumpUnlessReplaced name =>
            if d.replaced then on { d with replaced := false } else jump name d
          | .appendText r => on { d with queue := Raw.toBytes r :: d.queue }
          | .insertText r => on (d.putText set (commandText set r))
          | .changeText r =>
            let d := if d.changesHere place c.scope then d.putText set (commandText set r) else d
            (d.note set "END-OF-CYCLE:\n", .dropped)
          | .delete => (d.note set "END-OF-CYCLE:\n", .dropped)
          | .deleteFirstLine =>
            if space.chars.contains set.mark then
              let rest := space.chars.drop ((firstLine set space.chars).length + 1)
              ({ d with space := { space with chars := rest } }.noteSpace set, .again)
            else (d, .dropped)
          | .print => on (d.putLine set space)
          | .printFirstLine =>
            let line := firstLine set space.chars
            on (d.putLine set ⟨line, space.ended || line.length < space.chars.length⟩)
          | .printNumber => on (d.putText set (toString d.number ++ set.mark.toString))
          | .printName => on (d.putText set (d.line.source ++ set.mark.toString))
          | .printVisibly width =>
            on (d.putText set
              (String.ofList (visibleLines (width.getD set.width) set.mark space.chars)))
          | .next =>
            if d.isLastLine set then (d, .done)
            else
              let d := if set.quiet then d else d.putLine set space
              match (d.flush set).takeIn set with
              | some d => on ({ d with space := d.line.text }.noteSpace set)
              | none => (d, .done)
          | .appendNext =>
            if d.isLastLine set then (d, if set.strict then .dropped else .done)
            else
              match (d.flush set).takeIn set with
              | some d =>
                let text := d.line.text
                on ({ d with space := { text with chars := space.chars ++ set.mark :: text.chars } }.noteSpace
                  set)
              | none => (d, .done)
          | .get => on ({ d with space := d.held }.noteHeld set)
          | .appendHeld =>
            let held := d.held
            on ({ d with space := { held with chars := space.chars ++ set.mark :: held.chars } }.noteSpace set)
          | .hold => on ({ d with held := space }.noteHeld set)
          | .appendToHeld =>
            on ({ d with held := { space with chars := d.held.chars ++ set.mark :: space.chars } }.noteHeld set)
          | .exchange =>
            on (({ d with space := d.held, held := space }.noteSpace set).noteHeld set)
          | .substitute s =>
            match d.substitute set s with
            | (d, true) => if d.fault.isSome then (d, .quit 1 true) else on (d.noteSpace set)
            | (d, false) => (d, .endless)
          | .exchangeLetters pairs =>
            let chars := space.chars.map fun c => (pairs.lookup c).getD c
            on ({ d with space := { space with chars } }.noteSpace set)
          | .readFile path =>
            let d := d.settled set
            on { d with queue := (set.read d.files path).getD [] :: d.queue }
          | .readLine path => on ((d.settled set).readLine set path)
          | .writeFile path => on (d.writeTo set path space)
          | .writeFirstLine path =>
            let line := firstLine set space.chars
            on (d.writeTo set path ⟨line, space.ended || line.length < space.chars.length⟩)
          | .zap => on ({ d with space := { space with chars := [] } }.noteSpace set)
          | .execute command =>
            if command.isEmpty then
              match d.execute set space.chars with
              | (d, some bytes) => on (d.replaceBy set bytes)
              | (d, none) => (d, .endless)
            else
              match (d.finishLine set).execute set command.toList with
              | (d, some bytes) => on (if bytes.isEmpty then d else d.putBytes set bytes true)
              | (d, none) => (d, .endless)
          | .quit status silent => (d, .quit (status.getD 0) silent)
          | .obsolete letter =>
            ({ d with fault := some ("INTERNAL ERROR: Bad cmd " ++ letter.toString) }, .quit 4 true)

/-- The largest number of commands that are run on one line. -/
def turnLimit : Nat := 200000

/-- Runs the script on the lines that come: the desk at the end, and the status, or nothing if the run
never ends. -/
def run (set : Settings) : Nat → Bool → Desk → Desk × Option Nat
  | 0, _, d => (d, none)
  | fuel + 1, again, d =>
    let named (d : Desk) : Raw := if d.line.source == "-" then "STDIN" else d.line.source
    let start := if again then some d
      else
        (d.flush set |>.takeIn set).map fun d =>
          { d with space := d.line.text, replaced := false }.note set
            ("INPUT:   '" ++ named d ++ "' line " ++ toString d.number ++ "\n") |>.noteSpace set
    match start with
    | none => (d.flush set, some 0)
    | some d =>
      let close (d : Desk) : Desk := if set.quiet then d else d.putLine set d.space
      match turn set turnLimit 0 d with
      | (d, .done) => run set fuel false (close (d.note set "END-OF-CYCLE:\n"))
      | (d, .dropped) => run set fuel false d
      | (d, .again) => run set fuel true (d.flush set)
      | (d, .quit status silent) =>
        if silent then (d, some status) else ((close d).flush set |>.finishLine set, some status)
      | (d, .endless) => (d, none)

end Desk

end Host.Edit

end PolicyGate
