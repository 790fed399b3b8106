import PolicyGate.Host.Shell.Pattern
import PolicyGate.Host.Tool.List
import PolicyGate.Host.Walk.Query

/-!
# Walks over files

A walk goes from some paths to all that is below them, a directory before what is in it or behind it. At
each file a query is asked, whose actions can change the files and end the walk. Commands that take many
files run at the end.
-/

namespace PolicyGate

namespace Host.Walk

/-- A file that a walk has come to. -/
structure Stop where
  path : Raw
  /-- The path from which the walk has come here, and how far. -/
  start : Raw
  depth : Nat
  reached : Reached

structure Walker where
  scene : Scene
  setting : Setting
  /-- What has been written, the latest first. -/
  shown : List (Bool × List UInt8) := []
  status : Nat := 0
  waitedMs : Nat := 0
  /-- The files for commands that take many, the latest first. -/
  gathered : List (Nat × List Raw × Bool × Raw) := []
  /-- Whether what is in the directory is passed over. -/
  passes : Bool := false
  quits : Bool := false

namespace Walker

def fail (w : Walker) (r : Raw) : Walker :=
  { w with shown := Tool.complaint ("find: " ++ r) :: w.shown, status := 1 }

def say (w : Walker) (r : Raw) : Walker := { w with shown := (false, Raw.toBytes r) :: w.shown }

/-- What a path leads to: a link itself, or what is behind it if links are followed. -/
def reach (w : Walker) (depth : Nat) (path : Raw) : Except PathFault Reached :=
  if w.setting.follows || (w.setting.followsGiven && depth = 0) then
    match w.scene.reach path with
    | .ok r => .ok r
    | .error _ => w.scene.reachName path
  else w.scene.reachName path

/-- Runs a command, and tells its status. -/
def run (w : Walker) (inside : Option Raw) (words : List Raw) : Walker × Option Nat :=
  let command := match inside with
    | some dir => "env" :: "-C" :: dir :: words
    | none => words
  match w.scene.launch w.scene.files w.scene.input command with
  | .error why => (w.fail (Tool.quoted (words.head?.getD "") ++ ": " ++ why), none)
  | .ok r =>
    let w : Walker :=
      { w with
        shown := r.writes.reverse ++ w.shown, waitedMs := w.waitedMs + r.waitMs
        scene := { w.scene with files := r.files.getD w.scene.files, input := r.rest.getD w.scene.input } }
    (w, some r.status)

end Walker

/-! ## Texts about files -/

def kindLetter (n : Node) : Char := if Tool.kindLetter n == '-' then 'f' else Tool.kindLetter n

/-- The last name of a path, and what stands before it. -/
def lastName (path : Raw) : Raw := Tool.baseName path

def parent (path : Raw) : Raw :=
  let cs := path.toList.reverse.dropWhile (· == '/')
  if !cs.contains '/' then (if path.startsWith "/" then "" else ".")
  else String.ofList ((cs.dropWhile (· != '/')).drop 1).reverse

/-- The text that a letter of a format stands for. -/
def letterText (w : Walker) (s : Stop) (c : Char) : Option Raw :=
  let n := s.reached.node
  match c with
  | 'p' => some s.path
  | 'f' => some (lastName s.path)
  | 'h' => some (parent s.path)
  | 'H' => some s.start
  | 'P' => some (String.ofList ((s.path.toList.drop s.start.length).dropWhile (· == '/')))
  | 'd' => some (toString s.depth)
  | 's' => some (toString n.size)
  | 'y' => some (kindLetter n).toString
  | 'Y' => some (match w.scene.reach s.path with
    | .ok r => (kindLetter r.node).toString
    | .error _ => "N")
  | 'm' => some (Tool.octal 1 n.mode)
  | 'M' => some ((Tool.kindLetter n).toString ++ Tool.modeLetters n.mode)
  | 'n' => some (toString (w.scene.files.nameCount s.reached.loc s.reached.number n))
  | 'U' | 'G' => some "0"
  | 'u' | 'g' => some "root"
  | 'l' => some (match n.content with
    | .link t => Raw.ofText t
    | _ => "")
  | 'i' => some (toString (s.reached.number + 100000))
  | 'k' => some (toString (Tool.blocksOf n))
  | 'b' => some (toString (2 * Tool.blocksOf n))
  | 't' | 'a' | 'c' => some (Raw.ofText ((Date.ofMoment n.modified).format "%a %b %e %H:%M:%S.%N0 %Y"))
  | 'D' => some "48"
  | 'F' => some "overlay"
  | _ => none

/-- Fills a format, and tells of signs that mean nothing. -/
def filled (w : Walker) (s : Stop) : Nat → List Char → Raw × List Raw
  | 0, _ => ("", [])
  | _ + 1, [] => ("", [])
  | fuel + 1, '\\' :: cs =>
    let ahead (text : Raw) (rest : List Char) : Raw × List Raw :=
      let (t, bad) := filled w s fuel rest
      (text ++ t, bad)
    match cs with
    | 'c' :: _ => ("", [])
    | c :: rest =>
      match "a\x07b\x08f\x0cn\nr\rt\tv\x0b\\\\".toList.idxOf? c with
      | some i => ahead ((("a\x07b\x08f\x0cn\nr\rt\tv\x0b\\\\".toList)[i + 1]?).getD c).toString rest
      | none =>
        let ds := (cs.take 3).takeWhile isOctal
        if ds.isEmpty then
          let (t, bad) := filled w s fuel rest
          ("\\" ++ c.toString ++ t, ("warning: unrecognized escape \x60\\" ++ c.toString ++ "'") :: bad)
        else
          let n := ds.foldl (fun n d => 8 * n + (d.toNat - 48)) 0
          ahead (Char.ofNat (n % 256)).toString (cs.drop ds.length)
    | [] => ("\\", ["warning: escape \x60\\' followed by nothing at all"])
  | fuel + 1, '%' :: '%' :: cs =>
    let (t, bad) := filled w s fuel cs
    ("%" ++ t, bad)
  | fuel + 1, '%' :: cs =>
    let flags := cs.takeWhile fun c => "-+ #0".toList.contains c
    let rest := cs.drop flags.length
    let width := rest.takeWhile Char.isDigit
    let rest := rest.drop width.length
    let (precision, rest) : Option Nat × List Char := match rest with
      | '.' :: more => (some (Tool.numeral more), more.dropWhile Char.isDigit)
      | _ => (none, rest)
    let d : Directive := { left := flags.contains '-', zeros := flags.contains '0', width := Tool.numeral width }
    match rest with
    | [] => ("%", [])
    | c :: more =>
      let time : Option (Raw × List Char) := if c == 'T' || c == 'A' || c == 'C' then
          match more with
          | '@' :: more =>
            some (toString (Date.secondsOf s.reached.node.modified) ++ ".0000000000", more)
          | k :: more =>
            some (Raw.ofText ((Date.ofMoment s.reached.node.modified).format (String.ofList ['%', k])), more)
          | [] => none
        else none
      let found : Option (Raw × List Char) := time.or ((letterText w s c).map fun t => (t, more))
      match found with
      | some (t, more) =>
        let t := match precision with
          | some n => String.ofList (t.toList.take n)
          | none => t
        let (after, bad) := filled w s fuel more
        (pad d d.zeros "" t ++ after, bad)
      | none =>
        let (t, bad) := filled w s fuel more
        ("%" ++ c.toString ++ t, ("warning: unrecognized format directive \x60%" ++ c.toString ++ "'") :: bad)
  | fuel + 1, c :: cs =>
    let (t, bad) := filled w s fuel cs
    (c.toString ++ t, bad)

/-- All that is shown of a file on one line. -/
def longLine (w : Walker) (s : Stop) : Raw :=
  let n := s.reached.node
  let d (width : Nat) (t : Raw) : Raw := pad { width } false "" t
  d 9 (toString (s.reached.number + 100000)) ++ " " ++ d 6 (toString (Tool.blocksOf n)) ++ " " ++
    (Tool.kindLetter n).toString ++ Tool.modeLetters n.mode ++ " " ++
    d 3 (toString (w.scene.files.nameCount s.reached.loc s.reached.number n)) ++ " root     root     " ++
    d 8 (toString n.size) ++ " " ++ Raw.ofText ((Date.ofMoment n.modified).format "%b %e %H:%M") ++ " " ++ s.path ++
    (match n.content with
      | .link t => " -> " ++ Raw.ofText t
      | _ => "") ++ "\n"

/-! ## Asking -/

/-- Whether a text looks like a pattern. -/
def looks (pattern : Raw) (folds : Bool) (text : Raw) : Bool :=
  Shell.Pattern.accepted { folds } (pattern.toList.map (·, false)) text.toList

def hasKind (letters : List Char) (n : Node) : Bool := letters.contains (kindLetter n)

/-- Whether there is nothing in a file or a directory. -/
def isEmpty (w : Walker) (r : Reached) : Bool :=
  match r.node.content with
  | .directory => (w.scene.files.namesIn r.loc).isEmpty
  | .file bytes => bytes.isEmpty
  | _ => false

/-- Removes a file, or a directory that is empty. -/
def removed (w : Walker) (s : Stop) : Walker × Bool :=
  match w.scene.reachName s.path with
  | .error e => (w.fail ("cannot delete " ++ Tool.quoted s.path ++ ": " ++ reason e), false)
  | .ok r =>
    if r.node.isDirectory && !(w.scene.files.namesIn r.loc).isEmpty then
      (w.fail ("cannot delete " ++ Tool.quoted s.path ++ ": Directory not empty"), false)
    else if s.path == "." then (w, true)
    else ({ w with scene := { w.scene with files := w.scene.files.remove r.loc } }, true)

/-- The words of a command with a path put in. -/
def withPath (path : Raw) (words : List Raw) : List Raw := words.map fun x => x.replace "\x7b\x7d" path

/-- The directory of a file, and how the file is called there. -/
def insidePath (path : Raw) : Raw × Raw :=
  let dir := parent path
  (if dir.isEmpty then "/" else dir, if path == "/" then "/" else "./" ++ lastName path)

/-- Asks a query of a file. -/
def ask (w : Walker) (s : Stop) : Query → Bool × Walker
  | .always b => (b, w)
  | .name p folds => (looks p folds (lastName s.path), w)
  | .path p folds => (looks p folds s.path, w)
  | .target p folds =>
    (match s.reached.node.content with
      | .link t => looks p folds (Raw.ofText t)
      | _ => false, w)
  | .expression r folds =>
    let subject : Subject := { chars := s.path.toList.toArray, fold := folds }
    ((Regex.ends subject r ⟨0, []⟩).any fun p => p.index = subject.chars.size, w)
  | .kind letters behind =>
    let n := if behind then ((w.scene.reach s.path).toOption.map (·.node)).getD s.reached.node else s.reached.node
    (hasKind letters n, w)
  | .empty => (isEmpty w s.reached, w)
  | .size b unit => (b.holds ((s.reached.node.size + unit - 1) / unit), w)
  | .age b unit =>
    let seconds := ((w.scene.files.now - s.reached.node.modified) / 1000000).toNat
    (b.holds (if unit = 60 then (seconds + 59) / 60 else seconds / unit), w)
  | .newer moment => (moment < s.reached.node.modified, w)
  | .links b => (b.holds (w.scene.files.nameCount s.reached.loc s.reached.number s.reached.node), w)
  | .node n => (s.reached.number == n, w)
  | .inode b => (b.holds (s.reached.number + 100000), w)
  | .mode how bits =>
    let m := s.reached.node.mode
    (if how == '=' then m == bits
      else if how == '-' then m &&& bits == bits
      else bits == 0 || m &&& bits != 0, w)
  | .runnable => (s.reached.node.isDirectory || s.reached.node.isExecutable, w)
  | .show ending => (true, w.say (s.path ++ ending))
  | .format form =>
    let (t, bad) := filled w s (form.length + 1) form.toList
    (true, { bad.foldl (fun (w : Walker) b => { w.fail b with status := w.status }) w with
      shown := (false, Raw.toBytes t) :: (bad.map fun b => Tool.complaint ("find: " ++ b)).reverse ++ w.shown })
  | .long => (true, w.say (longLine w s))
  | .run words inside asks =>
    let (dir, name) := insidePath s.path
    let words := withPath (if inside then name else s.path) words
    let (wanted, w) := if !asks then (true, w)
      else
        let line := w.scene.input.bytes.takeWhile (· != 0x0A)
        let w := { w with
          shown := (true, Raw.toBytes ("< " ++ words.head?.getD "" ++ " ... " ++ s.path ++ " > ? ")) :: w.shown
          scene := { w.scene with input := { w.scene.input with bytes := w.scene.input.bytes.drop (line.length + 1) } } }
        (line.head? == some 0x79 || line.head? == some 0x59, w)
    if !wanted then (false, w)
    else
      let before := w.status
      let (w, status) := w.run (if inside then some dir else none) words
      (status == some 0, { w with status := before })
  | .gather key words inside =>
    let (dir, name) := insidePath s.path
    (true, { w with gathered := (key, words, inside, if inside then name else s.path) :: w.gathered } |> fun w =>
      if inside then { w with gathered := match w.gathered with
        | (k, ws, b, n) :: more => (k, "env" :: "-C" :: dir :: ws, b, n) :: more
        | [] => [] } else w)
  | .remove =>
    let (w, done) := removed w s
    (done, w)
  | .passOver => (true, { w with passes := true })
  | .quit => (true, { w with quits := true })
  | .not q =>
    let (b, w) := ask w s q
    (!b, w)
  | .both p q =>
    let (b, w) := ask w s p
    if b && !w.quits then ask w s q else (false, w)
  | .either p q =>
    let (b, w) := ask w s p
    if b || w.quits then (true, w) else ask w s q
  | .also p q =>
    let (_, w) := ask w s p
    if w.quits then (false, w) else ask w s q

/-! ## Walking -/

/-- The path of a file in a directory. -/
def below (dir name : Raw) : Raw := if dir.endsWith "/" then dir ++ name else dir ++ "/" ++ name

mutual

/-- Goes to a path and below it. The first argument bounds how deep and how far the walk goes. -/
def visit (q : Query) : Nat → Walker → Raw → Raw → Nat → Walker
  | 0, w, _, _, _ => w
  | fuel + 1, w, start, path, depth =>
    if w.quits then w
    else
      match w.reach depth path with
      | .error e => w.fail (Tool.quoted path ++ ": " ++ reason e)
      | .ok r =>
        let s : Stop := { path, start, depth, reached := r }
        let asks := w.setting.least ≤ depth
        let isInner := r.node.isDirectory && w.setting.most.all (depth < ·)
        if w.setting.inwards then
          let w := if isInner then visitAll q fuel w start path (depth + 1) (w.scene.files.namesIn r.loc) else w
          if asks && !w.quits then (ask w s q).2 else w
        else
          let w := if asks then (ask { w with passes := false } s q).2 else { w with passes := false }
          if !isInner || w.passes || w.quits then w
          else
            match w.reach depth path with
            | .error e => w.fail (Tool.quoted path ++ ": " ++ reason e)
            | .ok r => visitAll q fuel w start path (depth + 1) (w.scene.files.namesIn r.loc)

def visitAll (q : Query) : Nat → Walker → Raw → Raw → Nat → List String → Walker
  | 0, w, _, _, _, _ => w
  | _ + 1, w, _, _, _, [] => w
  | fuel + 1, w, start, dir, depth, name :: names =>
    let w := visit q fuel w start (below dir (Raw.ofText name)) depth
    visitAll q fuel w start dir depth names

end

/-- Runs the commands that take many files. -/
def settle (w : Walker) : Walker :=
  let all := w.gathered.reverse
  let keys := (all.map fun g => (g.1, g.2.1)).eraseDups
  keys.foldl (fun w (k, words) =>
    let paths := (all.filter fun g => g.1 = k && g.2.1 == words).map fun g => g.2.2.2
    let (w, status) := w.run none (words ++ paths)
    if status == some 0 then w else { w with status := 1 }) w

end Host.Walk

namespace Host.Tool

open Walk

/-- Finds files below some paths, and does something with them. -/
def find (s : Scene) (args : List Raw) : Ran :=
  let isQuery (a : Raw) : Bool := (a.startsWith "-" && a != "-") || a == "(" || a == ")" || a == "!" || a == ","
  let rec leading : Setting → List Raw → Setting × List Raw
    | st, "-P" :: rest => leading { st with follows := false, followsGiven := false } rest
    | st, "-L" :: rest => leading { st with follows := true } rest
    | st, "-H" :: rest => leading { st with follows := false, followsGiven := true } rest
    | st, "-D" :: _ :: rest => leading st rest
    | st, "--" :: rest => (st, rest)
    | st, a :: rest => if a.startsWith "-O" then leading st rest else (st, a :: rest)
    | st, [] => (st, [])
  let (setting, rest) := leading {} args
  let paths := rest.takeWhile fun a => !isQuery a
  let words := rest.drop paths.length
  let node (p : Raw) : Except Raw Reached := (s.reach p).mapError reason
  match Walk.read node setting words with
  | .error e => complain ("find: " ++ e) 1
  | .ok (q, setting) =>
    let w : Walker := { scene := s, setting }
    let fuel := 4 * s.files.entries.length + 4000
    let w := (if paths.isEmpty then ["."] else paths).foldl (fun w p => visit q fuel w p p 0) w
    let w := settle w
    { writes := w.shown.reverse, status := w.status, waitMs := w.waitedMs, files := some w.scene.files }

end Host.Tool

end PolicyGate
