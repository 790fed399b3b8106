import PolicyGate.Host.Calendar
import PolicyGate.Host.Tool.Mode
import PolicyGate.Host.Tool.Paths
import PolicyGate.Width

/-!
# Tools that change files

They make, name, copy, move and remove what paths lead to, and change what may be done with it. Each
goes on with the next path where one cannot be changed.
-/

namespace PolicyGate

namespace Host.Tool

/-- Changes one path after another. -/
def eachPath (s : Scene) (paths : List Raw) (change : Work → Raw → Work) : Ran :=
  (paths.foldl change { files := s.files }).ran

def textOf (path : Raw) : String := Raw.toText path

/-- A path with a name behind it. -/
def below (dir name : Raw) : Raw := if dir.endsWith "/" then dir ++ name else dir ++ "/" ++ name

/-! ## Directories -/

def mkdirKnown : Known :=
  { tool := "mkdir", plain := "pvZ", withArgument := "m"
    long := [("parents", 'p'), ("mode", 'm'), ("verbose", 'v')] }

/-- Makes one directory. -/
def makeOne (s : Scene) (o : Options) (mode : Nat) (shown : Raw) (w : Work) (path : Raw) : Work :=
  match seek w.files s.home (textOf path) false with
  | .ok (loc, none) =>
    let w := { w with files := w.files.create loc .directory mode }
    if o.has 'v' then w.say ("mkdir: created directory " ++ quoted shown) else w
  | .ok (_, some _) => w.fail ("mkdir: cannot create directory " ++ quoted shown ++ ": File exists")
  | .error e => w.fail ("mkdir: cannot create directory " ++ quoted shown ++ ": " ++ reason e)

/-- The paths on the way to a path, itself last. -/
def leadingPaths (path : Raw) : List Raw :=
  let parts := path.splitOn "/"
  ((List.range parts.length).filterMap fun i =>
    match parts[i]? with
    | some "" | none => none
    | some _ => some ("/".intercalate (parts.take (i + 1))))

/-- Makes a directory and those that it lies in. -/
def makeAll (s : Scene) (o : Options) (mode : Nat) (w : Work) (path : Raw) : Work :=
  let steps := leadingPaths path
  let step : Work × Bool → Raw → Work × Bool := fun (w, going) p =>
    if !going then (w, false)
    else
      let isLast := steps.getLast? == some p
      match reach w.files s.home (textOf p) with
      | .ok r =>
        if r.node.isDirectory then (w, true)
        else
          (w.fail ("mkdir: cannot create directory " ++ quoted p ++ ": " ++
            (if isLast then "File exists" else reason .notADirectory)), false)
      | .error .notFound =>
        let mode := if isLast then mode else s.directoryMode ||| 0o300
        let v := makeOne s o mode p w p
        (v, v.status == w.status)
      | .error e => (w.fail ("mkdir: cannot create directory " ++ quoted p ++ ": " ++ reason e), false)
  if path.isEmpty then w.fail "mkdir: cannot create directory '': No such file or directory"
  else (steps.foldl step (w, true)).1

def mkdir (s : Scene) (args : List Raw) : Ran :=
  let k := mkdirKnown
  k.run args fun o =>
    let mode : Option Nat := match o.value? 'm' with
      | none => some s.directoryMode
      | some m => (modeFunction? s.mask m).map fun f => f true 0o777
    match mode with
    | none => complain ("mkdir: invalid mode " ++ quoted ((o.value? 'm').getD "")) 1
    | some mode =>
      if o.operands.isEmpty then missingOperand k
      else eachPath s o.operands fun w p => if o.has 'p' then makeAll s o mode w p else makeOne s o mode p w p

def rmdirKnown : Known :=
  { tool := "rmdir", plain := "pvI"
    long := [("parents", 'p'), ("verbose", 'v'), ("ignore-fail-on-non-empty", 'I')] }

/-- Removes a directory with nothing in it: whether that went well, and what there is to say. -/
def removeEmpty (s : Scene) (files : Files) (path : Raw) : Except Raw Files :=
  match reachName files s.home (textOf path) with
  | .ok r =>
    if (textOf path).endsWith "." && baseName path == "." then .error "Invalid argument"
    else if !r.node.isDirectory then .error (reason .notADirectory)
    else if (files.namesIn r.loc).isEmpty then .ok (files.remove r.loc)
    else .error "Directory not empty"
  | .error e => .error (reason e)

def rmdir (s : Scene) (args : List Raw) : Ran :=
  let k := rmdirKnown
  k.run args fun o =>
    let one (lead : Raw) (w : Work) (p : Raw) : Work × Bool :=
      let w := if o.has 'v' then w.say ("rmdir: removing directory, " ++ quoted p) else w
      match removeEmpty s w.files p with
      | .ok files => ({ w with files }, true)
      | .error e =>
        if o.has 'I' && e == "Directory not empty" then (w, false)
        else (w.fail ("rmdir: failed to remove " ++ lead ++ quoted p ++ ": " ++ e), false)
    let parents (p : Raw) : List Raw := (leadingPaths (String.ofList
      (p.toList.reverse.dropWhile (· == '/')).reverse)).dropLast.reverse
    if o.operands.isEmpty then missingOperand k
    else
      eachPath s o.operands fun w p =>
        let (w, fine) := one "" w p
        if o.has 'p' && fine then
          ((parents p).foldl (fun (w, fine) q => if fine then one "directory " w q else (w, false))
            (w, true)).1
        else w

/-! ## Removing -/

def rmKnown : Known :=
  { tool := "rm", plain := "rRfivdI", optional := "N"
    long := [("recursive", 'r'), ("force", 'f'), ("verbose", 'v'), ("dir", 'd'), ("interactive", 'N'),
      ("no-preserve-root", 'P'), ("preserve-root", 'N'), ("one-file-system", 'o')] }

/-- What there is at a place and below it, each place behind those below it. -/
def placesBelow (files : Files) (loc : List String) : List (List String) :=
  let all := (files.entries.filter fun e => loc.isPrefixOf e.1).map (·.1)
  let before (a b : List String) : Bool :=
    if b.isPrefixOf a then true else if a.isPrefixOf b then false else !(b < a)
  all.mergeSort before

/-- How a node is named to someone who is asked about it. -/
def nodeName (n : Node) : Raw :=
  match n.content with
  | .directory => "directory"
  | .link _ => "symbolic link"
  | .channel => "fifo"
  | .device _ => "character special file"
  | .file [] => "regular empty file"
  | _ => "regular file"

/-- How a file is removed whose name reads like an option. -/
def dashAdvice (s : Scene) (args : List Raw) : Raw :=
  let isFile (p : Raw) : Bool := p.startsWith "-" && 1 < p.length && (s.reachName p).toOption.isSome
  match args.find? isFile with
  | some p => "\nTry 'rm ./" ++ p ++ "' to remove the file " ++ quoted p ++ "."
  | none => ""

def rm (s : Scene) (args : List Raw) : Ran :=
  let k := rmKnown
  let reader : Known := { k with advice := dashAdvice s args }
  reader.run args fun o =>
    let lastForce := ((o.given.filter fun g => g.1 == 'f' || g.1 == 'i').getLast?.map (·.1))
    let force := o.has 'f'
    let asks := lastForce == some 'i'
    let remove : Work × List Raw → Raw → Work × List Raw := fun (w, answers) p =>
      let refused (e : Raw) : Work × List Raw :=
        (w.fail ("rm: cannot remove " ++ quoted p ++ ": " ++ e), answers)
      match reachName w.files s.home (textOf p) with
      | .error e => if force && (e == .notFound || e == .notADirectory) then (w, answers) else refused (reason e)
      | .ok r =>
        let deep := o.has 'r' || o.has 'R'
        let base := baseName p
        if r.node.isDirectory && !deep &&
            !(o.has 'd' && (w.files.namesIn r.loc).isEmpty) then
          refused (if o.has 'd' then "Directory not empty" else reason .isADirectory)
        else if r.node.isDirectory && (base == "." || base == "..") then
          (w.fail ("rm: refusing to remove '.' or '..' directory: skipping " ++ quoted p), answers)
        else if r.loc.isEmpty then
          ((w.fail "rm: it is dangerous to operate recursively on '/'").fail
            "rm: use --no-preserve-root to override this failsafe", answers)
        else
          let (w, answers, agreed) := if asks then
              let asked := { w with
                shown := (true, Raw.toBytes ("rm: remove " ++ nodeName r.node ++ " " ++ quoted p ++ "? ")) ::
                  w.shown }
              (asked, answers.tail, (answers.head?.getD "").startsWith "y")
            else (w, answers, true)
          if !agreed then (w, answers)
          else
            let named (loc : List String) : Raw :=
              p ++ String.join ((loc.drop r.loc.length).map fun n => "/" ++ Raw.ofText n)
            let gone := placesBelow w.files r.loc
            let w := if o.has 'v' then gone.foldl (fun (w : Work) loc =>
                let isDir := (w.files.node? loc).any fun n => n.2.isDirectory
                w.say ((if isDir then "removed directory " else "removed ") ++ quoted (named loc))) w else w
            ({ w with files := w.files.remove r.loc }, answers)
    if o.operands.isEmpty then (if force then silent 0 else missingOperand k)
    else
      let (w, _) := o.operands.foldl remove ({ files := s.files }, plainLines s.input.bytes)
      if asks then { w.ran with rest := some .empty } else w.ran

def unlink (s : Scene) (args : List Raw) : Ran :=
  let k : Known := { tool := "unlink" }
  k.run args fun o =>
    match o.operands with
    | [] => missingOperand k
    | _ :: extra :: _ => k.refuse ("extra operand " ++ quoted extra)
    | [p] =>
      eachPath s [p] fun w p =>
        match reachName w.files s.home (textOf p) with
        | .ok r =>
          if r.node.isDirectory then w.fail ("unlink: cannot unlink " ++ quoted p ++ ": Is a directory")
          else { w with files := w.files.remove r.loc }
        | .error e => w.fail ("unlink: cannot unlink " ++ quoted p ++ ": " ++ reason e)

/-! ## Times -/

def touchKnown : Known :=
  { tool := "touch", plain := "acmfh", withArgument := "drtT"
    long := [("no-create", 'c'), ("date", 'd'), ("reference", 'r'), ("no-dereference", 'h'), ("time", 'T')] }

/-- A moment in microseconds from the start. -/
def fromStart (at_ : Int × Nat) : Int := (at_.1 - Date.hostStart) * 1000000 + (at_.2 / 1000 : Nat)

/-- A moment written as `[[CC]YY]MMDDhhmm[.ss]`. -/
def stamp? (now : Int) (r : Raw) : Option (Int × Nat) :=
  let parts := r.splitOn "."
  let cs := (parts.head?.getD "").toList
  let sec := (parts[1]?).getD "0"
  let n (a b : Nat) : Nat := numeral ((cs.drop a).take b)
  if !cs.all Char.isDigit || !sec.toList.all Char.isDigit then none
  else
    let year : Option (Int × Nat) := match cs.length with
      | 8 => some ((Date.ofSeconds now 0).year, 0)
      | 10 => some (Date.fullYear (cs.take 2), 2)
      | 12 => some ((n 0 4 : Nat), 4)
      | _ => none
    year.bind fun (y, i) =>
      let d : Date :=
        { year := y, month := n i 2, day := n (i + 2) 2, hour := n (i + 4) 2, minute := n (i + 6) 2,
          second := numeral sec.toList }
      if 1 ≤ d.month && d.month ≤ 12 && 1 ≤ d.day && d.day ≤ Date.daysIn y d.month && d.hour < 24 &&
          d.minute < 60 && d.second ≤ 60 then some (d.seconds, 0) else none

def touch (s : Scene) (args : List Raw) : Ran :=
  let k := touchKnown
  k.run args fun o =>
    let now := Date.secondsOf s.files.now
    let reference : Except Raw (Option Int) :=
      match o.value? 'd', o.value? 't', o.value? 'r' with
      | some d, _, _ =>
        match Date.parse? now d with
        | some m => .ok (some (fromStart m))
        | none => .error ("touch: invalid date format " ++ quoted d)
      | none, some t, _ =>
        match stamp? now t with
        | some m => .ok (some (fromStart m))
        | none => .error ("touch: invalid date format " ++ quoted t)
      | none, none, some p =>
        match s.reach p with
        | .ok r => .ok (some r.node.modified)
        | .error e => .error ("touch: failed to get attributes of " ++ quoted p ++ ": " ++ reason e)
      | none, none, none => .ok none
    match reference with
    | .error e => complain e 1
    | .ok moment =>
      if o.operands.isEmpty then k.refuse "missing file operand"
      else
        let time := moment.getD s.files.now
        let keeps := o.has 'a' && !o.has 'm'
        eachPath s o.operands fun w p =>
          match seek w.files s.home (textOf p) (!o.has 'h') with
          | .ok (_, some r) =>
            if keeps then w
            else { w with files := w.files.change r.number fun n => { n with modified := time } }
          | .ok (loc, none) =>
            if o.has 'c' || o.has 'h' then w
            else
              let files := w.files.create loc (.file []) s.fileMode
              { w with files := files.change (files.next - 1) fun n => { n with modified := time } }
          | .error e =>
            if o.has 'c' && e == .notFound then w
            else w.fail ("touch: cannot touch " ++ quoted p ++ ": " ++ reason e)

/-! ## Channels and names of their own -/

def mkfifo (s : Scene) (args : List Raw) : Ran :=
  let k : Known := { tool := "mkfifo", plain := "Z", withArgument := "m", long := [("mode", 'm')] }
  k.run args fun o =>
    match (o.value? 'm').map (modeFunction? s.mask) with
    | some none => complain "mkfifo: invalid mode" 1
    | f =>
      let mode := match f with
        | some (some g) => g false 0o666
        | _ => s.fileMode
      if o.operands.isEmpty then missingOperand k
      else
        eachPath s o.operands fun w p =>
          match seek w.files s.home (textOf p) false with
          | .ok (loc, none) => { w with files := w.files.create loc .channel mode }
          | .ok (_, some _) => w.fail ("mkfifo: cannot create fifo " ++ quoted p ++ ": File exists")
          | .error e => w.fail ("mkfifo: cannot create fifo " ++ quoted p ++ ": " ++ reason e)

/-- Makes a special file. Devices are made by nobody here. -/
def mknod (s : Scene) (args : List Raw) : Ran :=
  let k : Known := { tool := "mknod", plain := "Z", withArgument := "m", long := [("mode", 'm')] }
  let isNumber (r : Raw) : Bool :=
    isNumeral r && r.length < 10 || (r.startsWith "0x" && 2 < r.length &&
      (r.toList.drop 2).all fun c => c.isDigit || ('a' ≤ c.toLower && c.toLower ≤ 'f'))
  k.run args fun o =>
    match (o.value? 'm').map (modeFunction? s.mask) with
    | some none => complain "mknod: invalid mode" 1
    | f =>
      let mode := match f with
        | some (some g) => g false 0o666
        | _ => s.fileMode
      let put (what : Files → List String → Except Raw Files) (p : Raw) : Ran :=
        eachPath s [p] fun w p =>
          match seek w.files s.home (textOf p) false with
          | .ok (loc, none) =>
            match what w.files loc with
            | .ok files => { w with files }
            | .error e => w.fail ("mknod: " ++ p ++ ": " ++ e)
          | .ok (_, some _) => w.fail ("mknod: " ++ p ++ ": File exists")
          | .error e => w.fail ("mknod: " ++ p ++ ": " ++ reason e)
      match o.operands with
      | [] => missingOperand k
      | [p] => k.refuse ("missing operand after " ++ quoted p)
      | p :: kind :: numbers =>
        match kind.startsWith "p", numbers with
        | true, [] => put (fun files loc => .ok (files.create loc .channel mode)) p
        | true, extra :: rest =>
          k.refuse ("extra operand " ++ quoted extra ++
            (if rest.length = 1 then "\nFifos do not have major and minor device numbers." else ""))
        | false, [] =>
          k.refuse ("missing operand after " ++ quoted kind ++
            "\nSpecial files require major and minor device numbers.")
        | false, [major] => k.refuse ("missing operand after " ++ quoted major)
        | false, [major, minor] =>
          if !(["b", "c", "u"].any fun t => kind.startsWith t) then k.refuse ("invalid device type " ++ quoted kind)
          else if !isNumber major then
            complain ("mknod: invalid major device number " ++ quoted major) 1
          else if !isNumber minor then
            complain ("mknod: invalid minor device number " ++ quoted minor) 1
          else put (fun _ _ => .error "Operation not permitted") p
        | false, _ :: _ :: extra :: _ => k.refuse ("extra operand " ++ quoted extra)

def mktempKnown : Known :=
  { tool := "mktemp", plain := "dqut", withArgument := "S", optional := "P"
    long := [("directory", 'd'), ("dry-run", 'u'), ("quiet", 'q'), ("suffix", 'S'), ("tmpdir", 'P')] }

/-- The letters of names that nobody else has. -/
def freshLetters (seed n : Nat) : List Char :=
  let letters := "abcdefghijklmnopqrstuvwxyzABCDEFGHIJKLMNOPQRSTUVWXYZ0123456789".toList
  ((List.range n).foldl (fun ((done, x) : List Char × Nat) _ =>
    let x := (x * 6364136223846793005 + 1442695040888963407) % Width.of64
    ((letters[x / 8589934592 % 62]?).getD 'a' :: done, x)) ([], seed * 7919 + 12345)).1

def mktemp (s : Scene) (args : List Raw) : Ran :=
  let k := mktempKnown
  let args := args.flatMap fun a =>
    if a == "-p" then ["--tmpdir"] else if a.startsWith "-p" && 2 < a.length then
      ["--tmpdir=" ++ String.ofList (a.toList.drop 2)] else [a]
  let rec joined : List Raw → List Raw
    | "--tmpdir" :: d :: rest => if d.startsWith "-" then "--tmpdir" :: joined (d :: rest)
        else if rest.isEmpty && !args.contains "-p" && d.toList.contains 'X' then "--tmpdir" :: d :: []
        else ("--tmpdir=" ++ d) :: joined rest
    | a :: rest => a :: joined rest
    | [] => []
  k.run (joined args) fun o =>
    match o.operands with
    | _ :: _ :: _ => k.refuse "too many templates"
    | ops =>
      let template := ops.head?.getD "tmp.XXXXXXXXXX"
      let suffix := o.value? 'S'
      let cs := template.toList
      let back := match suffix with
        | some _ => []
        | none => (cs.reverse.takeWhile (· != 'X')).reverse
      let front := cs.take (cs.length - back.length)
      let holes := (front.reverse.takeWhile (· == 'X')).length
      if holes < 3 then complain ("mktemp: too few X's in template " ++ quoted template) 1
      else
        let stem := front.take (front.length - holes)
        let name := String.ofList (stem ++ freshLetters s.files.next holes ++ back) ++ suffix.getD ""
        let inTemp := ops.isEmpty || o.has 'P' || o.has 't'
        let dir := match o.value? 'P' with
          | some "" | none => ((s.environment.lookup "TMPDIR").filter (!·.isEmpty)).getD "/tmp"
          | some d => d
        let path := if inTemp then below dir name else name
        let kind : Raw := if o.has 'd' then "directory" else "file"
        match seek s.files s.home (textOf path) false with
        | .ok (loc, _) =>
          let made := s.files.create loc (if o.has 'd' then .directory else .file [])
            (if o.has 'd' then 0o700 else 0o600)
          { said (path ++ "\n") 0 with files := if o.has 'u' then none else some made }
        | .error e =>
          if o.has 'q' then silent 1
          else
            let shown := if inTemp then below dir template else template
            complain ("mktemp: failed to create " ++ kind ++ " via template " ++ quoted shown ++ ": " ++
              reason e) 1

/-! ## Modes and owners -/

def chmodKnown : Known :=
  { tool := "chmod", plain := "Rvcf", withArgument := "F"
    long := [("recursive", 'R'), ("verbose", 'v'), ("changes", 'c'), ("silent", 'f'), ("quiet", 'f'),
      ("reference", 'F')] }

/-- The words with a mode such as `-x` told from an option. -/
def modeWords : List Raw → List Raw
  | [] => []
  | "--" :: rest => "--" :: rest
  | a :: rest =>
    match a.toList with
    | '-' :: c :: _ => if "rwxXstugo".toList.contains c then "--" :: a :: rest else a :: modeWords rest
    | _ => a :: modeWords rest

def modeShown (mode : Nat) : Raw := octal 4 mode ++ " (" ++ modeLetters mode ++ ")"

def chmod (s : Scene) (args : List Raw) : Ran :=
  let k := chmodKnown
  k.run (modeWords args) fun o =>
    let change (f : Bool → Nat → Nat) (paths : List Raw) : Ran :=
      let one (w : Work) (shown : Raw) (number : Nat) (node : Node) : Work :=
        let new := f node.isDirectory node.mode
        let w' := { w with files := w.files.change number fun n => { n with mode := new } }
        if new == node.mode then
          if o.has 'v' then w'.say ("mode of " ++ quoted shown ++ " retained as " ++ modeShown new) else w'
        else if o.has 'v' || o.has 'c' then
          w'.say ("mode of " ++ quoted shown ++ " changed from " ++ modeShown node.mode ++ " to " ++
            modeShown new)
        else w'
      eachPath s paths fun w p =>
        match reach w.files s.home (textOf p) with
        | .error e =>
          if o.has 'f' then { w with status := 1 }
          else
            let dangling := match reachName w.files s.home (textOf p) with
              | .ok _ => true
              | .error _ => false
            if dangling then w.fail ("chmod: cannot operate on dangling symlink " ++ quoted p)
            else w.fail ("chmod: cannot access " ++ quoted p ++ ": " ++ reason e)
        | .ok r =>
          if o.has 'R' then
            let all := (w.files.entries.filter fun e => r.loc.isPrefixOf e.1).mergeSort
              fun a b => !(b.1 < a.1)
            all.foldl (fun w (loc, n) =>
              match w.files.nodes.lookup n with
              | some node =>
                if node.isLink then w
                else one w (p ++ String.join ((loc.drop r.loc.length).map fun n => "/" ++ Raw.ofText n)) n node
              | none => w) w
          else one w p r.number r.node
    match o.value? 'F' with
    | some p =>
      match s.reach p with
      | .ok r => change (fun _ _ => r.node.mode) o.operands
      | .error e => complain ("chmod: failed to get attributes of " ++ quoted p ++ ": " ++ reason e) 1
    | none =>
      match o.operands with
      | [] => missingOperand k
      | [m] => k.refuse ("missing operand after " ++ quoted m)
      | m :: paths =>
        match modeFunction? s.mask m with
        | none => k.refuse ("invalid mode: " ++ quoted m)
        | some f => change f paths

/-- Gives files to an owner. There is only one. -/
def own (s : Scene) (tool what : String) (args : List Raw) : Ran :=
  let k : Known :=
    { tool, plain := "RvcfhHLP", withArgument := "F", long := [("recursive", 'R'), ("reference", 'F')] }
  k.run args fun o =>
    match o.operands with
    | [] => missingOperand k
    | [m] => if o.has 'F' then silent 0 else k.refuse ("missing operand after " ++ quoted m)
    | m :: paths =>
      let known (n : Raw) : Bool := n.isEmpty || n == "root" || isNumeral n
      match (m.splitOn ":").find? fun n => !known n with
      | some _ => complain (tool ++ ": invalid " ++ what ++ ": " ++ quoted m) 1
      | none =>
        eachPath s paths fun w p =>
          match reach w.files s.home (textOf p) with
          | .ok _ => w
          | .error e => w.fail (tool ++ ": cannot access " ++ quoted p ++ ": " ++ reason e)

/-! ## Sizes -/

def truncateKnown : Known :=
  { tool := "truncate", plain := "co", withArgument := "sr"
    long := [("no-create", 'c'), ("size", 's'), ("reference", 'r'), ("io-blocks", 'o')] }

/-- The size that a file of some size gets. -/
def sizeFor? (spec : Raw) (base : Option Nat) : Option (Nat → Nat) :=
  let cs := spec.toList.dropWhile (· == ' ')
  let sign := cs.head?.filter fun c => "+-<>/%".toList.contains c
  let digits := if sign.isSome then cs.tail else cs
  (count? (String.ofList digits)).bind fun n =>
    let of (old : Nat) : Nat := base.getD old
    match sign with
    | some '+' => some fun old => of old + n
    | some '-' => some fun old => of old - n
    | some '<' => some fun old => min (of old) n
    | some '>' => some fun old => max (of old) n
    | some '/' => if n = 0 then none else some fun old => of old / n * n
    | some '%' => if n = 0 then none else some fun old => (of old + n - 1) / n * n
    | _ => some fun _ => n

def truncate (s : Scene) (args : List Raw) : Ran :=
  let k := truncateKnown
  k.run args fun o =>
    let base := (o.value? 'r').bind fun p => ((s.reach p).toOption).map fun r => r.node.size
    let f : Except Ran (Nat → Nat) := match o.value? 's', base with
      | none, none => .error (k.refuse "you must specify either '--size' or '--reference'")
      | none, some n => .ok fun _ => n
      | some spec, base =>
        match sizeFor? spec base with
        | some f => .ok f
        | none => .error (complain ("truncate: Invalid number: " ++ quoted spec) 1)
    match f with
    | .error r => r
    | .ok f =>
      if o.operands.isEmpty then k.refuse "missing file operand"
      else
        eachPath s o.operands fun w p =>
          let resized (bytes : List UInt8) : List UInt8 :=
            let n := f bytes.length
            bytes.take n ++ List.replicate (n - bytes.length) 0
          match seek w.files s.home (textOf p) true with
          | .ok (_, some r) =>
            match r.node.content with
            | .directory =>
              w.fail ("truncate: cannot open " ++ quoted p ++ " for writing: Is a directory")
            | .device _ | .channel =>
              w.fail ("truncate: failed to truncate " ++ quoted p ++ " at " ++ toString (f 0) ++
                " bytes: Invalid argument")
            | _ => { w with files := w.files.fill r.number (resized r.node.bytes) }
          | .ok (loc, none) =>
            if o.has 'c' then w else { w with files := w.files.create loc (.file (resized [])) s.fileMode }
          | .error e => w.fail ("truncate: cannot open " ++ quoted p ++ " for writing: " ++ reason e)

end Host.Tool

end PolicyGate
