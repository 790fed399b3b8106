import PolicyGate.Host.Tool.Change

/-!
# Tools that copy, move and link

A step goes from a source to a target. What is there already is replaced, kept or asked about, by a
rule of the whole run.
-/

namespace PolicyGate

namespace Host.Tool

/-! ## Copying and moving -/

/-- The targets of something that goes to a path: the sources with where each goes. -/
inductive Aim where
  /-- Each source under its name in a directory. -/
  | into (dir : Raw) (sources : List Raw)
  | onto (source target : Raw)

/-- What a tool with a last operand as its target is to do. -/
def aimOf (s : Scene) (k : Known) (o : Options) : Except Ran Aim :=
  let isDir (p : Raw) : Bool := match s.reach p with
    | .ok r => r.node.isDirectory
    | .error _ => false
  match o.value? 't' with
  | some dir =>
    if o.operands.isEmpty then .error (k.refuse "missing file operand")
    else if !isDir dir then
      .error (complain (k.tool ++ ": target directory " ++ quoted dir ++ ": " ++ (match s.reach dir with
        | .ok _ => reason .notADirectory
        | .error e => reason e)) 1)
    else .ok (.into dir o.operands)
  | none =>
    match o.operands.getLast?, o.operands.dropLast with
    | none, _ => .error (k.refuse "missing file operand")
    | some p, [] => .error (k.refuse ("missing destination file operand after " ++ quoted p))
    | some target, sources =>
      if o.has 'T' then
        match sources with
        | [p] => .ok (.onto p target)
        | _ => .error (k.refuse ("extra operand " ++ quoted ((o.operands[2]?).getD "")))
      else if isDir target then .ok (.into target sources)
      else
        match sources with
        | [p] => .ok (.onto p target)
        | _ =>
          .error (complain (k.tool ++ ": target " ++ quoted target ++ ": " ++ reason
            (match s.reach target with
              | .ok _ => .notADirectory
              | .error e => e)) 1)

/-- The steps of an aim: where from and where to. -/
def Aim.steps : Aim → List (Raw × Raw)
  | .into dir sources => sources.map fun p => (p, below dir (baseName p))
  | .onto source target => [(source, target)]

def transferLong : List (String × Char) :=
  [("recursive", 'r'), ("force", 'f'), ("verbose", 'v'), ("no-clobber", 'n'), ("update", 'U'),
    ("archive", 'a'), ("target-directory", 't'), ("no-target-directory", 'T'), ("link", 'l'),
    ("symbolic-link", 's'), ("dereference", 'L'), ("no-dereference", 'P'), ("preserve", 'p'),
    ("interactive", 'i'), ("backup", 'b'), ("suffix", 'S'), ("parents", 'Q'), ("relative", 'R'),
    ("symbolic", 's')]

def cpKnown : Known :=
  { tool := "cp", plain := "rRafpvniTdPLHlsbxQu", withArgument := "tS", optional := "U"
    long := transferLong }

def mvKnown : Known :=
  { tool := "mv", plain := "fvniTbu", withArgument := "tS", optional := "U", long := transferLong }

/-- What becomes of a step whose target is there already. -/
inductive Standing where
  | replace
  /-- The target is written over only if someone agrees. -/
  | ask
  | skip
  /-- The target stays, and that counts as a failure. -/
  | keep

/-- When a target that is there already is brought up to date. -/
inductive Updating where
  | all
  | none
  | older

/-- The words for when a target is brought up to date. -/
def updateWords : List (Raw × Updating) := [("all", .all), ("none", .none), ("older", .older)]

/-- Reads when targets are brought up to date. A bare option stands for older ones. -/
def updating (k : Known) (o : Options) : Except Ran Updating :=
  o.given.foldl (fun found (letter, word) =>
    match found with
    | .error r => .error r
    | .ok u =>
      if letter == 'u' then .ok .older
      else if letter != 'U' then .ok u
      else if word.isEmpty then .ok .older
      else
        match updateWords.filter fun w => w.1.startsWith word with
        | [w] => .ok w.2
        | _ =>
          .error (complain (k.tool ++ ": invalid argument " ++ quoted word ++
            " for '--update'\nValid arguments are:" ++
            String.join (updateWords.map fun w => "\n  - " ++ quoted w.1) ++ k.hint) 1))
    (.ok .all)

/-- What the options of a tool say on targets that are there already. The last of them counts. -/
def standing (isMove : Bool) (o : Options) (u : Updating) : Standing :=
  match (o.given.filter fun g => g.1 == 'i' || g.1 == 'n' || (isMove && g.1 == 'f')).getLast? with
  | some ('i', _) => .ask
  | some ('n', _) => if isMove then .keep else .skip
  | _ =>
    match u with
    | .none => .skip
    | _ => .replace

/-- A run of steps: what has been done, the answers that are left, and the places that were filled. -/
structure Transfer where
  work : Work
  answers : List Raw
  filled : List (List String) := []

namespace Transfer

def fail (t : Transfer) (r : Raw) : Transfer := { t with work := t.work.fail r }

/-- Whether a step goes on although its target is there already. -/
def goesOn (t : Transfer) (tool : String) (st : Standing) (target : Raw) : Transfer × Bool :=
  match st with
  | .replace => (t, true)
  | .skip => (t, false)
  | .keep => (t.fail (tool ++ ": not replacing " ++ quoted target), false)
  | .ask =>
    let w := t.work.put true (Raw.toBytes (tool ++ ": overwrite " ++ quoted target ++ "? "))
    let agreed := match (t.answers.head?.getD "").toList with
      | c :: _ => c == 'y' || c == 'Y'
      | [] => false
    ({ t with work := if agreed then w else { w with status := 1 }, answers := t.answers.tail }, agreed)

/-- What a run of steps comes to. Who asks has read the answers. -/
def ran (t : Transfer) (st : Standing) : Ran :=
  match st with
  | .ask => { t.work.ran with rest := some .empty }
  | _ => t.work.ran

end Transfer

/-- Puts aside what a step would write over. -/
def backedUp (o : Options) (files : Files) (target : Option Reached) : Files :=
  match target with
  | some t =>
    if o.has 'b' && !t.node.isDirectory then
      match t.loc.getLast? with
      | some name => files.move t.loc (t.loc.dropLast ++ [name ++ Raw.toText ((o.value? 'S').getD "~")])
      | none => files
    else files
  | none => files

/-- Makes a file like another. Devices and channels give what can be read in them. -/
def likeFile (s : Scene) (files : Files) (source : Reached) (loc : List String) (keeps : Bool) : Files :=
  let content := match source.node.content with
    | .program n => Content.program n
    | _ => .file ((s.contentOf source).toOption.map (·.bytes) |>.getD [])
  let files := match files.node? loc with
    | some (m, _) => files.change m fun n => { n with content, modified := files.now }
    | none => files.create loc content (source.node.mode &&& (0o777 ^^^ s.mask))
  match keeps, files.node? loc with
  | true, some (m, _) =>
    files.change m fun n => { n with mode := source.node.mode, modified := source.node.modified }
  | _, _ => files

/-- What a copy takes along, and how it treats what is there. -/
structure CopyRule where
  options : Options
  update : Updating
  standing : Standing

namespace CopyRule

variable (c : CopyRule)

def isDeep : Bool := c.options.has 'r' || c.options.has 'R' || c.options.has 'a'

def keepsMarks : Bool := c.options.has 'p' || c.options.has 'a'

def linksStay : Bool :=
  (c.isDeep || c.options.has 'd' || c.options.has 'P') && !c.options.has 'L'

/-- Whether a target is as new as its source, where only older ones are replaced. -/
def isCurrent (source target : Node) : Bool :=
  match c.update with
  | .older => source.modified ≤ target.modified
  | _ => false

def told (w : Work) (source target : Raw) : Work :=
  if c.options.has 'v' then w.say (quoted source ++ " -> " ++ quoted target) else w

/-- Copies one thing that is no directory to a place. -/
def single (s : Scene) (w : Work) (source : Reached) (loc : List String) : Work :=
  match source.node.content with
  | .link t => { w with files := (w.files.remove loc).create loc (.link t) 0o777 }
  | .channel =>
    if c.isDeep then { w with files := (w.files.remove loc).create loc .channel source.node.mode }
    else { w with files := likeFile s w.files source loc c.keepsMarks }
  | _ => { w with files := likeFile s w.files source loc c.keepsMarks }

/-- Copies a directory with all that is in it, each thing by the rule. The copy itself is left out if it
lies in the directory. -/
def deep (s : Scene) (t : Transfer) (source : Reached) (loc : List String) (p target : Raw) :
    Transfer :=
  let step : Transfer → List String × Nat → Transfer := fun t (q, n) =>
    let rest := q.drop source.loc.length
    let dest := loc ++ rest
    let tail := String.join (rest.map fun n => "/" ++ Raw.ofText n)
    let told (w : Work) : Work := c.told w (p ++ tail) (target ++ tail)
    match t.work.files.nodes.lookup n with
    | none => t
    | some node =>
      if node.isDirectory then
        match t.work.files.node? dest with
        | some _ => t
        | none => { t with work := told { t.work with files := t.work.files.create dest .directory node.mode } }
      else
        let going : Transfer × Bool := match t.work.files.node? dest with
          | none => (t, true)
          | some (_, there) =>
            if c.isCurrent node there then (t, false)
            else t.goesOn "cp" c.standing (target ++ tail)
        if going.2 then
          { going.1 with work := told (c.single s going.1.work ⟨q, n, node⟩ dest) }
        else going.1
  let isMine (q : List String) : Bool := loc.isPrefixOf q && source.loc.isPrefixOf loc
  let inside := (t.work.files.entries.filter fun e => source.loc.isPrefixOf e.1 && !isMine e.1).mergeSort
    fun a b => !(b.1 < a.1)
  inside.foldl step t

/-- Copies one path to another. -/
def copy (s : Scene) (t : Transfer) (step : Raw × Raw) : Transfer :=
  let (p, target) := step
  let files := t.work.files
  let o := c.options
  match if c.linksStay then reachName files s.home (textOf p) else reach files s.home (textOf p) with
  | .error e => t.fail ("cp: cannot stat " ++ quoted p ++ ": " ++ reason e)
  | .ok source =>
    if source.node.isDirectory && !c.isDeep then
      t.fail ("cp: -r not specified; omitting directory " ++ quoted p)
    else
      match seek files s.home (textOf target) true with
      | .error e =>
        t.fail ("cp: cannot create " ++ (if source.node.isDirectory then "directory " else "regular file ") ++
          quoted target ++ ": " ++ reason e)
      | .ok (loc, there) =>
        let isSame := there.any fun r => r.number == source.number
        let dangles := there.isNone && !source.node.isLink &&
          (match reachName files s.home (textOf target) with
            | .ok r => r.node.isLink
            | .error _ => false)
        if isSame && !(o.has 'b' && o.has 'f') then
          match c.standing with
          | .skip => t
          | _ =>
            if o.has 'l' then t
            else t.fail ("cp: " ++ quoted p ++ " and " ++ quoted target ++ " are the same file")
        else if !source.node.isDirectory && there.any fun r => c.isCurrent source.node r.node then t
        else
          let (t, going) := if there.isSome && !source.node.isDirectory then
            t.goesOn "cp" c.standing target else (t, true)
          if !going then t
          else if target.endsWith "/" && there.isNone && !source.node.isDirectory then
            t.fail ("cp: cannot create regular file " ++ quoted target ++ ": Not a directory")
          else if source.node.isDirectory && there.any fun r => !r.node.isDirectory then
            t.fail ("cp: cannot overwrite non-directory " ++ quoted target ++ " with directory " ++ quoted p)
          else if !source.node.isDirectory && t.filled.contains loc then
            t.fail ("cp: will not overwrite just-created " ++ quoted target ++ " with " ++ quoted p)
          else if there.any (·.node.isDirectory) && !source.node.isDirectory then
            t.fail ("cp: cannot overwrite directory " ++ quoted target ++ " with non-directory")
          else if dangles then
            t.fail ("cp: not writing through dangling symlink " ++ quoted target)
          else
            let files := backedUp o t.work.files there
            let t := { t with work := { t.work with files }, filled := loc :: t.filled }
            let told (w : Work) : Transfer := { t with work := c.told w p target }
            if source.node.isDirectory then
              let t := c.deep s t source loc p target
              if source.loc.isPrefixOf loc then
                t.fail ("cp: cannot copy a directory, " ++ quoted p ++ ", into itself, " ++ quoted target)
              else t
            else if o.has 'l' then told { t.work with files := files.addName loc source.number }
            else if o.has 's' then
              told { t.work with files := files.create loc (.link (textOf p)) 0o777 }
            else
              let bytes := (s.contentOf source).toOption.map (·.bytes) |>.getD []
              match there.map fun (r : Reached) => r.node.content with
              | some (Content.device (.descriptor 1)) => told (t.work.put false bytes)
              | some (Content.device (.descriptor 2)) => told (t.work.put true bytes)
              | some (Content.device _) => told t.work
              | _ => told (c.single s t.work source loc)

end CopyRule

/-- What is said before a run in which targets that are there stay as they are. -/
def skipWarning : Raw :=
  "cp: warning: behavior of -n is non-portable and may change in future; use --update=none instead"

def cp (s : Scene) (args : List Raw) : Ran :=
  cpKnown.run args fun o =>
    match updating cpKnown o with
    | .error r => r
    | .ok update =>
      let warn (r : Ran) : Ran :=
        if o.has 'n' then { r with writes := complaint skipWarning :: r.writes } else r
      warn <|
        match aimOf s cpKnown o with
        | .error r => r
        | .ok aim =>
          let steps := match aim, o.has 'Q' with
            | .into dir sources, true => sources.map fun p => (p, below dir p)
            | aim, _ => aim.steps
          let start : Work := { files := s.files }
          let start := if o.has 'Q' then
              (steps.map fun st => dirName st.2).foldl (fun w d => makeAll s {} s.directoryMode w d)
                start
            else start
          let rule : CopyRule := { options := o, update, standing := standing false o update }
          (steps.foldl (rule.copy s) { work := start, answers := plainLines s.input.bytes }).ran
            rule.standing

/-- Moves one path to another. -/
def moveOne (s : Scene) (c : CopyRule) (t : Transfer) (step : Raw × Raw) : Transfer :=
  let (p, target) := step
  let files := t.work.files
  match reachName files s.home (textOf p) with
  | .error e => t.fail ("mv: cannot stat " ++ quoted p ++ ": " ++ reason e)
  | .ok source =>
    match seek files s.home (textOf target) false with
    | .error e =>
      t.fail ("mv: cannot move " ++ quoted p ++ " to " ++ quoted target ++ ": " ++ reason e)
    | .ok (loc, there) =>
      let leads := source.node.isLink && (match reach files s.home (textOf p) with
        | .ok r => there.any fun m => m.number == r.number
        | .error _ => false)
      let isDirectory := source.node.isDirectory
      if leads || there.any fun m => m.number == source.number then
        t.fail ("mv: " ++ quoted p ++ " and " ++ quoted target ++ " are the same file")
      else if !isDirectory && there.any fun m => c.isCurrent source.node m.node then t
      else
        let (t, going) := if there.isSome then t.goesOn "mv" c.standing target else (t, true)
        if !going then t
        else if isDirectory && source.loc.isPrefixOf loc then
          t.fail ("mv: cannot move " ++ quoted p ++ " to a subdirectory of itself, " ++ quoted target)
        else if target.endsWith "/" && there.isNone && !isDirectory then
          t.fail ("mv: cannot move " ++ quoted p ++ " to " ++ quoted target ++ ": Not a directory")
        else if isDirectory && there.any fun m => !m.node.isDirectory then
          t.fail ("mv: cannot overwrite non-directory " ++ quoted target ++ " with directory " ++ quoted p)
        else if !isDirectory && t.filled.contains loc then
          t.fail ("mv: will not overwrite just-created " ++ quoted target ++ " with " ++ quoted p)
        else if there.any (·.node.isDirectory) && !isDirectory then
          t.fail ("mv: cannot overwrite directory " ++ quoted target ++ " with non-directory " ++ quoted p)
        else if isDirectory && there.any fun m => !(files.namesIn m.loc).isEmpty then
          t.fail ("mv: cannot overwrite " ++ quoted target ++ ": Directory not empty")
        else
          let w := { t.work with files := (backedUp c.options t.work.files there).move source.loc loc }
          let w := if c.options.has 'v' then w.say ("renamed " ++ quoted p ++ " -> " ++ quoted target) else w
          { t with work := w, filled := loc :: t.filled }

def mv (s : Scene) (args : List Raw) : Ran :=
  mvKnown.run args fun o =>
    match updating mvKnown o with
    | .error r => r
    | .ok update =>
      match aimOf s mvKnown o with
      | .error r => r
      | .ok aim =>
        let rule : CopyRule := { options := o, update, standing := standing true o update }
        let start : Transfer := { work := { files := s.files }, answers := plainLines s.input.bytes }
        (aim.steps.foldl (moveOne s rule) start).ran rule.standing

/-! ## Links -/

def lnKnown : Known :=
  { tool := "ln", plain := "sfvnTbrLPdFi", withArgument := "tS"
    long := ("no-dereference", 'n') :: transferLong.filter fun l => l.2 != 'r' && l.1 != "no-dereference" &&
      l.2 != 'n' && l.2 != 'R' }

/-- Gives a node another name, or makes a link to a path. -/
def linkOne (s : Scene) (o : Options) (w : Work) (step : Raw × Raw) : Work :=
  let (p, target) := step
  let symbolic := o.has 's'
  let told (w : Work) : Work :=
    if o.has 'v' then w.say (quoted target ++ (if symbolic then " -> " else " => ") ++ quoted p) else w
  let kind : Raw := if symbolic then "symbolic link " else "hard link "
  let refused (e : Raw) : Work :=
    w.fail ("ln: failed to create " ++ kind ++ quoted target ++
      (if symbolic || e == "File exists" then "" else " => " ++ quoted p) ++ ": " ++ e)
  let put (content : Except Raw (Content ⊕ Nat)) : Work :=
    match content with
    | .error e => w.fail e
    | .ok c =>
      match seek w.files s.home (textOf target) false with
      | .error e => refused (reason e)
      | .ok (loc, there) =>
        let add (files : Files) : Files :=
          match c with
          | .inl content => files.create loc content 0o777
          | .inr number => files.addName loc number
        match there with
        | none => if target.endsWith "/" then refused (reason .notFound) else told { w with files := add w.files }
        | some t =>
          if (o.has 'f' || o.has 'b') && !t.node.isDirectory then
            told { w with files := add ((backedUp o w.files there).remove t.loc) }
          else refused "File exists"
  if symbolic then
    let text := if o.has 'r' then
        match s.place (if p.startsWith "/" then p else p), s.place (dirName target) with
        | .ok a, .ok b => Raw.toText (relativePath b a)
        | _, _ => textOf p
      else textOf p
    if p.isEmpty then put (.error ("ln: failed to create symbolic link " ++ quoted target ++
      ": No such file or directory"))
    else put (.ok (.inl (.link text)))
  else
    match reachName w.files s.home (textOf p) with
    | .error e => w.fail ("ln: failed to access " ++ quoted p ++ ": " ++ reason e)
    | .ok r =>
      if r.node.isDirectory then w.fail ("ln: " ++ p ++ ": hard link not allowed for directory")
      else put (.ok (.inr r.number))

def ln (s : Scene) (args : List Raw) : Ran :=
  lnKnown.run args fun o =>
    let go (aim : Aim) : Ran := (aim.steps.foldl (linkOne s o) { files := s.files }).ran
    match o.operands, o.has 't' || o.has 'T' with
    | [p], false => go (.into "." [p]) |> fun r => r
    | [p, target], false =>
      let isLink := match s.reachName target with
        | .ok r => r.node.isLink
        | .error _ => false
      let isDir := match s.reach target with
        | .ok r => r.node.isDirectory && !(o.has 'n' && isLink)
        | .error _ => false
      go (if isDir then .into target [p] else .onto p target)
    | _, _ =>
      match aimOf s lnKnown o with
      | .error r => r
      | .ok aim => go aim

def link (s : Scene) (args : List Raw) : Ran :=
  let k : Known := { tool := "link" }
  k.run args fun o =>
    match o.operands with
    | [a, b] =>
      eachPath s [a] fun w _ =>
        let refused (e : Raw) : Work :=
          w.fail ("link: cannot create link " ++ quoted b ++ " to " ++ quoted a ++ ": " ++ e)
        match reachName w.files s.home (textOf a), seek w.files s.home (textOf b) false with
        | .ok r, .ok (loc, none) => { w with files := w.files.addName loc r.number }
        | .ok _, .ok (_, some _) => refused "File exists"
        | .error e, _ => refused (reason e)
        | _, .error e => refused (reason e)
    | [] => missingOperand k
    | [a] => k.refuse ("missing operand after " ++ quoted a)
    | _ :: _ :: c :: _ => k.refuse ("extra operand " ++ quoted c)

/-! ## Installing -/

def installKnown : Known :=
  { tool := "install", plain := "dDvpcCTs", withArgument := "mgot"
    long := [("mode", 'm'), ("directory", 'd'), ("verbose", 'v'), ("target-directory", 't')] }

def install (s : Scene) (args : List Raw) : Ran :=
  let k := installKnown
  k.run args fun o =>
    match ((o.value? 'm').map (modeFunction? 0)).getD (modeFunction? 0 "755") with
    | none => complain ("install: invalid mode " ++ quoted ((o.value? 'm').getD "")) 1
    | some f =>
      if o.has 'd' then
        if o.operands.isEmpty then k.refuse "missing file operand"
        else eachPath s o.operands fun w p => makeAll s {} (f true 0) w p
      else
        match aimOf s k o with
        | .error r => r
        | .ok aim =>
          (aim.steps.foldl (fun (w : Work) (p, target) =>
            let w := if o.has 'D' then makeAll s {} 0o755 w (dirName target) else w
            match reach w.files s.home (textOf p), place w.files s.home (textOf target) with
            | .ok r, .ok loc =>
              let files := likeFile s w.files r loc false
              let files := match files.node? loc with
                | some (m, _) => files.change m fun n => { n with mode := f false 0 }
                | none => files
              let w := { w with files }
              if o.has 'v' then w.say (quoted p ++ " -> " ++ quoted target) else w
            | .error e, _ => w.fail ("install: cannot stat " ++ quoted p ++ ": " ++ reason e)
            | _, .error e =>
              w.fail ("install: cannot create regular file " ++ quoted target ++ ": " ++ reason e))
            { files := s.files }).ran

end Host.Tool

end PolicyGate
