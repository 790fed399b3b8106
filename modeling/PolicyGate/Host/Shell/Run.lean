import PolicyGate.Host.Shell.Braces
import PolicyGate.Host.Shell.RichControl
import PolicyGate.Host.Shell.RichName
import PolicyGate.Host.Shell.RichStart
import PolicyGate.Host.Shell.Starting

/-!
# Running scripts

Words are expanded, commands are found and run, and control goes where the script says. The first
argument bounds how deep the run may go, and loops are bounded too; a script beyond the bounds
counts as one that hangs, or that writes the same for ever.
-/

namespace PolicyGate

namespace Host.Shell

/-! ## Texts that are run -/

/-- How a text is run as a script. -/
structure Manner where
  /-- Whether the names that stand for other texts stay the same in all lines. -/
  settled : Bool := false
  /-- What complaints about its notation call it. -/
  called : Raw := ""
  /-- How many lines there are before it. -/
  before : Nat := 0
  /-- Whether a fault in it ends the script. -/
  ends : Bool := true

/-- Complains about a text that cannot be read. -/
def Manner.refuse (m : Manner) (source : Raw) (w : Misread) (s : State) : State :=
  if s.rich then
    let place := s.riches.speaker.getD s.zero ++ ": " ++ m.called ++ "line "
    let lines := ({ w with line := w.line - m.before } : Misread).lines source
    let t := lines.foldl (fun t (n, r) =>
      t.complainPlain (place ++ toString (n + m.before) ++ ": " ++ r)) (s.withStatus 2)
    let t := if w.fault == .openRow then t.withStatus 1 else t
    if m.ends then t.stop (.exit t.status) else t
  else { s with line := w.line }.abort (m.called ++ w.fault.message)

/-- The names that stand for other texts here. -/
def usedAliases (s : State) : List (Raw × Raw) :=
  if s.rich && !s.hasSetting "expand_aliases" then [] else s.aliases

/-- The path of a script that is to be read, which is looked for like a program. -/
def sourcePath? (s : State) (name : Raw) : Option Raw :=
  if name.toList.contains '/' then some name
  else
    let inPath := (searchPath s).map fun dir => if dir.isEmpty then name else Tool.inside dir name
    (inPath ++ (if s.rich then [name] else [])).find? fun p => (s.node? p).any Node.isFile

/-- The variables that a program is given, the last first. -/
def passedOn (s : State) (path : Raw) : List (Raw × Variable) :=
  if s.rich then
    let last : Raw × Variable := ("_", { value := some path, exported := true })
    last :: (Items.listedTable (s.vars.filter (·.1 != "_"))).reverse
  else (State.listed s.vars).reverse

/-- The program that a name leads to, which may have been looked up before. -/
def knownProgram? (s : State) (name : Raw) : Except Missing Program :=
  match if s.rich then s.tracked.lookup name else none with
  | some path =>
    match programAt s path with
    | .ok p => .ok p
    | .error _ => program? s name
  | none => program? s name

/-- Complains about a command that cannot be run, given what comes before its name. -/
def unfound (s : State) (lead name : Raw) (why : Missing) : State :=
  if s.rich then s.notStarted lead name why else notRun s lead name why

/-! ## The run -/

mutual

/-- Expands one part of a word. -/
def expandPart : Nat → State → Part → List Piece × State
  | 0, s, _ => ([], s.stop .hangs)
  | fuel + 1, s, part =>
    match part with
    | .text t q => ([.text t (if q then .quoted else .literal)], s)
    | .command source q =>
      let (text, s) := substitute fuel s source
      ([.text text (if q then .quoted else .expanded)], s)
    | .arithmetic source q =>
      let (ps, s) := expandSource fuel s true source
      if !s.running then ([], s)
      else
        let text := Piece.joined ps
        let made (n : Int) : List Piece := [.text (toString n) (if q then .quoted else .expanded)]
        if s.rich then
          match s.workOut "" text with
          | .ok (n, t) => (made n, t)
          | .error t => ([], if t.running then t.stop .dropped else t)
        else
          match Sum.value s.value? text with
          | .ok (n, given) =>
            (made n, given.reverse.foldl (fun s g => s.setVariable g.1 (toString g.2)) s)
          | .error e => ([], s.abort (e.message text))
    | .param name fallback q =>
      if s.rich then expandRich fuel s name fallback q else expandParam fuel s name fallback q
    | .place source => ([.text ("[" ++ source ++ "]") .literal], s)
    | .row source => ([.text ("(" ++ source ++ ")") .literal], s)
    | .process source reads =>
      let (path, t) := attach fuel s source reads
      ([.text path .quoted], t)

/-- Opens a channel to a script or from one, and tells its path. -/
def attach : Nat → State → Raw → Bool → Raw × State
  | 0, s, _, _ => ("", s.stop .hangs)
  | fuel + 1, s, source, reads =>
    let d := ((List.range 54).map (63 - ·)).find? fun d => (s.handle? d).isNone
    let d := d.getD 63
    let path := "/dev/fd/" ++ toString d
    if reads then
      let (t, n) := s.addInput { feed := {} }
      let channel := 1000000 + n
      (path, (t.setHandle d (.output (.channel channel))).attaching ⟨d, some (source, channel, t.clock)⟩)
    else
      let (feed, inner) := s.apart.capture fun t =>
        conclude fuel (runSource fuel t { settled := true, before := s.line - 1 } source)
      let job : Job :=
        { pid := inner.pid, parent := s.pid, ends := inner.finished, status := inner.exitStatus
          holds := [] }
      let (t, n) := (s.sharing inner).addInput { feed }
      let t := { t with jobs := job :: t.jobs, lastJob := some job.pid }
      (path, ((t.after State.resumeTime).setHandle d (.input n)).attaching ⟨d, none⟩)

/-- Closes the channels that have been opened since there were so many, and lets the scripts read that
read from them. -/
def detach : Nat → Nat → State → State
  | 0, _, s => s.stop .hangs
  | fuel + 1, count, s =>
    match s.riches.attached with
    | [] => s
    | a :: rest =>
      if rest.length + 1 ≤ count then s
      else
        let t := { s.closeHandle a.descriptor with riches := { s.riches with attached := rest } }
        match a.reader with
        | none => detach fuel count t
        | some (source, channel, start) =>
          let (u, n) := (t.emptied channel).addInput { feed := t.channelFeed channel }
          let part := { u with clock := start, halt := none, emitted := [] }.apart.setHandle 0 (.input n)
          let inner := conclude fuel (runSource fuel part { settled := true } source)
          let job : Job :=
            { pid := part.pid, parent := s.pid, ends := inner.finished, status := inner.exitStatus
              holds := part.held }
          let v := u.sharing { inner with emitted := inner.emitted ++ u.emitted }
          detach fuel count { v with jobs := job :: v.jobs, lastJob := some job.pid }

/-- Runs a script and takes what it writes, without the newlines at its end. -/
def substitute : Nat → State → Raw → Raw × State
  | 0, s, _ => ("", s.stop .hangs)
  | fuel + 1, s, source =>
    let body (t : State) : State :=
      if !s.rich then runSource fuel t { settled := true } source
      else
        match ((lex true false source).1.map (·.token) : List Token) with
        | [.redirect none "<", .word w, .newline, .finish] =>
          match redirectAll fuel t [⟨none, "<", w⟩] with
          | .error u => u
          | .ok u => u.passInput
        | _ =>
          runSource fuel t.substituting
            { settled := true, called := "command substitution: ", before := s.line - 1 } source
    let (feed, inner) := s.apart.capture fun t => conclude fuel (body t)
    let status := inner.exitStatus
    let s := { s.sharing inner with substituted := some status, status := if s.rich then status else s.status }
    let bytes := (feed.toStream.bytes).filter (· != 0)
    let text := String.ofList (dropFinalNewlines (Raw.ofBytes bytes).toList)
    (text, if feed.isEndless then s.stop .hangs else (s.await feed.ends).collect)

/-- Expands a parameter in the plain notation. -/
def expandParam : Nat → State → Raw → Fallback → Bool → List Piece × State
  | 0, s, _, _, _ => ([], s.stop .hangs)
  | fuel + 1, s, name, fallback, q =>
    let value := s.parameter? name
    let origin : Origin := if q then .quoted else .expanded
    let set (onEmpty : Bool) : Bool := value.any fun v => !(onEmpty && v.isEmpty)
    let isMany := name == "@" || (name == "*" && !q)
    let given : List Piece :=
      if isMany then allArguments origin s.positional else [.text (value.getD "") origin]
    let missing := value.isNone && s.options.contains 'u' && name != "@" && name != "*"
    match fallback with
    | .none => if missing then ([], s.abort (name ++ ": parameter not set")) else (given, s)
    | .length =>
      if missing then ([], s.abort (name ++ ": parameter not set"))
      else ([.text (toString (value.getD "").length) origin], s)
    | .use onEmpty t => if set onEmpty then (given, s) else expandSource fuel s q t
    | .instead onEmpty t =>
      if set onEmpty then expandSource fuel s q t
      else (if q then [.text "" .quoted] else [], s)
    | .assign onEmpty t =>
      if set onEmpty then (given, s)
      else
        let (ps, s) := expandSource fuel s q t
        ([.text (Piece.joined ps) origin], s.setVariable name (Piece.joined ps))
    | .demand onEmpty t =>
      if set onEmpty then (given, s)
      else
        let (ps, s) := expandSource fuel s q t
        let text := if t.isEmpty then
            (if onEmpty then "parameter not set or null" else "parameter not set")
          else Piece.joined ps
        ([], s.abort (name ++ ": " ++ text))
    | .cut back longest pattern =>
      if missing then ([], s.abort (name ++ ": parameter not set"))
      else
        let (ps, s) := expandSource fuel s false pattern
        ([.text (Pattern.cut {} back longest (Piece.marked ps) (value.getD "")) origin], s)
    | _ => ([], s.abort "Bad substitution")

/-- The key of a place in a variable, if it can be told. -/
def placeKey : Nat → State → Raw → Raw → Option Raw × State
  | 0, s, _, _ => (none, s.stop .hangs)
  | fuel + 1, s, name, place =>
    let (ps, s) := expandSource fuel s false place
    if !s.running then (none, s)
    else
      let text := Piece.joined ps
      if place.isEmpty then (none, s.complain (name ++ "[]: bad array subscript") 1)
      else if (s.items? name).any Items.isTable then (some text, s)
      else
        match s.workOut "" text with
        | .error t => (none, if !t.running then t else if t.isPlainText then t.stop (.exit 1) else t.stop .dropped)
        | .ok (n, t) =>
          let n := if n < 0 then n + (((t.items? name).map Items.bound).getD 0 : Nat) else n
          if n < 0 then (none, t.complain (name ++ ": bad array subscript") 1) else (some (toString n), t)

/-- Looks a parameter up. -/
def lookUp : Nat → State → Raw → Option Reference × State
  | 0, s, _ => (none, s.stop .hangs)
  | fuel + 1, s, name =>
    if name.startsWith "!" && 1 < name.length then indirect fuel s (name.drop 1).toString
    else
      match State.splitPlace name with
      | (_, none) => (some (s.plainReference name), s.advanced name)
      | (base, some "@") => (some (s.listReference base false), s)
      | (base, some "*") => (some (s.listReference base true), s)
      | (base, some place) =>
        match placeKey fuel s base place with
        | (some key, t) => (some (t.elementReference name base key), t)
        | (none, t) => (if t.running then some { label := name, values := [""], isSet := false } else none, t)

/-- Looks up what the value of a parameter names, or what names and keys there are. -/
def indirect : Nat → State → Raw → Option Reference × State
  | 0, s, _ => (none, s.stop .hangs)
  | fuel + 1, s, name =>
    let start := (name.dropEnd 1).toString
    if (name.endsWith "*" || name.endsWith "@") && isName start then
      (some (s.nameReference start (name.endsWith "*")), s)
    else
      match State.splitPlace name with
      | (base, some "@") => (some (s.keyReference base false), s)
      | (base, some "*") => (some (s.keyReference base true), s)
      | _ =>
        match (s.stored? name).filter (·.refers) with
        | some v =>
          (some { label := name, values := [v.value.getD ""], isSet := v.value.isSome, name }, s)
        | none =>
          match lookUp fuel s name with
          | (none, t) => (none, t)
          | (some r, t) =>
            let target := r.value
            if !r.isSet then (none, t.abort (name ++ ": invalid indirect expansion"))
            else if State.isParameter target then lookUp fuel t target
            else (none, t.abort (target ++ ": invalid variable name"))

/-- Expands a parameter in the rich notation. -/
def expandRich : Nat → State → Raw → Fallback → Bool → List Piece × State
  | 0, s, _, _, _ => ([], s.stop .hangs)
  | fuel + 1, s, name, fallback, q =>
    if fallback == .bad then ([], s.abort ("$\x7b" ++ name ++ "\x7d: bad substitution"))
    else
      match lookUp fuel s name with
      | (none, s) => ([], s)
      | (some r, s) =>
        let give (s : State) (values : List Raw) : List Piece × State := (r.pieces s.joint q values, s)
        let numbered : Raw := if r.label.toList.all Char.isDigit then "$" ++ r.label else r.label
        let isMissing := !r.isSet && !r.isList && s.options.contains 'u'
        let missing : List Piece × State := ([], s.lacking (numbered ++ ": unbound variable"))
        /- Changes each value by a pattern. -/
        let each (pattern : Raw) (f : Pattern.Marked → State → Raw → Raw) : List Piece × State :=
          let (ps, t) := expandSource fuel s false pattern
          if t.running then give t (r.values.map (f (Piece.marked ps) t)) else ([], t)
        match fallback with
        | .use onEmpty t => if r.holds onEmpty then give s r.values else expandSource fuel s q t
        | .instead onEmpty t =>
          if r.holds onEmpty then expandSource fuel s q t else (if q then [.text "" .quoted] else [], s)
        | .assign onEmpty t =>
          if r.holds onEmpty then give s r.values
          else if r.name.isEmpty || !isName r.name then
            ([], s.abort ("$" ++ r.label ++ ": cannot assign in this way"))
          else
            let (ps, s) := expandSource fuel s q t
            if !s.running then ([], s)
            else
              match s.give? r.name r.place false (Piece.joined ps) with
              | .ok t => ([.text (Piece.joined ps) (if q then .quoted else .expanded)], t)
              | .error e => ([], s.abort e)
        | .demand onEmpty t =>
          if r.holds onEmpty then give s r.values
          else
            let (ps, s) := expandSource fuel s q t
            let text := if t.isEmpty then
                (if onEmpty then "parameter null or not set" else "parameter not set")
              else Piece.joined ps
            ([], s.lacking (r.label ++ ": " ++ text))
        | .none => if isMissing then missing else give s r.values
        | .length =>
          if isMissing then missing
          else
            let n := if r.isList then r.values.length else r.value.length
            ([.text (toString n) (if q then .quoted else .expanded)], s)
        | .cut back longest pattern =>
          if isMissing then missing
          else each pattern fun p s => Pattern.cut s.style back longest p
        | .turn sign all pattern =>
          if isMissing then missing else each pattern fun p s => RichValue.turn s.style sign all p
        | .change which pattern put =>
          if isMissing then missing
          else
            let (ps, t) := expandSource fuel s false put
            if !t.running then ([], t)
            else each pattern fun p s => RichValue.change s.style which p (t.putOf ps)
        | .shape letter =>
          if isMissing then missing
          else
            match s.shaped? r letter with
            | some values => give s values
            | none => give s [""]
        | .slice offset size =>
          if isMissing then missing
          else
            match workInside fuel s offset with
            | (none, s) => ([], s)
            | (some start, s) =>
              match size with
              | none => give s ((s.sliced? r start none).getD [])
              | some text =>
                match workInside fuel s text with
                | (none, s) => ([], s)
                | (some n, s) =>
                  match s.sliced? r start (some n) with
                  | some values => give s values
                  | none => ([], s.abort (text ++ ": substring expression < 0"))
        | .bad => ([], s)

/-- Works out a sum inside an expansion. -/
def workInside : Nat → State → Raw → Option Int × State
  | 0, s, _ => (none, s.stop .hangs)
  | fuel + 1, s, source =>
    let (ps, s) := expandSource fuel s true source
    if !s.running then (none, s)
    else
      match s.workOut "" (Piece.joined ps) with
      | .ok (n, t) => (some n, t)
      | .error t => (none, if t.running then t.stop .dropped else t)

/-- Expands a text inside an expansion. -/
def expandSource : Nat → State → Bool → Raw → List Piece × State
  | 0, s, _, _ => ([], s.stop .hangs)
  | fuel + 1, s, quoted, source =>
    match wordOf s.rich quoted (source.length + 1) [] source.toList with
    | .ok w =>
      let w := if quoted then w else withHome s w
      let (ps, s) := expandWord fuel s w
      (if quoted && ps.isEmpty then [.text "" .quoted] else ps.map fun p =>
        match p with
        | .text r .literal => .text r (if quoted then .quoted else .expanded)
        | p => p, s)
    | .error e => ([], s.abort e.message)

def expandWord : Nat → State → Word → List Piece × State
  | 0, s, _ => ([], s.stop .hangs)
  | _ + 1, s, [] => ([], s)
  | fuel + 1, s, p :: ps =>
    let (a, s) := expandPart fuel s p
    if !s.running then ([], s)
    else
      let (b, s) := expandWord fuel s ps
      (a ++ b, s)

/-- Expands a word into one text. -/
def expandText : Nat → State → Word → Raw × State
  | 0, s, _ => ("", s.stop .hangs)
  | fuel + 1, s, w =>
    let isStar (p : Part) : Bool := p == .param "*" .none false
    let joined := if s.rich then withJoined w
      else w.map fun p => if isStar p then .param "*" .none true else p
    let (ps, s) := expandWord fuel s (withHome s joined)
    (Piece.joined ps, s)

/-- Expands words into fields. -/
def expandWords : Nat → State → List Word → List Raw × State
  | 0, s, _ => ([], s.stop .hangs)
  | fuel + 1, s, ws =>
    expandFields fuel s (if s.rich && s.options.contains 'B' then ws.flatMap Braces.words else ws)

/-- Expands words without braces. All arguments in quotes make no field if there are none. -/
def expandFields : Nat → State → List Word → List Raw × State
  | 0, s, _ => ([], s.stop .hangs)
  | _ + 1, s, [] => ([], s)
  | fuel + 1, s, w :: ws =>
    let (ps, s) := expandWord fuel s (withHome s w)
    if !s.running then ([], s)
    else
      let vanishes := if s.rich then Piece.areNothing ps else isAllArguments w && s.positional.isEmpty
      let here := if vanishes then []
        else (Fields.ofPieces s.separators ps).flatMap
          (resolved s.search s.files s.home (!s.options.contains 'f'))
      let (rest, s) := expandFields fuel s ws
      (here ++ rest, s)

/-- Applies redirections in order. -/
def redirectAll : Nat → State → List Redirect → Except State State
  | 0, s, _ => .error (s.stop .hangs)
  | _ + 1, s, [] => .ok s
  | fuel + 1, s, r :: rs =>
    let isPath := s.rich && r.operator != "<<" && r.operator != "<<<"
    let (targets, s) := if isPath then expandWords fuel s [r.target]
      else
        let (text, s) := expandText fuel s r.target
        ([text], s)
    if !s.running then .error s
    else
      match targets with
      | [target] =>
        match s.redirect r target with
        | .ok s => redirectAll fuel s rs
        | .error e => .error (s.complain e (if s.rich then 1 else 2))
      | _ => .error (s.complain ((delimiterOf r.target).1 ++ ": ambiguous redirect") 1)

/-- Runs something under redirections, which do not stay. -/
def under : Nat → State → List Redirect → (State → State) → State
  | 0, s, _, _ => s.stop .hangs
  | fuel + 1, s, rs, body =>
    if rs.isEmpty then body s
    else
      let count := s.nextInput
      let back (t : State) : State := { t with handles := s.handles }.dropInputs count
      match redirectAll fuel s rs with
      | .error t => back t
      | .ok t => back (body t)

/-- Reads the values between the brackets of a row. -/
def readEntries : Nat → State → List Word → List State.Entry × State
  | 0, s, _ => ([], s.stop .hangs)
  | _ + 1, s, [] => ([], s)
  | fuel + 1, s, w :: ws =>
    let (here, s) : List State.Entry × State :=
      match placedValue? w with
      | some (place, adds, value) =>
        let (key, s) := expandText fuel s place
        let (text, s) := expandText fuel s value
        ([{ place := some key, adds, value := text }], s)
      | none =>
        let (fields, s) := expandWords fuel s [w]
        (fields.map fun value => { value }, s)
    if !s.running then ([], s)
    else
      let (rest, s) := readEntries fuel s ws
      (here ++ rest, s)

/-- Gives a variable its value: the state, or the one behind a complaint. -/
def assign : Nat → State → Assignment → Except State State
  | 0, s, _ => .error (s.stop .hangs)
  | fuel + 1, s, a =>
    match a.value with
    | [.row source] =>
      let s := s.traceAssignment a ("(" ++ source ++ ")")
      match a.place with
      | some p => .error (s.complain (a.name ++ "[" ++ p ++ "]: cannot assign list to array member") 1)
      | none =>
        let (entries, t) := readEntries fuel s (wordsIn source)
        if !t.running then .error t
        else
          match t.fill a.name a.adds entries with
          | .ok u => .ok u
          | .error e => .error (t.complain e 1)
    | w =>
      let (text, s) := expandText fuel s w
      if !s.running then .error s
      else if !s.rich then
        let t := s.setVariable a.name text
        if t.running then .ok t else .error t
      else
        let s := s.traceAssignment a (Quote.asNeeded text)
        let given (s : State) (key : Option Raw) : Except State State :=
          match s.give? a.name key a.adds text with
          | .ok t => .ok t
          | .error e => .error (s.complain e 1)
        match a.place with
        | none => given s none
        | some p =>
          match placeKey fuel s a.name p with
          | (some key, t) => given t (some key)
          | (none, t) => .error (t.withStatus 1)

/-- Gives variables their values, which are those of a command if `passes` is set. -/
def assignAll : Nat → State → Bool → List Assignment → State
  | 0, s, _, _ => s.stop .hangs
  | _ + 1, s, _, [] => s
  | fuel + 1, s, passes, a :: rest =>
    match assign fuel s a with
    | .error t => if !t.running then t else if passes then assignAll fuel t passes rest else t.stop .dropped
    | .ok t =>
      let t := match t.stored? a.name with
        | some v => if passes then t.putVariable a.name { v with exported := true } else t
        | none => t
      assignAll fuel t passes rest

/-- Expands the words of a declaration: those in front of the first that assigns, and the others. -/
def expandDeclared : Nat → State → List Word → List State.Declared × State
  | 0, s, _ => ([], s.stop .hangs)
  | _ + 1, s, [] => ([], s)
  | fuel + 1, s, w :: ws =>
    let (here, s) : List State.Declared × State :=
      match assignment? true w with
      | none =>
        let (fields, s) := expandWords fuel s [w]
        (fields.map State.Declared.ofWord, s)
      | some a =>
        let (place, s) : Option Raw × State := match a.place with
          | some p =>
            let (ps, s) := expandSource fuel s false p
            (some (Piece.joined ps), s)
          | none => (none, s)
        let (given, s) : State.Given × State := match a.value with
          | [.row source] =>
            let (entries, s) := readEntries fuel s (wordsIn source)
            (.row entries, s)
          | w =>
            let (text, s) := expandText fuel s w
            (.text text, s)
        ([{ shown := a.name, name := a.name, place, adds := a.adds, given }], s)
    if !s.running then ([], s)
    else
      let (rest, s) := expandDeclared fuel s ws
      (here ++ rest, s)

/-- Runs a script line by line in this state, from some tokens on. Each line is read when the ones
before it have been run, for they may have named texts. -/
def runLines : Nat → State → Grammar → (Misread → State → State) → List Lexeme → State
  | 0, s, _, _, _ => s.stop .hangs
  | fuel + 1, s, g, refuse, ts =>
    let g := if g.settled then g else { g with aliases := usedAliases s }
    match Script.next? g ts with
    | none => s
    | some (.error m) => refuse m s
    | some (.ok (c, rest)) =>
      let t := exec fuel s c
      if t.running then runLines fuel t g refuse rest
      else if t.halt == some .dropped && t.depth = 0 then
        runLines fuel { t with halt := none } g refuse rest
      else t

/-- Runs a script in this state. -/
def runSource : Nat → State → Manner → Raw → State
  | 0, s, _, _ => s.stop .hangs
  | fuel + 1, s, m, source =>
    let (tokens, texts) := lex s.rich (s.hasSetting "extglob") source
    let tokens := if m.before = 0 then tokens
      else tokens.map fun l => { l with line := l.line + m.before }
    let isNothing := tokens.all fun l => l.token == .newline || l.token == .finish
    if isNothing then s.withStatus 0
    else
      runLines fuel s { rich := s.rich, texts, aliases := usedAliases s, settled := m.settled }
        (m.refuse source) tokens

/-- Runs what is to be run at the end of a part, and on signals that have come before. -/
def conclude : Nat → State → State
  | 0, s => s.stop .hangs
  | fuel + 1, s =>
    match s.halt, s.traps.lookup 0 with
    | some (.killed _), _ | some .hangs, _ | some (.repeats ..), _ | _, none => s
    | _, some action =>
      let status := s.exitStatus
      let t := runSource fuel
        { s with halt := none, traps := s.traps.filter (·.1 != 0), status, tested := true }
        { called := if s.rich then "exit trap: " else "", ends := !s.rich } action
      match t.halt with
      | none | some .returned | some (.broke _) | some (.continued _) => t.stop (.exit status)
      | _ => t

/-- Lets the signals come that have been sent to this script until now. -/
def receiveAll : Nat → State → State
  | 0, s => s.stop .hangs
  | fuel + 1, s =>
    let due (g : Moment × Nat × Nat) : Bool := g.2.1 = s.self && g.1 ≤ s.clock
    if s.pid != s.self || !s.signals.any due then s
    else
      match s.signals.find? due with
      | none => s
      | some g =>
        let rest := s.signals.eraseP due
        match { s with signals := rest }.receive g.2.2 with
        | (t, none) => if t.running then receiveAll fuel t else t
        | (t, some action) =>
          let u := runSource fuel t { called := if s.rich then "trap: " else "" } action
          if u.running then receiveAll fuel (u.withStatus s.status) else u

/-- Runs a script by what a signal of its own name asks for, and goes on. -/
def runTrap : Nat → State → Nat → State
  | 0, s, _ => s.stop .hangs
  | fuel + 1, s, signal =>
    match s.traps.lookup signal with
    | none => s
    | some action =>
      let others := s.traps.filter (·.1 != signal)
      let t := runSource fuel { s with traps := others, tested := true }.deeper { called := "trap: " } action
      if !t.running then t
      else
        { t with
          status := s.status, tested := s.tested, line := s.line, riches := { t.riches with nested := s.riches.nested }
          traps := if (t.traps.lookup signal).isSome then t.traps else (signal, action) :: t.traps }

/-- Runs the shell of the rich notation as a program. -/
def runRichShell : Nat → State → Raw → List Raw → State
  | 0, s, _, _ => s.stop .hangs
  | fuel + 1, s, name, args =>
    match RichCall.read (args.length + 1) {} args with
    | .error f => (s.complainPlain (f.lines name)).stop (.exit 2)
    | .ok call =>
      let shell := ((program? s name).toOption.map (·.path)).getD name
      if call.has 'c' then
        match call.words with
        | [] => (s.complainPlain (name ++ ": -c: option requires an argument")).stop (.exit 2)
        | text :: more =>
          let t := s.richFresh name shell "environment" call
          let t := t.putVariable "BASH_EXECUTION_STRING" { value := some text }
          conclude fuel (runSource fuel { t with zero := more.head?.getD name, positional := more.tail }
            { called := "-c: " } text)
      else if call.has 's' || call.words.isEmpty then
        match s.input? 0 with
        | some (n, i) =>
          let bytes := i.feed.toStream.bytes
          let t := (s.richFresh name shell "main" call).setRichLetter 's' true
          let t := ({ t with positional := call.words }.await i.feed.ends).setFeed n (i.feed.drop bytes.length)
          if t.running then conclude fuel (runSource fuel t {} (Raw.ofBytes bytes)) else t
        | none => s.stop (.exit 0)
      else
        let path := call.words.head?.getD ""
        match s.reach path with
        | .error f =>
          (s.complainPlain (name ++ ": " ++ path ++ ": " ++ reason f)).stop (.exit 127)
        | .ok r =>
          if r.node.isDirectory then
            (s.complainPlain (path ++ ": " ++ path ++ ": Is a directory")).stop (.exit 126)
          else
            let t := s.richFresh name shell path call
            conclude fuel (runSource fuel { t with zero := path, positional := call.words.tail } {}
              (Raw.ofBytes r.node.bytes))

/-- Runs the shell of the plain notation as a program. -/
def runShell : Nat → State → Raw → List Raw → State
  | 0, s, _, _ => s.stop .hangs
  | fuel + 1, s, name, args =>
    let isOption (a : Raw) : Bool := (a.startsWith "-" || a.startsWith "+") && 1 < a.length && a != "--"
    let options := (args.takeWhile isOption).filter fun a => !a.startsWith "--"
    let rest := args.dropWhile isOption
    let rest := if rest.head? == some "--" then rest.tail else rest
    let letters := (options.filter (·.startsWith "-")).flatMap fun a => a.toList.drop 1
    let fresh : State := (letters.filter fun c => c != 'c' && c != 's').foldl
      (fun t c => t.setOption c true)
      { s with
        zero := name, positional := rest, functions := [], own := [], options := [], depth := 0
        vars := State.inherited s.vars (Tool.pathOf s.home)
        traps := s.traps.filter (·.2.isEmpty), selves := s.pid :: s.selves, tested := false
        inFunction := false, loops := 0, calls := 0, lastJob := none, status := 0, rich := false
        riches := {} }
    if letters.contains 'c' then
      match rest with
      | source :: more =>
        let zero := more.head?.getD name
        conclude fuel (runSource fuel { fresh with zero, positional := more.tail } {} source)
      | [] => fresh.complainPlain (name ++ ": 0: -c requires an argument") |>.stop (.exit 2)
    else
      let fromInput := letters.contains 's' || rest.isEmpty
      if fromInput then
        match s.input? 0 with
        | some (n, i) =>
          let t := (fresh.await i.feed.ends).setFeed n (i.feed.drop (i.feed.toStream.bytes.length))
          if t.running then conclude fuel (runSource fuel t {} (Raw.ofBytes i.feed.toStream.bytes)) else t
        | none => fresh.stop (.exit 0)
      else
        match rest with
        | path :: more =>
          match (s.node? path).filter Node.isFile with
          | some n =>
            conclude fuel (runSource fuel { fresh with zero := path, positional := more } {}
              (Raw.ofBytes n.bytes))
          | none =>
            fresh.complainPlain (name ++ ": 0: cannot open " ++ path ++ ": No such file")
              |>.stop (.exit 2)
        | [] => fresh

/-- Runs a program, given what comes before its name in the shell's complaints, the name it is called
by, and what it is. One that is killed halts so. -/
def runTool : Nat → State → Raw → Raw → Program → List Raw → State
  | 0, s, _, _, _, _ => s.stop .hangs
  | fuel + 1, s, lead, name, program, args =>
    match runnerOf program.node with
    | .interpreter path argument =>
      match programAt s path with
      | .ok p => runTool fuel s lead path p (argument.toList ++ program.path :: args)
      | .error why => unfound s lead name why
    | .host tool =>
      let s := s.after State.programTime
      let own : State := { s with pid := s.nextPid, nextPid := s.nextPid + 1 }
      if tool == "dash" then rejoin s (runShell fuel own name args)
      else if tool == "bash" then rejoin s (runRichShell fuel own name args)
      else if tool == "env" then
        match Launch.surroundings s.value? args with
        | .error r => s.perform none (calledBy "env" name r)
        | .ok e => runEnv (fun t => runTool fuel t lead) s e
      else if tool == "printenv" then
        let zeros := args.head? == some "-0" || args.head? == some "--null"
        let names := if zeros then args.tail else args
        let ending := if zeros then "\x00" else "\n"
        match names.find? fun a => a.startsWith "-" with
        | some a =>
          (s.complainPlain ("printenv: invalid option -- '" ++ ((a.drop 1).take 1).toString ++
            "'\nTry 'printenv --help' for more information.")).withStatus 2
        | none =>
          if names.isEmpty then (s.say (exportedText s ending)).withStatus 0
          else
            let values := names.map fun a => (s.stored? a).bind (·.passed?)
            (s.say (String.join (values.filterMap fun v => v.map (· ++ ending)))).withStatus
              (if values.all (·.isSome) then 0 else 1)
      else if tool == "which" then
        let options := args.takeWhile (·.startsWith "-")
        let names := args.drop options.length
        match (options.flatMap fun a => a.toList.drop 1).find? fun c => c != 'a' && c != 's' with
        | some c =>
          (s.complainPlain ("Illegal option -" ++ c.toString ++ "\nUsage: " ++ program.path ++
            " [-as] args")).withStatus 2
        | none =>
          let found := names.map fun a => (program? s a).toOption.map (·.path)
          let quiet := options.any fun a => a.toList.contains 's'
          let s := if quiet then s
            else s.say (String.join (found.filterMap fun v => v.map (· ++ "\n")))
          s.withStatus (if found.all (·.isSome) && !names.isEmpty then 0 else 1)
      else if tool == "test" || tool == "[" then s.test (tool == "[") args
      else if tool == "kill" then s.kill args
      else if tool == "timeout" then
        match Launch.limit args with
        | .error r => s.perform none (calledBy "timeout" name r)
        | .ok l => runLimited (fun t => launch fuel t lead "timeout" l.command) s l
      else if tool == "xargs" then
        match Launch.batch args with
        | .error r => s.perform none (calledBy "xargs" name r)
        | .ok b => runBatches (fun t => runTool fuel t lead) s b
      else if ["nohup", "nice", "setsid", "stdbuf"].contains tool then
        match Launch.plainCommand tool args with
        | .error r => s.perform none (calledBy tool name r)
        | .ok command => launch fuel s lead tool command
      else
        match Tool.named? tool with
        | none => unfound s lead name .absent
        | some body =>
          let channels := channelsIn s tool args
          match channels.find? fun n => !s.isFed n with
          | some n => s.stop (.waits n)
          | none =>
            let scene := { s.scene with launch := runFor fuel s }
            let ready := channels.foldl (fun t n => t.await (t.channelFeed n).ends) s
            let t := ready.perform (some name) (calledBy tool name (body scene args))
            cutAt s (channels.foldl State.emptied t)

/-- Starts a command for a program whose own work is done. -/
def launch : Nat → State → Raw → Raw → List Raw → State
  | 0, s, _, _, _ => s.stop .hangs
  | _ + 1, s, _, _, [] => s.withStatus 0
  | fuel + 1, s, lead, by_, name :: args =>
    match program? s name with
    | .ok p => runTool fuel s lead name p args
    | .error why => (s.complainPlain (Launch.failure by_ name why.reason)).withStatus why.status

/-- Runs a command for a tool, and takes what it writes. -/
def runFor : Nat → State → Files → Stream → List Raw → Except Raw Ran
  | 0, _, _, _, _ => .ok { hangs := true }
  | _ + 1, _, _, _, [] => .ok {}
  | fuel + 1, s, files, input, name :: args =>
    let (s, n) := { s with files, emitted := [], level := s.level + 2 }.addInput
      { feed := .ofStream input }
    let (out, err) := (Sink.collect (s.level - 2), Sink.collect (s.level - 1))
    let s := ((s.setHandle 0 (.input n)).setHandle 1 (.output out)).setHandle 2 (.output err)
    match program? s name with
    | .error why => .error why.reason
    | .ok p =>
      let t := settle (runTool fuel s "" name p args)
      let mine := (State.inOrder t.emitted.reverse).filter fun e => e.sink == out || e.sink == err
      let cycle := match t.halt with
        | some (.repeats _ pattern) => pattern
        | _ => []
      .ok
        { writes := mine.map fun e => (e.sink == err, e.bytes), status := t.exitStatus
          waitMs := (t.clock - s.clock) / 1000, files := some t.files, endless := cycle
          rest := (t.inputs.lookup n).map fun i => i.feed.toStream
          hangs := t.halt == some .hangs }

/-- Runs a command by the name of its program, given what comes before the name in a complaint. -/
def runProgram : Nat → State → Raw → Raw → List Raw → State
  | 0, s, _, _, _ => s.stop .hangs
  | fuel + 1, s, lead, name, args =>
    match knownProgram? s name with
    | .ok p =>
      let t := track s name p
      { runTool fuel { t with vars := passedOn t p.path } lead name p args with vars := s.vars }
    | .error why =>
      match if s.rich && why == .absent then s.functions.lookup "command_not_found_handle" else none with
      | some body => call fuel s "command_not_found_handle" body (name :: args)
      | none => unfound s lead name why

/-- Calls a function. -/
def call : Nat → State → Raw → Script → List Raw → State
  | 0, s, _, _, _ => s.stop .hangs
  | fuel + 1, s, name, body, args =>
    if 1000 ≤ s.calls && !s.rich then s.abort "Maximum function recursion depth (1000) reached"
    else if 4000 ≤ s.calls then s.stop (.killed 11)
    else
      let speaker := (s.riches.sources.lookup name).getD s.riches.source
      let frames := ⟨name, s.line, speaker⟩ :: s.riches.frames
      let t := exec fuel
        { s with
          positional := args, own := [], inFunction := true, loops := 0, calls := s.calls + 1
          riches := { s.riches with frames, speaker := some speaker }
          traps := if s.options.contains 'T' then s.traps else s.traps.filter (·.1 != 67) }
        body
      let t := if t.halt == some .returned then { t with halt := none } else t
      let t := if t.running && !t.traps.isEmpty then runTrap fuel t 67 else t
      let vars := t.own.foldl (fun vars (n, v) =>
        let others := vars.filter fun (w : Raw × Variable) => w.1 != n
        match v with
        | some v => (n, v) :: others
        | none => others) t.vars
      let t := { t with
        positional := s.positional, own := s.own, vars, inFunction := s.inFunction, loops := s.loops
        calls := s.calls
        riches := { t.riches with frames := s.riches.frames, speaker := s.riches.speaker } }
      match s.traps.lookup 67 with
      | some action => { t with traps := (67, action) :: t.traps.filter (·.1 != 67) }
      | none => t

/-- Runs a command that is no function, or tells what it is. -/
def runBare : Nat → State → List Raw → State
  | 0, s, _ => s.stop .hangs
  | _ + 1, s, [] => s.withStatus 0
  | fuel + 1, s, a :: rest =>
    if a == "--" || a == "-p" then
      match rest with
      | n :: more => runNamed fuel s true n more
      | [] => s.withStatus 0
    else if a == "-v" || a == "-V" then
      match rest with
      | [] => s.withStatus 0
      | n :: _ =>
        let found := isKnown s n
        let (text, s) := described s (a == "-v") n
        (s.say (text.getD "")).withStatus (if found then 0 else 127)
    else if a.startsWith "-" && 1 < a.length then
      s.complain ("command: Illegal option " ++ (a.take 2).toString) 2
    else runNamed fuel s true a rest

/-- Runs a command by its name. -/
def runNamed : Nat → State → Bool → Raw → List Raw → State
  | 0, s, _, _, _ => s.stop .hangs
  | fuel + 1, s, plain, name, args =>
    match if plain || State.isSpecial name then none else s.functions.lookup name with
    | some body => call fuel s name body args
    | none =>
      match State.builtins.lookup name with
      | some (_, action) => action (s.withStatus s.status) args
      | none =>
        if name == "exec" then
          match if args.head? == some "--" then args.tail else args with
          | [] => s.withStatus 0
          | n :: rest =>
            let t := runProgram fuel { s with traps := s.traps.filter (·.2.isEmpty) } "exec: " n rest
            if t.running then t.stop (.exit t.status) else t
        else if name == "eval" then
          let t := runSource fuel s { called := "eval: " } (" ".intercalate args)
          if t.running then { t with line := s.line } else t
        else if name == "." then
          match if args.head? == some "--" then args.tail else args with
          | [] => s.withStatus 0
          | path :: _ =>
            match sourcePath? s path with
            | some p =>
              match (s.node? p).filter fun n => !n.isDirectory with
              | some n =>
                let t := runSource fuel s {} (Raw.ofBytes n.bytes)
                if t.halt == some .returned then { t with halt := none } else t
              | none => s.abort (".: cannot open " ++ p ++ ": No such file")
            | none => s.abort (".: " ++ path ++ ": not found")
        else if name == "command" then runBare fuel s args
        else if name == "type" then
          args.foldl (fun s a =>
            let found := isKnown s a
            let (text, s) := described s false a
            let t := s.say (text.getD "")
            if found then t else t.withStatus 127) (s.withStatus 0)
        else if name == "hash" then hash s args
        else settle (runProgram fuel s "" name args)

/-- Runs a command of the rich notation by its name. -/
def runRich : Nat → State → Bool → Raw → List Raw → State
  | 0, s, _, _, _ => s.stop .hangs
  | fuel + 1, s, plain, name, args =>
    match if plain then none else s.functions.lookup name with
    | some body => call fuel s name body args
    | none =>
      if s.isRichBuiltin name then runOwn fuel s name args else settle (runProgram fuel s "" name args)

/-- Runs a command that rich scripts run themselves. -/
def runOwn : Nat → State → Raw → List Raw → State
  | 0, s, _, _ => s.stop .hangs
  | fuel + 1, s, name, args =>
    match State.richBuiltins.lookup name with
    | some action => action s args
    | none =>
      if State.declarers.contains name then s.richDeclare name (args.map State.Declared.ofWord)
      else if name == "exec" then
        s.withOptions "exec" "cl" "a" false args fun g =>
          match g.words with
          | [] => s.withStatus 0
          | n :: rest =>
            match program? s n with
            | .ok p =>
              let vars := if g.has 'c' then [] else passedOn s p.path
              let t := { s with vars, traps := s.traps.filter (·.2.isEmpty) }
              let u := runTool fuel t "exec: " ((g.value? 'a').getD n) p rest
              if u.running then u.stop (.exit u.status) else u
            | .error why =>
              let t := s.notStarted "exec: " n why
              if s.hasSetting "execfail" then t else t.stop (.exit t.status)
      else if name == "eval" then
        s.withOptions "eval" "" "" false args fun g =>
          let t := runSource fuel s.deeper { called := "eval: ", before := s.line - 1, ends := false }
            (" ".intercalate g.words)
          let t := { t with riches := { t.riches with nested := s.riches.nested } }
          if t.running then { t with line := s.line } else t
      else if name == "." || name == "source" then runFile fuel s name args
      else if name == "command" then
        s.withOptions "command" "pVv" "" false args fun g =>
          match g.words with
          | [] => s.withStatus 0
          | n :: rest =>
            if g.has 'v' || g.has 'V' then s.tellNames (g.has 'V') g.words else runRich fuel s true n rest
      else if name == "builtin" then
        s.withOptions "builtin" "" "" false args fun g =>
          match g.words with
          | [] => s.withStatus 0
          | n :: rest =>
            if State.richNames.contains n then runOwn fuel s n rest
            else s.refuse "builtin" (n ++ ": not a shell builtin") 1
      else if name == "type" then s.richType args
      else s.richHash args

/-- Runs the script in a file as a part of this one. -/
def runFile : Nat → State → Raw → List Raw → State
  | 0, s, _, _ => s.stop .hangs
  | fuel + 1, s, command, args =>
    s.withOptions command "" "" false args fun g =>
      match g.words with
      | [] => (s.refuse command "filename argument required" 2).showUsage command
      | name :: rest =>
        match sourcePath? s name with
        | none =>
          if (s.node? name).any Node.isDirectory then s.refuse command (name ++ ": is a directory") 1
          else s.complain (name ++ ": No such file or directory") 1
        | some path =>
          match s.node? path with
          | none => s.complain (name ++ ": No such file or directory") 1
          | some n =>
            if n.isDirectory then s.refuse command (name ++ ": is a directory") 1
            else
              let positional := if rest.isEmpty then s.positional else rest
              let start := { s with
                positional, riches := { s.riches with speaker := some path, sourcing := true } }.deeper
              let t := runSource fuel start { ends := false } (Raw.ofBytes n.bytes)
              let t := { t with
                line := s.line, positional := if rest.isEmpty then t.positional else s.positional
                riches := { t.riches with
                  speaker := s.riches.speaker, sourcing := s.riches.sourcing, nested := s.riches.nested } }
              if t.halt == some .returned then { t with halt := none } else t

/-- Runs a command with its assignments under its redirections. -/
def runCommand : Nat → State → List Assignment → List Redirect → Raw → List Raw → State
  | 0, s, _, _, _, _ => s.stop .hangs
  | fuel + 1, s, assigned, redirects, name, args =>
    let special := State.isSpecial name
    if name == "exec" && args.isEmpty then
      match redirectAll fuel (assignAll fuel s false assigned) redirects with
      | .ok u => u.withStatus 0
      | .error u => u.stop (.exit 2)
    else
      let count := s.nextInput
      match if redirects.isEmpty then .ok s else redirectAll fuel s redirects with
      | .error t =>
        let t := { t with handles := s.handles }.dropInputs count
        if special && t.running then t.stop (.exit 2) else t
      | .ok t =>
        let before := t.vars
        let t := assignAll fuel t (!special) assigned
        if !t.running then t
        else
          let u := runNamed fuel t false name args
          let u := if redirects.isEmpty then u else { u with handles := s.handles }.dropInputs count
          if special then u else u.withVariables before (assigned.map (·.name))

/-- Runs a command of the rich notation with its assignments under its redirections. -/
def runRichCommand : Nat → State → List Assignment → List Redirect → Raw → List Raw → State
  | 0, s, _, _, _, _ => s.stop .hangs
  | fuel + 1, s, assigned, redirects, name, args =>
    let t := if assigned.isEmpty then s else assignAll fuel s true assigned
    if !t.running then t
    else
      let t := t.traceWords (name :: args)
      let isOwnExec := name == "exec" && args.isEmpty && (s.functions.lookup name).isNone
      let u := if isOwnExec then
          match redirectAll fuel t redirects with
          | .ok u => u.withStatus 0
          | .error u => u
        else under fuel t redirects fun u => runRich fuel u false name args
      u.withVariables s.vars (assigned.map (·.name))

/-- Runs a simple command of the rich notation. -/
def execSimple : Nat → State → List Word → List Redirect → State
  | 0, s, _, _ => s.stop .hangs
  | fuel + 1, s, words, redirects =>
    let s := runTrap fuel s 65
    let count := s.riches.attached.length
    let (assigned, rest) := splitAssignments true words
    let declarer := match rest with
      | [.text n false] :: _ =>
        if State.declarers.contains n && s.isRichBuiltin n && (s.functions.lookup n).isNone then some n
        else none
      | _ => none
    let closing (t : State) : State :=
      (if t.riches.attached.length = count then t else detach fuel count t).withStatuses []
    match declarer with
    | some n =>
      let (ds, t) := expandDeclared fuel s rest.tail
      if !t.running then t
      else
        let t := if assigned.isEmpty then t else assignAll fuel t true assigned
        let t := t.traceWords (n :: ds.map (·.told))
        closing (under fuel t redirects fun u => u.richDeclare n ds)
    | none =>
      let (fields, t) := expandWords fuel s rest
      if !t.running then t
      else
        match fields with
        | [] =>
          let u := under fuel (t.withStatus 0) redirects id
          if !u.running || (!redirects.isEmpty && u.status != 0) then closing u
          else
            let u := assignAll fuel u false assigned
            closing (if u.running then u.withStatus (u.substituted.getD 0) else u)
        | name :: args =>
          let u := runRichCommand fuel t assigned redirects name args
          closing { u with riches := { u.riches with lastWord := (name :: args).getLast?.getD "" } }

/-- Tells what is run, if the script is asked to. -/
def traced : Nat → State → List Assignment → List Raw → State
  | 0, s, _, _ => s.stop .hangs
  | fuel + 1, s, assigned, fields =>
    if !s.options.contains 'x' then s
    else
      let values := assigned.map fun a => a.name ++ "=" ++ (expandText fuel s a.value).1
      let lead := (s.value? "PS4").getD ""
      s.complainPlain (lead ++ " ".intercalate (values ++ fields))

/-- Runs the parts in the background that have waited for something that is there now. -/
def wake : Nat → State → State
  | 0, s => s.stop .hangs
  | fuel + 1, s =>
    match s.waiting.find? fun w => s.isFed w.channel with
    | none => s
    | some w =>
      let rest := s.waiting.filter fun v => v.process.pid != w.process.pid
      let clock := max w.process.clock s.clock
      let process : Process := { w.process with clock }
      let system : System := { s.toSystem with waiting := rest }
      let start := State.mk process system
      let inner := conclude fuel (exec fuel start w.body)
      let t := s.sharing inner
      wake fuel
        { t with
          jobs := t.jobs.map fun j =>
            if j.pid = start.pid then { j with ends := inner.finished, status := inner.exitStatus }
            else j }

/-- Ends the script if a command has failed whose status nobody looks at. -/
def checked : Nat → State → State
  | 0, s => s.stop .hangs
  | fuel + 1, s =>
    let s := if s.waiting.isEmpty || !s.running then s else wake fuel s
    let s := if s.signals.isEmpty || !s.running then s else receiveAll fuel s
    let isFault := s.running && !s.tested && s.status != 0
    let s := if isFault && s.rich && (!s.inFunction || s.options.contains 'E') then runTrap fuel s 66 else s
    if s.running && s.options.contains 'e' && !s.tested && s.status != 0 then s.stop (.exit s.status)
    else s

/-- Runs a part whose status is looked at. -/
def examine : Nat → State → Script → State
  | 0, s, _ => s.stop .hangs
  | fuel + 1, s, a =>
    let t := exec fuel { s with tested := true } a
    { t with tested := s.tested }

/-- Runs a part on its own. -/
def execApart : Nat → State → Script → State
  | 0, s, _ => s.stop .hangs
  | fuel + 1, s, body =>
    settle (rejoin s (conclude fuel (exec fuel s.apart body)))

/-- Starts a part in the background. What it can write to depends on its own redirections. -/
def execBackground : Nat → State → Script → State
  | 0, s, _ => s.stop .hangs
  | fuel + 1, s, body =>
    let start := s.apart.setHandle 0 (.output .nowhere)
    let start := { start with tested := false, emitted := [] }
    let redirects := match body with
      | .redirected _ _ rs => rs
      | .simple _ words rs =>
        match (splitAssignments s.rich words).2 with
        | [.text t _] :: _ =>
          let isOwn := if s.rich then s.isRichBuiltin t else State.isBuiltin t
          if isOwn || (s.functions.lookup t).isSome then [] else rs
        | _ => rs
      | _ => []
    let holds := match redirectAll fuel start redirects with
      | .ok t => t.held
      | .error t => t.held
    let inner := inPlaceOf body (conclude fuel (exec fuel start body))
    let isKilled := match inner.halt with
      | some (.killed _) => true
      | _ => false
    let job : Job :=
      { pid := start.pid, parent := s.pid, ends := inner.finished, status := inner.exitStatus, holds, isKilled }
    match inner.halt with
    | some (.waits n) =>
      let t := { s with
        nextPid := start.nextPid, jobs := job :: s.jobs, lastJob := some job.pid, status := 0
        waiting := s.waiting ++ [Waiting.mk n start.toProcess body] }
      t.after State.resumeTime
    | _ =>
    let t := s.sharing { inner with emitted := inner.emitted ++ s.emitted }
    let t := { t with jobs := job :: t.jobs, lastJob := some job.pid, status := 0 }
    let t := t.after State.resumeTime
    match inner.halt with
    | some (.repeats (.pipe p) pattern) =>
      if t.clock < inner.clock then t else t.stop (.repeats (.pipe p) pattern)
    | _ => t

/-- Runs the parts of a pipe but the last, each fed by the one before: the stages, the latest first,
what the last of them gives, and the state. -/
def execStages : Nat → State → Moment → Option Feed → List Script → List Stage →
    List Stage × Option Feed × State
  | 0, s, _, feed, _, done => (done, feed, s.stop .hangs)
  | _ + 1, s, _, feed, [], done => (done, feed, s)
  | fuel + 1, s, start, feed, part :: rest, done =>
    let t := fed s feed
    let t := { t with clock := start }.apart
    let pid := t.pid
    let (given, inner) := t.capture fun u => conclude fuel (exec fuel u part)
    let floods := given.isEndless
    let stage : Stage :=
      { pid, ends := inner.finished, feed := given, floods, status := inner.exitStatus }
    execStages fuel (s.sharing inner) (start + State.resumeTime) (some given) rest (stage :: done)

/-- Runs the parts of a pipe. It is over when all parts are. -/
def execPipe : Nat → State → List Script → State
  | 0, s, _ => s.stop .hangs
  | fuel + 1, s, parts =>
    match parts.getLast? with
    | none => s
    | some last =>
      let (stages, feed, t) := execStages fuel s s.clock none parts.dropLast []
      let count := s.nextInput
      let u := { fed t feed with clock := s.clock + State.resumeTime * stages.length }
      let isOwn := s.rich && s.hasSetting "lastpipe"
      let inner := if isOwn then exec fuel u last else conclude fuel (exec fuel u.apart last)
      let cuts := cutOffs inner.finished stages
      let isLost (e : Emit) : Bool := cuts.any fun (g, _, cut) =>
        e.owner = g.pid && cut.any (· < e.time)
      let ends := cuts.foldl (fun e (_, f, _) => later e f) inner.finished
      let v := (if isOwn then { inner with handles := s.handles } else s.sharing inner).dropInputs count
      let v := { v with emitted := v.emitted.filter fun e => !isLost e }
      let statuses := (cuts.map fun (g, _, cut) => if cut.isSome then 141 else g.status).reverse ++
        [inner.exitStatus]
      let v := if s.rich then v.withStatuses statuses else v
      let failed := if v.riches.longOptions.contains "pipefail" then (statuses.filter (· != 0)).getLast?
        else none
      if isOwn && !inner.running then v
      else
      match inner.halt with
      | some (.repeats k p) => { v with clock := inner.clock }.stop (.repeats k p)
      | some (.killed n) => settle ((v.await ends).stop (.killed n))
      | _ => ((v.await ends).withStatus (failed.getD inner.exitStatus)).collect

/-- Whether a condition between double brackets holds: 0 if it does, 1 if not, and 2 if it cannot be
told. -/
def weigh : Nat → State → Condition → Nat × State
  | 0, s, _ => (2, s.stop .hangs)
  | fuel + 1, s, c =>
    let truth (b : Bool) : Nat := if b then 0 else 1
    match c with
    | .negated a =>
      let (n, t) := weigh fuel s a
      (if n = 0 then 1 else if n = 1 then 0 else n, t)
    | .both a b =>
      let (n, t) := weigh fuel s a
      if n = 0 && t.running then weigh fuel t b else (n, t)
    | .either a b =>
      let (n, t) := weigh fuel s a
      if n = 0 || !t.running then (n, t) else weigh fuel t b
    | .word w =>
      let (text, t) := expandText fuel s w
      if !t.running then (2, t)
      else (truth (!text.isEmpty), t.trace ("[[ -n " ++ Quote.asNeeded text ++ " ]]"))
    | .unary op w =>
      let (text, t) := expandText fuel s w
      if !t.running then (2, t)
      else (truth (RichTest.unary t op text), t.trace ("[[ " ++ op ++ " " ++ Quote.asNeeded text ++ " ]]"))
    | .binary op a b =>
      let (left, t) := expandText fuel s a
      if !t.running then (2, t)
      else
        let (ps, t) := expandWord fuel t (withJoined (withHome t b))
        if !t.running then (2, t)
        else
          let right := Piece.joined ps
          let t := t.trace ("[[ " ++ Quote.asNeeded left ++ " " ++ op ++ " " ++ right ++ " ]]")
          if op == "=" || op == "==" || op == "!=" then
            let fits := Pattern.accepted { grouped := true, folds := t.hasSetting "nocasematch" }
              (Piece.marked ps) left.toList
            (truth (fits == (op != "!=")), t)
          else if op == "=~" then t.fitting left (State.expressionText ps)
          else if ["-eq", "-ne", "-lt", "-le", "-gt", "-ge"].contains op then
            match t.workOut "[[" left with
            | .error u => (1, u)
            | .ok (x, u) =>
              match u.workOut "[[" right with
              | .error v => (1, v)
              | .ok (y, v) => (truth (RichTest.compared op x y), v)
          else
            match RichTest.binary t left op right with
            | .ok holds => (truth holds, t)
            | .error e => (2, t.complain e 2)

/-- Runs the rounds of a loop that counts. -/
def execCount : Nat → State → Raw → Raw → Raw → Script → State
  | 0, s, _, _, _, _ => s.stop .hangs
  | fuel + 1, s, start, goal, step, body =>
    let line := s.line
    let work (s : State) (source : Raw) : Except State (Int × State) :=
      if source.trimAscii.isEmpty then .ok (1, s)
      else
        let (ps, t) := expandSource fuel { s with line } true source
        if !t.running then .error t
        else
          let text := Piece.joined ps
          (t.trace ("((" ++ text ++ "))")).workOut "((" text
    match work s start with
    | .error t => t
    | .ok (_, t) =>
      let u := rounds (fun s =>
        let last := s.status
        match work s goal with
        | .error t => (false, t)
        | .ok (n, t) =>
          if n = 0 then (false, t.withStatus last)
          else
            let (goes, u) := afterRound (exec fuel t body)
            if !goes then (false, u)
            else
              match work u step with
              | .error v => (false, v)
              | .ok (_, v) => (true, v)) loopLimit { t.withStatus 0 with loops := s.loops + 1 }
      { u with loops := s.loops }

/-- Asks for items of a menu, and runs a script for each answer. -/
def execMenu : Nat → State → Raw → List Raw → Script → State
  | 0, s, _, _, _ => s.stop .hangs
  | fuel + 1, s, name, items, body =>
    let u := rounds (fun s =>
      let t := s.askMenu.richRead []
      if !t.running then (false, t)
      else if t.status != 0 then (false, (t.say "\n").withStatus 1)
      else
        let answer := (t.value? "REPLY").getD ""
        if answer.isEmpty then (true, t.showMenu items)
        else
          let v := t.setVariable name (State.chosen items answer)
          if v.running then afterRound (exec fuel v body) else (false, v))
      loopLimit { s.showMenu items with loops := s.loops + 1 }
    { u with loops := s.loops }

/-- Runs a script. -/
def exec : Nat → State → Script → State
  | 0, s, _ => s.stop .hangs
  | fuel + 1, s, script =>
    if !s.running then s
    else
      match script with
      | .empty => s
      | .simple line words redirects =>
        let s := { s with line, substituted := none }
        if s.rich then checked fuel (execSimple fuel s words redirects)
        else
        let (assigned, rest) := splitAssignments false words
        let (fields, t) := expandWords fuel s rest
        if !t.running then t
        else
          match fields with
          | [] =>
            let u := under fuel (t.withStatus 0) redirects id
            let failed := !redirects.isEmpty && u.status != 0
            if failed || !u.running then checked fuel u
            else
              let u := traced fuel u assigned []  |> fun v => if assigned.isEmpty then u else v
              let u := assignAll fuel u false assigned
              checked fuel (if u.running then u.withStatus (u.substituted.getD 0) else u)
          | name :: args =>
            let t := traced fuel t assigned (name :: args)
            checked fuel (runCommand fuel t assigned redirects name args)
      | .pipeline parts => checked fuel (execPipe fuel s parts)
      | .negated a =>
        let t := examine fuel s a
        t.withStatus (if t.status = 0 then 1 else 0)
      | .andThen a b =>
        let t := examine fuel s a
        if t.running && t.status = 0 then exec fuel t b else t
      | .orElse a b =>
        let t := examine fuel s a
        if t.running && t.status != 0 then exec fuel t b else t
      | .sequence a b =>
        let t := exec fuel s a
        if t.running then exec fuel t b else t
      | .background a => execBackground fuel s a
      | .subshell body =>
        let t := execApart fuel s body
        checked fuel (if s.rich then t.withStatuses [] else t)
      | .redirected line body redirects =>
        let count := s.riches.attached.length
        let t := under fuel { s with line } redirects fun u => exec fuel u body
        if t.riches.attached.length = count then t else detach fuel count t
      | .branch condition yes no =>
        let t := examine fuel s condition
        if !t.running then t
        else if t.status = 0 then exec fuel (t.withStatus 0) yes
        else exec fuel (t.withStatus 0) no
      | .loop until_ condition body =>
        let t := rounds (fun s =>
          let last := s.status
          let t := examine fuel s condition
          if !t.running then afterRound t
          else if (t.status = 0) != until_ then afterRound (exec fuel t body)
          else (false, t.withStatus last)) loopLimit { s with loops := s.loops + 1, status := 0 }
        { t with loops := s.loops }
      | .each line name words body =>
        let s := { s with line }
        let count := s.riches.attached.length
        let (values, t) := match words with
          | some ws => expandWords fuel s ws
          | none => (s.positional, s)
        if !t.running then t
        else if s.rich && !isName name then
          checked fuel (t.complain ("\x60" ++ name ++ "': not a valid identifier") 1)
        else
          let told : Raw := match words with
            | some _ => "for " ++ name ++ " in " ++ " ".intercalate (values.map Quote.asNeeded)
            | none => "for " ++ name ++ " in \"$@\""
          let u := eachOf (fun s v =>
            let s := if s.rich then runTrap fuel (({ s with line } : State).trace told) 65 else s
            let s := s.setVariable name v
            if s.running then afterRound (exec fuel s body) else (false, s)) values
            { t.withStatus 0 with loops := s.loops + 1 }
          let u := { u with loops := s.loops }
          if u.riches.attached.length = count then u else detach fuel count u
      | .select line word arms =>
        let (subject, t) := expandText fuel { s with line } word
        if !t.running then t
        else
          let t := if s.rich then t.trace ("case " ++ Quote.asNeeded subject ++ " in") else t
          execArms fuel (t.withStatus 0) subject false arms
      | .define name body =>
        let place := s.riches.speaker.getD s.riches.source
        let sources := if s.rich then (name, place) :: s.riches.sources else []
        { s with
          functions := (name, body) :: s.functions, status := 0, riches := { s.riches with sources } }
      | .sum line source =>
        let (ps, t) := expandSource fuel { s with line } true source
        if !t.running then t
        else
          let text := Piece.joined ps
          match (runTrap fuel (t.trace ("(( " ++ text ++ " ))")) 65).workOut "((" text with
          | .error t => checked fuel (t.withStatuses [])
          | .ok (n, t) => checked fuel ((t.withStatus (if n = 0 then 1 else 0)).withStatuses [])
      | .condition line c =>
        let (status, t) := weigh fuel (runTrap fuel { s with line } 65) c
        if t.running then checked fuel ((t.withStatus status).withStatuses []) else t
      | .count line start goal step body => execCount fuel { s with line } start goal step body
      | .menu line name words body =>
        let (items, t) := match words with
          | some ws => expandWords fuel { s with line } ws
          | none => (s.positional, { s with line })
        if !t.running then t
        else if items.isEmpty then t.withStatus 0
        else execMenu fuel t name items body
      | .timed plain body =>
        let t := exec fuel s body
        if t.running then t.tellTime plain s.clock else t

/-- Runs the arms of a choice: the first with a pattern that fits, and those that it leads to. -/
def execArms : Nat → State → Raw → Bool → List (List Word × Script × ArmEnd) → State
  | 0, s, _, _, _ => s.stop .hangs
  | _ + 1, s, _, _, [] => s
  | fuel + 1, s, subject, enters, (patterns, body, ending) :: rest =>
    let (fit, s) := if enters then (true, s) else fitsAny fuel s subject.toList patterns
    if !s.running then s
    else if fit then
      let t := exec fuel s body
      if !t.running then t
      else
        match ending with
        | .leave => t
        | .enter => execArms fuel t subject true rest
        | .tryOn => execArms fuel t subject false rest
    else execArms fuel s subject false rest

def fitsAny : Nat → State → List Char → List Word → Bool × State
  | 0, s, _, _ => (false, s.stop .hangs)
  | _ + 1, s, _, [] => (false, s)
  | fuel + 1, s, subject, w :: ws =>
    let (ps, s) := expandWord fuel s (if s.rich then withJoined (withHome s w) else w)
    if Pattern.accepted s.style (Piece.marked ps) subject then (true, s)
    else fitsAny fuel s subject ws

end

/-- How deep a run may go. -/
def depthLimit : Nat := 20000

end Host.Shell

end PolicyGate
