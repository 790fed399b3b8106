import PolicyGate.Host.Extract.Function

/-!
# Running extraction scripts

An expression is asked for one value or for a list, and many mean different things by that. Blocks give
their variables back at the end, however they end. The first argument of each function bounds how deep
the script goes.
-/

namespace PolicyGate

namespace Host.Extract

/-- The number of steps after which a script counts as one that never ends. -/
def stepLimit : Nat := 3000000

/-- How deep functions may call each other. -/
def callLimit : Nat := 2500

/-- Notes a step. -/
def step : Act Unit := fun b =>
  if stepLimit ≤ b.steps then .error .tired b else .ok () { b with steps := b.steps + 1 }

/-- Ends the script with a complaint that says where it is. -/
def fail {α : Type} (what : Raw) : Act α := do
  throw (.died (.text (what ++ (← get).whereabouts)))

/-- Lets variables get their values back behind some actions. -/
def within {α : Type} (x : Act α) : Act α := do
  let depth := (← get).kept.length
  let v ← tryCatch x fun e => do
    modify (·.leave depth)
    throw e
  modify (·.leave depth)
  return v

/-- Runs one round of a loop, and tells whether the next may follow. -/
def roundOf (label : Raw) (x : Act Unit) : Act Bool :=
  tryCatch (do
    x
    return true) fun e =>
      match e with
      | .next l => if l.isEmpty || l == label then pure true else throw e
      | .last l => if l.isEmpty || l == label then pure false else throw e
      | e => throw e

/-- Whether an assignment to something takes a list. -/
def takesList : Expr → Bool
  | .row _ | .table _ | .list _ | .items _ _ | .entries _ _ => true
  | .own vars isList => isList || vars.any isMany
  | .lent vars => vars.length != 1 || vars.any isMany
  | _ => false
where
  isMany : Expr → Bool
    | .row _ | .table _ => true
    | _ => false

/-- What a declaration declares. -/
def declared : Expr → Expr
  | .own [e] _ | .lent [e] => e
  | .own es _ | .lent es => .list es
  | e => e

/-- The name of a text that is searched. -/
def nameOf : Option Expr → Raw
  | none => "_"
  | some (.scalar n) => n
  | some _ => ""

def patternOf (text letters : Raw) : Act (Regex × Regex.Opened) :=
  match Regex.parseRich (readingBy letters) text with
  | .ok r => pure r
  | .error e => fail (Regex.RichFault.message e ++ " in regex; marked by <-- HERE in m/" ++ text ++ " <-- HERE /")

/-- Remembers what a pattern has fitted. -/
def remember (chars : List Char) (o : Regex.Opened) (f : Regex.Found) : Act Unit :=
  modify fun b => { b with fitted := { chars, found := f, names := o.names } }

/-- The words of a command that is given as a text. -/
def commandWords (text : Raw) : List Raw :=
  if text.toList.any fun c => "$&*(){}[]'\";\\|?<>~\n".toList.contains c || c == '\x60' then ["/bin/sh", "-c", text]
  else wordsOf text.toList

/-- Runs a program, and gives its status and what it has written, if that is taken. -/
def started (words : List Raw) (taken : Bool) : Act (Option (Nat × Raw)) := do
  modify Bench.flush
  let b ← get
  match b.scene.launch b.scene.files b.scene.input words with
  | .error why =>
    set { b with failure := failureNumber why }
    return none
  | .ok r =>
    let own := r.writes.filter fun w => !(taken && !w.1)
    let text := (r.writes.filter (!·.1)).map fun w => Raw.ofBytes w.2
    set { b with
      shown := own.reverse ++ b.shown, waitedMs := b.waitedMs + r.waitMs
      scene := { b.scene with files := r.files.getD b.scene.files, input := r.rest.getD b.scene.input } }
    if r.hangs then throw .tired
    return some (r.status, if taken then String.join text else "")

/-- Closes a door. -/
def closed (name : Raw) : Act Bool := do
  let b ← get
  match b.doors.lookup name with
  | none => return false
  | some d =>
    set { b with doors := if name == "STDIN" then placedAt name { d with way := .source .empty } b.doors
      else b.doors.filter (·.1 != name) }
    match d.way with
    | .program words bytes =>
      modify Bench.flush
      let b ← get
      match b.scene.launch b.scene.files ⟨bytes, []⟩ words with
      | .error why =>
        set { b with failure := failureNumber why }
        return false
      | .ok r =>
        set ({ b with
          shown := r.writes.reverse ++ b.shown, waitedMs := b.waitedMs + r.waitMs
          scene := { b.scene with files := r.files.getD b.scene.files } }.setScalar "?" (.whole (256 * r.status)))
        return r.status = 0
    | _ => return true

/-- Opens a door by what is asked for in one text or in several. -/
def openDoor (name shown : Raw) (spec : List Value) : Act Bool := do
  let b ← get
  let refused (why : Raw) : Act Bool := do
    set { b with failure := failureNumber why }
    return false
  let trimmed (cs : List Char) : Raw := String.ofList ((cs.dropWhile Value.isBlank).reverse.dropWhile Value.isBlank).reverse
  let file (mode path : Raw) : Act Bool :=
    match b.openFile name shown mode path with
    | .ok b => do
      set b
      return true
    | .error why => refused why
  let fromProgram (words : List Raw) : Act Bool := do
    match ← started words true with
    | some (_, text) =>
      modify fun b => { b with doors := placedAt name { way := .source ⟨text.toBytes, []⟩, shown } b.doors }
      return true
    | none => return false
  let toProgram (words : List Raw) : Act Bool := do
    set { b with doors := placedAt name { way := .program words [], shown } b.doors }
    return true
  match spec with
  | [] => return false
  | [one] =>
    let cs := one.toText.toList.dropWhile Value.isBlank
    match cs with
    | '>' :: '>' :: rest => file ">>" (trimmed rest)
    | '>' :: rest => file ">" (trimmed rest)
    | '<' :: rest => file "<" (trimmed rest)
    | '|' :: rest => toProgram (commandWords (trimmed rest))
    | cs =>
      if cs.getLast? == some '|' then fromProgram (commandWords (trimmed cs.dropLast)) else file "<" (trimmed cs)
  | mode :: path :: more =>
    let m := trimmed (mode.toText.toList.takeWhile (· != ':'))
    let words := if more.isEmpty then commandWords path.toText else (path :: more).map Value.toText
    if m == "-|" then fromProgram words
    else if m == "|-" then toProgram words
    else if m == "<" || m == ">" || m == ">>" || m == "+<" then file m path.toText
    else fail ("Unknown open() mode '" ++ m ++ "'")

/-- Whether a path leads to what a letter asks for. -/
def isThere (b : Bench) (letter : Raw) (path : Raw) : Value :=
  let node := if letter == "-l" then (b.scene.reachName path).toOption else (b.scene.reach path).toOption
  match node with
  | none => .absent
  | some r =>
    if letter == "-f" then .ofBool (match r.node.content with
      | .file _ | .program _ => true
      | _ => false)
    else if letter == "-d" then .ofBool r.node.isDirectory
    else if letter == "-l" then .ofBool r.node.isLink
    else if letter == "-x" then .ofBool (r.node.isDirectory || r.node.isExecutable)
    else if letter == "-z" then .ofBool (r.node.size = 0)
    else if letter == "-s" then if r.node.size = 0 then .text "" else .whole r.node.size
    else .ofBool true

/-- Puts a value into a sorted row behind all that do not come after it. -/
def insertBy (before : Value → Value → Act Bool) (v : Value) : List Value → Act (List Value)
  | [] => return [v]
  | w :: ws => do
    if ← before v w then return v :: w :: ws else return w :: (← insertBy before v ws)

def textsOf (vs : List Value) : Raw := String.join (vs.map Value.toText)

/-- The message of a script that ends or complains, given what is said. -/
def message (said usual : Raw) : Act Value := do
  let said := if said.isEmpty then usual else said
  if said.endsWith "\n" then return .text said else return .text (said ++ (← get).whereabouts)

/-- A line without the text that ends it. -/
def chomped (separator : Option Raw) (r : Raw) : Raw :=
  match separator with
  | none => r
  | some "" => String.ofList (r.toList.reverse.dropWhile (· == '\n')).reverse
  | some s => if r.endsWith s then String.ofList (r.toList.take (r.length - s.length)) else r

/-- Changes the texts that a target keeps. -/
def changeTexts (b : Bench) (f : Raw → Raw) : Target → Bench
  | .row n => b.setRow n ((b.row n).map fun v => .text (f v.toText))
  | .several ts => ts.foldl (fun b t => match t with
    | .row n => b.setRow n ((b.row n).map fun v => .text (f v.toText))
    | t => b.store t (.text (f (b.fetch t).toText))) b
  | t =>
    match b.fetch t with
    | .absent => b
    | v => b.store t (.text (f v.toText))

mutual

/-- The one value of an expression. -/
def scalarOf : Nat → Expr → Act Value
  | 0, _ => throw .tired
  | fuel + 1, e =>
    match e with
    | .value v => return v
    | .quoted parts => do
      let r ← parts.foldlM (fun (r : Raw) p => do return r ++ (← scalarOf fuel p).toText) ""
      return .text r
    | .scalar n => return (← get).scalar n
    | .row n => return .whole ((← get).row n).length
    | .table n => return .whole ((← get).table n).length
    | .last n => return .whole (((← get).row n).length - 1 : Int)
    | .item n i => do
      let i ← scalarOf fuel i
      return (← get).item n i.toInt
    | .entry n k => do
      let k ← scalarOf fuel k
      return (← get).entry n k.toText
    | .own _ _ | .lent _ => do
      let t ← targetOf fuel e
      return (← get).fetch t
    | .list es =>
      match es with
      | [] => return .absent
      | [a] => scalarOf fuel a
      | a :: more => do
        let _ ← scalarOf fuel a
        scalarOf fuel (.list more)
    | .unary op a => do
      if op == "!" then return .ofBool (!(← scalarOf fuel a).isTrue)
      else if op == "-" then
        let v ← scalarOf fuel a
        match v with
        | .text r =>
          match r.toList with
          | c :: _ => if isWordStart c then return .text ("-" ++ r) else return Value.sub (.whole 0) v
          | [] => return .whole 0
        | v => return Value.sub (.whole 0) v
      else if op == "~" then return .ofInt (Width.of64 - 1 - (← scalarOf fuel a).bits : Nat)
      else
        let p ← scalarOf fuel a
        return isThere (← get) op p.toText
    | .binary op a b => do
      let operand (e : Expr) : Act Value := do
        match e with
        | .scalar "!" =>
          if ["==", "!=", "+", "-", "<", ">"].contains op then return .whole (← get).failure else scalarOf fuel e
        | e => scalarOf fuel e
      let x ← operand a
      if op == "&&" then if x.isTrue then scalarOf fuel b else return x
      else if op == "||" then if x.isTrue then return x else scalarOf fuel b
      else if op == "//" then if x.isAbsent then scalarOf fuel b else return x
      else
        let y ← operand b
        match applied op x y with
        | .ok v => return v
        | .error what => fail what
    | .choice c a b => do
      if (← scalarOf fuel c).isTrue then scalarOf fuel a else scalarOf fuel b
    | .range place a b => do
      let holds (e : Expr) : Act Bool := do
        match e with
        | .value (.whole n) => return ((← get).scalar ".").toInt == n
        | e => return (← scalarOf fuel e).isTrue
      let isOpen := (← get).ranges.contains place
      if !isOpen && !(← holds a) then return .text ""
      else
        modify fun b => { b with ranges := place :: b.ranges.filter (· != place) }
        if ← holds b then modify fun b => { b with ranges := b.ranges.filter (· != place) }
        return .whole 1
    | .assigned op t v => do
      let vs ← assign fuel false op t v
      return vs.getLast?.getD .absent
    | .stepped after up t => do
      let t ← targetOf fuel t
      let old := (← get).fetch t
      let new := if up then old.next else Value.sub old (.whole 1)
      modify (·.store t new)
      let before : Value := match old with
        | .absent => .whole 0
        | v => v
      return if after then new else before
    | .searched target negated s => do
      let vs ← searchOf fuel false target negated s
      return vs.getLast?.getD .absent
    | .line h => do
      let name ← scalarOf fuel h
      let (line, b) := (← get).read name.toText
      set b
      match line with
      | some l => return .text l
      | none => return .absent
    | .mapped name _ _ => do
      let vs ← listOf fuel e
      if name == "sort" then return vs.getLast?.getD .absent else return .whole vs.length
    | .call line name args => do
      let vs ← callOf fuel false line name args
      return vs.getLast?.getD .absent
    | .body block => do
      let vs ← within (runAll fuel false block)
      return vs.getLast?.getD .absent
    | e => do
      let vs ← listOf fuel e
      return vs.getLast?.getD .absent

/-- The values of an expression. -/
def listOf : Nat → Expr → Act (List Value)
  | 0, _ => throw .tired
  | fuel + 1, e =>
    match e with
    | .list es => do
      let parts ← es.mapM (listOf fuel)
      return parts.flatten
    | .row n => return (← get).row n
    | .table n => return (← get).values (.table n)
    | .items n is => do
      let is ← listOf fuel is
      let b ← get
      return is.map fun i => b.item n i.toInt
    | .entries n ks => do
      let ks ← listOf fuel ks
      let b ← get
      return ks.map fun k => b.entry n k.toText
    | .pick e is => do
      let vs ← listOf fuel e
      let is ← listOf fuel is
      return is.map fun i => ((Bench.place? vs i.toInt).bind fun n => vs[n]?).getD .absent
    | .own vars isList => do
      let t ← targetOf fuel (.own vars isList)
      return (← get).values t
    | .range _ a b => do
      let x ← scalarOf fuel a
      let y ← scalarOf fuel b
      return span x y
    | .binary "x" (.list es) n => do
      let vs ← listOf fuel (.list es)
      let n ← scalarOf fuel n
      return (List.replicate n.toInt.toNat vs).flatten
    | .binary "||" a b => do
      let x ← scalarOf fuel a
      if x.isTrue then return [x] else listOf fuel b
    | .binary "&&" a b => do
      let x ← scalarOf fuel a
      if x.isTrue then listOf fuel b else return [x]
    | .choice c a b => do
      if (← scalarOf fuel c).isTrue then listOf fuel a else listOf fuel b
    | .assigned op t v => assign fuel true op t v
    | .searched target negated s => searchOf fuel true target negated s
    | .line h => do
      let name ← scalarOf fuel h
      linesOf fuel name.toText []
    | .call line name args => callOf fuel true line name args
    | .body block => within (runAll fuel true block)
    | .mapped name block values => do
      let vs ← listOf fuel values
      if name == "sort" then sorted fuel block vs
      else
        within do
          modify (·.keep (.scalar "_"))
          mappedOver fuel (name == "grep") block vs []
    | e => do return [← scalarOf fuel e]

/-- All lines that are left behind a door. -/
def linesOf : Nat → Raw → List Value → Act (List Value)
  | 0, _, _ => throw .tired
  | fuel + 1, name, done => do
    step
    let (line, b) := (← get).read name
    set b
    match line with
    | some l => linesOf fuel name (.text l :: done)
    | none => return done.reverse

/-- Runs a block for each value, and keeps what it gives, or the values for which it holds. -/
def mappedOver : Nat → Bool → List Stmt → List Value → List (List Value) → Act (List Value)
  | 0, _, _, _, _ => throw .tired
  | _ + 1, _, _, [], done => return done.reverse.flatten
  | fuel + 1, chosen, block, v :: vs, done => do
    step
    modify (·.setScalar "_" v)
    let given ← within (runAll fuel (!chosen) block)
    let here := if chosen then (if (given.getLast?.getD .absent).isTrue then [v] else []) else given
    mappedOver fuel chosen block vs (here :: done)

/-- Values in order, by their texts or by a block that compares two. -/
def sorted : Nat → List Stmt → List Value → Act (List Value)
  | 0, _, _ => throw .tired
  | fuel + 1, block, vs =>
    if block.isEmpty then return vs.mergeSort fun a b => Value.compareTexts a b != .gt
    else
      within do
        modify fun b => (b.keep (.scalar "a")).keep (.scalar "b")
        let before (v w : Value) : Act Bool := do
          step
          modify fun b => (b.setScalar "a" v).setScalar "b" w
          let r ← within (runAll fuel false block)
          return (r.getLast?.getD .absent).toInt < 0
        vs.foldlM (fun done v => insertBy before v done) []

/-- Where an expression keeps its value. Declared variables are emptied. -/
def targetOf : Nat → Expr → Act Target
  | 0, _ => throw .tired
  | fuel + 1, e =>
    match e with
    | .scalar n => return .scalar n
    | .row n => return .row n
    | .table n => return .table n
    | .item n i => return .item n (← scalarOf fuel i).toInt
    | .entry n k => return .entry n (← scalarOf fuel k).toText
    | .items n is => do
      let is ← listOf fuel is
      return .several (is.map fun i => .item n i.toInt)
    | .entries n ks => do
      let ks ← listOf fuel ks
      return .several (ks.map fun k => .entry n k.toText)
    | .list [a] => targetOf fuel a
    | .list es => return .several (← es.mapM (targetOf fuel))
    | .own vars _ | .lent vars => do
      let ts ← vars.mapM (targetOf fuel)
      modify fun b => ts.foldl Bench.keep b
      match ts with
      | [t] => return t
      | ts => return .several ts
    | .choice c a b => do
      if (← scalarOf fuel c).isTrue then targetOf fuel a else targetOf fuel b
    | .assigned op t v => do
      let _ ← assign fuel false op t v
      targetOf fuel (declared t)
    | .stepped _ _ t => do
      let _ ← scalarOf fuel e
      targetOf fuel t
    | .call _ "substr" (t :: more) => do
      let t ← targetOf fuel t
      let ns ← more.mapM (scalarOf fuel)
      let size := ((← get).fetch t).toText.length
      match portion? size (nth ns 0).toInt ((ns[1]?).map Value.toInt) with
      | some (i, n) => return .part t i n
      | none => fail "substr outside of string"
    | _ => return .nowhere

/-- Assigns a value, or a list, and gives what has been assigned. A list is counted where one value is
asked for. -/
def assign : Nat → Bool → String → Expr → Expr → Act (List Value)
  | 0, _, _, _, _ => throw .tired
  | fuel + 1, wants, op, t, v =>
    if op == "=" then
      if takesList t then do
        let vs ← listOf fuel v
        let target ← targetOf fuel t
        let target : Target := match target, t with
          | .scalar n, _ => .several [.scalar n]
          | target, _ => target
        modify fun b => (b.fill vs target).1
        if wants then return (← get).values target else return [.whole vs.length]
      else do
        let x ← scalarOf fuel v
        let target ← targetOf fuel t
        modify (·.store target x)
        return [x]
    else do
      let target ← targetOf fuel t
      let old := (← get).fetch target
      let put (x : Value) : Act (List Value) := do
        modify (·.store target x)
        return [x]
      if op == "||=" then if old.isTrue then return [old] else put (← scalarOf fuel v)
      else if op == "&&=" then if old.isTrue then put (← scalarOf fuel v) else return [old]
      else if op == "//=" then if old.isAbsent then put (← scalarOf fuel v) else return [old]
      else
        let x ← scalarOf fuel v
        match applied (String.ofList op.toList.dropLast) old x with
        | .ok new => put new
        | .error what => fail what

/-- Searches in a text, or changes it. -/
def searchOf : Nat → Bool → Option Expr → Bool → Seeking → Act (List Value)
  | 0, _, _, _, _ => throw .tired
  | fuel + 1, wants, target, negated, s => do
    let place := target.getD (.scalar "_")
    let answer (holds : Bool) : List Value := [.ofBool (holds != negated)]
    match s with
    | .find pattern letters =>
      let text ← scalarOf fuel place
      let wanted ← scalarOf fuel pattern
      let (r, o) ← patternOf wanted.toText letters
      let chars := text.toText.toList
      let cs := chars.toArray
      let subject : Subject := { chars := cs, fold := false, eager := true }
      let name := nameOf target
      if letters.toList.contains 'g' then
        let start := ((← get).marks.lookup name).getD 0
        if wants && !negated then
          let all := findAll subject r (cs.size + 2) start
          modify fun b => { b with marks := b.marks.filter (·.1 != name) }
          match all.getLast? with
          | some f => remember chars o f
          | none => pure ()
          return all.flatMap fun f =>
            if o.count = 0 then [part cs f.start f.stop] else groupValues cs o.count f
        else
          match if start ≤ cs.size then Regex.search subject r start else none with
          | some f =>
            remember chars o f
            let next := if f.stop = f.start then f.stop + 1 else f.stop
            modify fun b => { b with marks := placedAt name next b.marks }
            return answer true
          | none =>
            modify fun b => { b with marks := b.marks.filter (·.1 != name) }
            return answer false
      else
        match Regex.search subject r 0 with
        | some f =>
          remember chars o f
          if wants && !negated && o.count != 0 then return groupValues cs o.count f else return answer true
        | none => return if wants && !negated then [] else answer false
    | .change pattern put letters =>
      let has (c : Char) : Bool := letters.toList.contains c
      let t ← if has 'r' then pure .nowhere else targetOf fuel place
      let text ← if has 'r' then scalarOf fuel place else pure ((← get).fetch t)
      let wanted ← scalarOf fuel pattern
      let (r, o) ← patternOf wanted.toText letters
      let chars := text.toText.toList
      let cs := chars.toArray
      let subject : Subject := { chars := cs, fold := false, eager := true }
      let all := if has 'g' then findAll subject r (cs.size + 2) 0 else (Regex.search subject r 0).toList
      let (done, from_) ← all.foldlM (fun ((done, i) : Raw × Nat) f => do
        remember chars o f
        let new ← scalarOf fuel put
        return (done ++ (part cs i f.start).toText ++ new.toText, f.stop)) ("", 0)
      let made := done ++ (part cs from_ cs.size).toText
      if has 'r' then return [.text made]
      else if all.isEmpty then return answer false
      else
        modify (·.store t (.text made))
        return if negated then answer true else [.whole all.length]
    | .turn set put letters =>
      let t ← targetOf fuel place
      let text ← scalarOf fuel place
      let (made, n) := turned set put letters text.toText.toList
      if letters.toList.contains 'r' then return [.text (String.ofList made)]
      else
        if made != text.toText.toList then modify (·.store t (.text (String.ofList made)))
        return [.whole n]

/-- Calls a function. -/
def callOf : Nat → Bool → Nat → Raw → List Expr → Act (List Value)
  | 0, _, _, _, _ => throw .tired
  | fuel + 1, wants, line, name, args => do
    step
    let first : Expr := args.head?.getD (.scalar "_")
    let yes (b : Bool) : List Value := [.ofBool b]
    match (← get).functions.lookup name with
    | some body =>
      let given ← listOf fuel (.list args)
      let b ← get
      if callLimit ≤ b.calls then throw .tired
      let old := b.row "_"
      set { b.setRow "_" given with calls := b.calls + 1, wantsList := wants }
      let back : Act Unit := modify fun c =>
        { c.setRow "_" old with calls := b.calls, wantsList := b.wantsList }
      let vs ← tryCatch (within (runAll fuel wants body)) fun e => do
        match e with
        | .gave vs => return vs
        | e => do
          back
          throw e
      back
      return vs
    | none =>
    match plainFunction? name with
    | some f =>
      let vs ← if args.isEmpty then pure [(← get).scalar "_"] else args.mapM (scalarOf fuel)
      return [f vs]
    | none =>
    match listFunction? name with
    | some f =>
      let vs ← listOf fuel (.list args)
      return [f vs]
    | none =>
    if name == "print" || name == "say" || name == "printf" then do
      let door ← scalarOf fuel first
      let vs ← if args.length ≤ 1 then pure [(← get).scalar "_"] else listOf fuel (.list args.tail)
      let b ← get
      let form := (nth vs 0).toText.toList
      let text : Raw := if name == "printf" then String.ofList (formatted (form.length + 1) form vs.tail)
        else (b.scalar ",").toText.intercalate (vs.map Value.toText) ++ (if name == "say" then "\n" else "") ++
          (b.scalar "\\").toText
      let (b, done) := b.write door.toText text
      set b
      return yes done
    else if name == "die" then do
      let said ← listOf fuel (.list args)
      throw (.died (← message (textsOf said) "Died"))
    else if name == "warn" then do
      let said ← listOf fuel (.list args)
      let r ← message (textsOf said) "Warning: something's wrong"
      modify (·.tell r.toText)
      return yes true
    else if name == "exit" then do
      let n ← if args.isEmpty then pure (.whole 0) else scalarOf fuel first
      throw (.exit (n.toInt % 256).toNat)
    else if name == "return" then do
      let isList := (← get).wantsList
      let vs ← if args.isEmpty then pure []
        else if isList then listOf fuel (.list args) else do pure [← scalarOf fuel (.list args)]
      throw (.gave vs)
    else if name == "next" || name == "last" then do
      let label ← if args.isEmpty then pure "" else do pure (← scalarOf fuel first).toText
      throw (if name == "next" then .next label else .last label)
    else if name == "eval" then do
      let run : Act (List Value) := match first with
        | .body block => within (runAll fuel wants block)
        | e => do
          let text ← scalarOf fuel e
          match script text.toText with
          | .ok block => within (runAll fuel wants block)
          | .error _ => fail "syntax error"
      tryCatch (do
        let vs ← run
        modify (·.setScalar "@" (.text ""))
        return vs) fun e => do
          match e with
          | .died v =>
            modify (·.setScalar "@" v)
            return if wants then [] else [.absent]
          | e => throw e
    else if name == "defined" then
      match first with
      | .row n => return yes (!((← get).row n).isEmpty)
      | .call _ f [] =>
        if ((← get).functions.lookup f).isSome then return yes true
        else return yes (!(← scalarOf fuel first).isAbsent)
      | e => do return yes (!(← scalarOf fuel e).isAbsent)
    else if name == "exists" || name == "delete" then
      match first with
      | .entry n k => do
        let k ← scalarOf fuel k
        let b ← get
        if name == "exists" then return yes ((b.table n).lookup k.toText).isSome
        else
          set (b.setTable n ((b.table n).filter (·.1 != k.toText)))
          return [b.entry n k.toText]
      | .item n i => do
        let i ← scalarOf fuel i
        let b ← get
        if name == "delete" then
          set (b.store (.item n i.toInt) .absent)
          return [b.item n i.toInt]
        else return yes ((Bench.place? (b.row n) i.toInt).any fun k => k < (b.row n).length)
      | _ => return yes false
    else if name == "undef" then do
      if args.isEmpty then return [.absent]
      else
        match ← targetOf fuel first with
        | .row n => modify (·.setRow n [])
        | .table n => modify (·.setTable n [])
        | t => modify (·.store t .absent)
        return [.absent]
    else if name == "push" || name == "unshift" then do
      let vs ← listOf fuel (.list args.tail)
      match ← targetOf fuel first with
      | .row n =>
        let old := (← get).row n
        let new := if name == "push" then old ++ vs else vs ++ old
        modify (·.setRow n new)
        return [.whole new.length]
      | _ => fail "Experimental push on scalar is now forbidden"
    else if name == "pop" || name == "shift" then do
      let b ← get
      let row : Expr := args.head?.getD (.row (if b.calls = 0 then "ARGV" else "_"))
      match ← targetOf fuel row with
      | .row n =>
        let old := (← get).row n
        if name == "pop" then
          modify (·.setRow n old.dropLast)
          return [old.getLast?.getD .absent]
        else
          modify (·.setRow n old.tail)
          return [old.head?.getD .absent]
      | _ => return [.absent]
    else if name == "splice" then do
      match ← targetOf fuel first with
      | .row n =>
        let vs ← listOf fuel (.list args.tail)
        let old := (← get).row n
        match portion? old.length ((vs[0]?).map Value.toInt |>.getD 0) ((vs[1]?).map Value.toInt) with
        | some (i, size) =>
          modify (·.setRow n (old.take i ++ vs.drop 2 ++ old.drop (i + size)))
          let out := (old.drop i).take size
          return if wants then out else [out.getLast?.getD .absent]
        | none => return []
      | _ => return []
    else if name == "reverse" then do
      if wants then return (← listOf fuel (.list args)).reverse
      else
        let vs ← if args.isEmpty then pure [(← get).scalar "_"] else listOf fuel (.list args)
        return [.text (String.ofList (textsOf vs).toList.reverse)]
    else if name == "keys" || name == "values" then do
      let b ← get
      let vs : List Value := match first with
        | .table n => (b.table n).map fun (k, v) => if name == "keys" then .text k else v
        | .row n =>
          if name == "keys" then (List.range (b.row n).length).map fun (k : Nat) => .whole k else b.row n
        | _ => []
      return if wants then vs else [.whole vs.length]
    else if name == "each" then
      match first with
      | .table n => do
        let b ← get
        let mark := "%" ++ n
        let i := (b.marks.lookup mark).getD 0
        match (b.table n)[i]? with
        | some (k, v) =>
          set { b with marks := placedAt mark (i + 1) b.marks }
          return if wants then [.text k, v] else [.text k]
        | none =>
          set { b with marks := b.marks.filter (·.1 != mark) }
          return []
      | _ => return []
    else if name == "scalar" then do return [← scalarOf fuel first]
    else if name == "wantarray" then do return yes (← get).wantsList
    else if name == "uniq" then do
      let vs ← listOf fuel (.list args)
      let out := vs.foldl (fun (done : List Value) v =>
        if done.any fun w => w.toText == v.toText then done else v :: done) []
      return if wants then out.reverse else [.whole out.length]
    else if name == "sqrt" || name == "log" then do
      let v ← scalarOf fuel first
      let x := v.toFloat
      if x < 0 || (name == "log" && x == 0) then fail ("Can't take " ++ name ++ " of " ++ v.toNumber.toText)
      else return [.ofFloat (if name == "sqrt" then x.sqrt else x.log)]
    else if name == "substr" then do
      let text ← scalarOf fuel first
      let ns ← args.tail.mapM (scalarOf fuel)
      let cs := text.toText.toList
      let count : Option Int := ((ns[1]?).filter fun v => !v.isAbsent).map Value.toInt
      match portion? cs.length (nth ns 0).toInt count with
      | none => return [.absent]
      | some (i, n) =>
        match ns[2]? with
        | some v =>
          let t ← targetOf fuel first
          modify (·.store (.part t i n) v)
        | none => pure ()
        return [.text (String.ofList ((cs.drop i).take n))]
    else if name == "pos" then do
      match (← get).marks.lookup (nameOf args.head?) with
      | some n => return [.whole n]
      | none => return [.absent]
    else if name == "chomp" || name == "chop" then do
      let t ← targetOf fuel first
      let separator := (← get).separator
      let f (r : Raw) : Raw := if name == "chomp" then chomped separator r else String.ofList r.toList.dropLast
      modify fun b => changeTexts b f t
      return [.whole 1]
    else if name == "split" then do
      let text ← match args[1]? with
        | some e => scalarOf fuel e
        | none => pure ((← get).scalar "_")
      let limit ← match args[2]? with
        | some e => do pure (← scalarOf fuel e).toInt
        | none => pure 0
      let (wanted, letters) ← match args.head? with
        | some (.searched none false (.find p letters)) => do pure ((← scalarOf fuel p).toText, letters)
        | some e => do pure ((← scalarOf fuel e).toText, "")
        | none => pure (" ", "")
      let isBlank : Bool := wanted == " " && (match args.head? with
        | some (.searched ..) => false
        | _ => true)
      let cs := if isBlank then text.toText.toList.dropWhile Value.isBlank else text.toText.toList
      let (r, o) ← patternOf (if isBlank then "\\s+" else wanted) letters
      let vs := splitBy cs.toArray r o.count limit
      return if wants then vs else [.whole vs.length]
    else if name == "open" then do
      let spec ← listOf fuel (.list args.tail)
      match first with
      | .value v => return yes (← openDoor v.toText v.toText spec)
      | e =>
        let t ← targetOf fuel e
        let b ← get
        let key := "GLOB(0x5581" ++ toString b.nextDoor ++ ")"
        let shown : Raw := match declared e with
          | .scalar n => "$" ++ n
          | _ => "__ANONIO__"
        set { b.store t (.text key) with nextDoor := b.nextDoor + 1 }
        return yes (← openDoor key shown spec)
    else if name == "close" then do
      let d ← scalarOf fuel first
      return yes (← closed d.toText)
    else if name == "eof" then do
      let d ← if args.isEmpty then pure (.text (← get).lastDoor) else scalarOf fuel first
      let d := d.toText
      return yes ((← get).isAtEnd (if d.isEmpty then "ARGV" else d))
    else if name == "readline" then do
      if wants then listOf fuel (.line first) else return [← scalarOf fuel (.line first)]
    else if name == "binmode" || name == "require" || name == "srand" || name == "utime" then return yes true
    else if name == "ref" then return [.text ""]
    else if name == "rand" then return [.whole 0]
    else if name == "select" then do
      match args with
      | [a] =>
        let d ← scalarOf fuel a
        let old := (← get).selected
        modify fun b => { b with selected := d.toText }
        return [.text old]
      | [_, _, _, t] =>
        let t ← scalarOf fuel t
        let ms := (Value.truncated (t.toFloat * 1000)).toNat
        modify fun b => { b with waitedMs := b.waitedMs + ms }
        return [.whole 0]
      | _ => return [.text (← get).selected]
    else if name == "sleep" then do
      let n ← scalarOf fuel first
      modify fun b => { b with waitedMs := b.waitedMs + 1000 * n.toInt.toNat }
      return [.whole n.toInt]
    else if name == "time" then do return [.whole ((← get).scene.files.now / 1000000)]
    else if name == "system" || name == "exec" || name == "qx" then do
      let vs ← listOf fuel (.list args)
      let words := match vs with
        | [v] => commandWords v.toText
        | vs => vs.map Value.toText
      match ← started words (name == "qx") with
      | none =>
        modify (·.setScalar "?" (.whole (-1)))
        return [if name == "qx" then .absent else if name == "exec" then .text "" else .whole (-1)]
      | some (status, text) =>
        if name == "exec" then throw (.exit status)
        modify (·.setScalar "?" (.whole (256 * status)))
        if name == "system" then return [.whole (256 * status)]
        else if wants then return (byteLines text.toBytes).map fun l => .text (Raw.ofBytes l)
        else return [.text text]
    else if name == "kill" then do
      let vs ← listOf fuel (.list args)
      let spec := (nth vs 0).toText
      let signal := if spec.toList.all Char.isDigit then numberOf spec.toList
        else (["HUP", "INT", "QUIT", "ILL", "TRAP", "ABRT", "BUS", "FPE", "KILL", "USR1", "SEGV", "USR2", "PIPE",
          "ALRM", "TERM"].idxOf (if spec.startsWith "SIG" then String.ofList (spec.toList.drop 3) else spec)) + 1
      if vs.tail.any fun v => v.toInt == 4242 then
        if signal = 0 then return [.whole 1] else throw (.killed signal)
      else return [.whole 0]
    else if name == "unlink" then do
      let vs ← listOf fuel (.list args)
      let b ← get
      let (files, n) := vs.foldl (fun ((files, n) : Files × Nat) v =>
        match ({ b.scene with files } : Scene).reachName v.toText with
        | .ok r => if r.node.isDirectory then (files, n) else (files.remove r.loc, n + 1)
        | .error _ => (files, n)) (b.scene.files, 0)
      set { b with scene := { b.scene with files } }
      return [.whole (n : Nat)]
    else if name == "mkdir" then do
      let path ← scalarOf fuel first
      let b ← get
      match b.scene.reachName path.toText, b.scene.place path.toText with
      | .error _, .ok loc =>
        set { b with scene := { b.scene with files := b.scene.files.create loc .directory b.scene.directoryMode } }
        return yes true
      | .ok _, _ =>
        set { b with failure := 17 }
        return yes false
      | _, .error e =>
        set { b with failure := failureNumber (reason e) }
        return yes false
    else
      modify fun b => { b with line := if line = 0 then b.line else line }
      fail ("Undefined subroutine &main::" ++ name ++ " called")

/-- Runs statements in order, and gives the value of the last. -/
def runAll : Nat → Bool → List Stmt → Act (List Value)
  | 0, _, _ => throw .tired
  | _ + 1, _, [] => return []
  | fuel + 1, wants, [s] => runOne fuel wants s
  | fuel + 1, wants, s :: rest => do
    let _ ← runOne fuel false s
    runAll fuel wants rest

def runOne : Nat → Bool → Stmt → Act (List Value)
  | 0, _, _ => throw .tired
  | fuel + 1, wants, s => do
    step
    match s with
    | .run line e =>
      modify fun b => { b with line }
      if wants then listOf fuel e else return [← scalarOf fuel e]
    | .branch c yes no =>
      within do
        let v ← scalarOf fuel c
        if v.isTrue then within (runAll fuel wants yes)
        else if no.isEmpty then return [v]
        else within (runAll fuel wants no)
    | .loop label c body next =>
      loopOn fuel label c body next
      return []
    | .again body c =>
      againOn fuel body c
      return []
    | .each label _ name values body =>
      let items ← elementsOf fuel values
      within do
        modify (·.keep (.scalar name))
        eachOf fuel label name items body
        return []
    | .block label body =>
      let _ ← roundOf label (do
        let _ ← within (runAll fuel wants body)
        return ())
      return []
    | .define _ _ => return []

/-- Runs a loop as long as its condition holds. -/
def loopOn : Nat → Raw → Option Expr → List Stmt → Option Expr → Act Unit
  | 0, _, _, _, _ => throw .tired
  | fuel + 1, label, c, body, next => do
    step
    let goesOn ← within do
      let holds ← match c with
        | some c => do pure (← scalarOf fuel c).isTrue
        | none => pure true
      if !holds then return false
      else
        let more ← roundOf label (do
          let _ ← within (runAll fuel false body)
          return ())
        if !more then return false
        else
          match next with
          | some e =>
            let _ ← scalarOf fuel e
            return true
          | none => return true
    if goesOn then loopOn fuel label c body next else return ()

/-- Runs a block, and again as long as a condition holds. -/
def againOn : Nat → List Stmt → Expr → Act Unit
  | 0, _, _ => throw .tired
  | fuel + 1, body, c => do
    step
    let _ ← within (runAll fuel false body)
    if (← scalarOf fuel c).isTrue then againOn fuel body c else return ()

/-- The values of a list with the places where they are kept, if they are variables. -/
def elementsOf : Nat → Expr → Act (List (Value × Option Target))
  | 0, _ => throw .tired
  | fuel + 1, e =>
    match e with
    | .list es => do
      let parts ← es.mapM (elementsOf fuel)
      return parts.flatten
    | .row n => do
      let vs := (← get).row n
      return vs.zipIdx.map fun (v, i) => (v, some (.item n i))
    | .scalar n => return [((← get).scalar n, some (.scalar n))]
    | e => do
      let vs ← listOf fuel e
      return vs.map (·, none)

/-- Runs a block for each value of a list. A change of the variable changes what it stands for. -/
def eachOf : Nat → Raw → Raw → List (Value × Option Target) → List Stmt → Act Unit
  | 0, _, _, _, _ => throw .tired
  | _ + 1, _, _, [], _ => return ()
  | fuel + 1, label, name, (v, t) :: rest, body => do
    step
    modify (·.setScalar name v)
    let more ← roundOf label (do
      let _ ← within (runAll fuel false body)
      return ())
    match t with
    | some t =>
      let b ← get
      let new := b.scalar name
      if new.toText != v.toText then set (b.store t new)
    | none => pure ()
    if more then eachOf fuel label name rest body else return ()

end

end Host.Extract

end PolicyGate
