import PolicyGate.Host.Scan.Desk

/-!
# Running scanning programs

Rules are applied to one record after another. A complaint ends the run. The first argument of each function
bounds how deep the program goes.
-/

namespace PolicyGate

namespace Host.Scan

def fatal {α : Type} (r : Raw) : Act α := throw (.fatal r)

/-- Ends the run with a complaint that says where it is. -/
def fault {α : Type} (what : Raw) : Act α := do
  throw (.fatal ("run time error: " ++ what ++ (← get).whereabouts))

def patternOf (r : Raw) : Act Regex :=
  match compiled? r with
  | some p => pure p
  | none => fatal ("run time error: regular expression compile failed\n" ++ r)

/-- The order of two values: by number if both count as numbers, and else by text. -/
def ordered (d : Desk) (a b : Value) : Option Ordering :=
  match a.plainNumber?, b.plainNumber? with
  | some x, some y => if x < y then some .lt else if y < x then some .gt else if x == y then some .eq else none
  | _, _ =>
    let x := d.textOf a
    let y := d.textOf b
    some (if x < y then .lt else if x == y then .eq else .gt)

def compared (op : String) (o : Option Ordering) : Bool :=
  match op, o with
  | "<", some .lt | ">", some .gt | "==", some .eq => true
  | "<=", some o => o != .gt
  | ">=", some o => o != .lt
  | "!=", o => o != some .eq
  | _, _ => false

/-- The remainder of a division, with the sign of the first number. -/
def remainder (x y : Float) : Float :=
  if x.isNaN || y.isNaN || x.isInf || y == 0 then 0.0 / 0.0
  else if y.isInf then x
  else
    match whole? x, whole? y with
    | some a, some b => Float.ofInt (Int.tmod a b)
    | _, _ =>
      let q := (x / y).abs.floor
      let r := x.abs - q * y.abs
      if x < 0 then -r else r

def worked (op : String) (x y : Float) : Float :=
  match op with
  | "+" => x + y
  | "-" => x - y
  | "*" => x * y
  | "/" => x / y
  | "%" => remainder x y
  | _ => Float.pow x y

/-- What a replacement puts in the place of a part that fits. -/
def replacement (fitted : List Char) : List Char → List Char
  | '\\' :: '&' :: cs => '&' :: replacement fitted cs
  | '\\' :: '\\' :: '&' :: cs => '\\' :: (fitted ++ replacement fitted cs)
  | '&' :: cs => fitted ++ replacement fitted cs
  | c :: cs => c :: replacement fitted cs
  | [] => []

/-- A part of a text from a place on, by numbers that are cut to whole ones. A place before the first
makes a longer part of it, which starts at the first. -/
def portion (text : List Char) (start : Float) (count : Option Float) : List Char :=
  let first := Value.truncated start
  let size : Int := match count with
    | some n => if n.isInf && 0 < n then text.length else Value.truncated n
    | none => text.length
  let (first, size) := if first < 0 then (1, size - first) else (max first 1, size)
  (text.drop (first - 1).toNat).take size.toNat

/-- Runs a command. -/
def started (command : Raw) (taken : Bool) : Act (Option (Nat × List UInt8)) := do
  modify Desk.flush
  let d ← get
  match d.scene.launch d.scene.files d.scene.input ["/bin/sh", "-c", command] with
  | .error _ => return none
  | .ok r =>
    set (d.after r taken)
    if r.hangs then throw .tired
    return some (r.status, ((r.writes.filter (!·.1)).map (·.2)).flatten)

/-- Runs one round of a loop, and tells whether the next may follow. -/
def roundOf (x : Act Unit) : Act Bool :=
  tryCatch (do
    x
    return true) fun e =>
      match e with
      | .goOn => pure true
      | .stop => pure false
      | e => throw e

/-- Fills a format. -/
def filled (what : Raw) (vs : List Value) : Act Raw := do
  let d ← get
  let form := d.textOf (vs.head?.getD (.text ""))
  match formatted d.textOf (form.length + 1) form.toList vs.tail with
  | some cs => return String.ofList cs
  | none => fault ("not enough arguments passed to " ++ what ++ "(\"" ++ form ++ "\")")

mutual

def eval : Nat → Expr → Act Value
  | 0, _ => throw .tired
  | fuel + 1, e => do
    match e with
    | .number x => return .number x
    | .text r => return .text r
    | .pattern r => do
      let p ← patternOf r
      return .ofBool (Regex.search (subjectOf (← get).record) p 0).isSome
    | .var n => return (← get).var n
    | .field e => do
      let i ← fieldNumber fuel e
      return (← get).field i
    | .item t keys => do
      let (key, isWhole) ← keyOf fuel keys
      let d ← get
      match (d.table t).find? key with
      | some v =>
        if !isWhole then set (d.setTable t ((d.table t).put key false v))
        return v
      | none =>
        set (d.setTable t ((d.table t).put key isWhole .unset))
        return .unset
    | .assigned op t v =>
      if op == "=" then do
        let x ← eval fuel v
        store fuel t x
        return x
      else do
        let x ← eval fuel v
        let old ← eval fuel t
        let new := Value.number (worked (String.ofList op.toList.dropLast) old.toFloat x.toFloat)
        store fuel t new
        return new
    | .choice c a b => do
      if (← eval fuel c).isTrue then eval fuel a else eval fuel b
    | .and a b => do
      if (← eval fuel a).isTrue then return .ofBool (← eval fuel b).isTrue else return .ofBool false
    | .or a b => do
      if (← eval fuel a).isTrue then return .ofBool true else return .ofBool (← eval fuel b).isTrue
    | .not a => do return .ofBool (!(← eval fuel a).isTrue)
    | .has keys t => do
      let (key, _) ← keyOf fuel keys
      return .ofBool (((← get).table t).find? key).isSome
    | .fits negated a b => do
      let text ← textOf fuel a
      let p ← patternOf (← searchedText fuel b)
      return .ofBool ((Regex.search (subjectOf text) p 0).isSome != negated)
    | .binary op a b => do
      let x ← eval fuel a
      let y ← eval fuel b
      if comparing.contains op then return .ofBool (compared op (ordered (← get) x y))
      else return .number (worked op x.toFloat y.toFloat)
    | .joined a b => do
      let x ← textOf fuel a
      let y ← textOf fuel b
      return .text (x ++ y)
    | .minus a => do return .number (-(← eval fuel a).toFloat)
    | .plus a => do return .number (← eval fuel a).toFloat
    | .stepped after up t => do
      let old := (← eval fuel t).toFloat
      let new := if up then old + 1 else old - 1
      store fuel t (.number new)
      return .number (if after then new else old)
    | .group es =>
      match es with
      | [a] => eval fuel a
      | es => do
        let texts ← es.mapM (textOf fuel)
        return .text (((← get).varText "SUBSEP").intercalate texts)
    | .call name args => call fuel name args
    | .builtin name args => builtin fuel name args
    | .read target source => readLine fuel target source

def textOf : Nat → Expr → Act Raw
  | 0, _ => throw .tired
  | fuel + 1, e => do
    let v ← eval fuel e
    return (← get).textOf v

/-- The text of an expression that something is searched for. -/
def searchedText : Nat → Expr → Act Raw
  | 0, _ => throw .tired
  | fuel + 1, e =>
    match e with
    | .pattern r | .group [.pattern r] => return r
    | e => textOf fuel e

def fieldNumber : Nat → Expr → Act Nat
  | 0, _ => throw .tired
  | fuel + 1, e => do
    let v ← eval fuel e
    let i := v.toInt
    if i < 0 then fault ("negative field index $" ++ toString i) else return i.toNat

/-- The key that some values make, and whether it is a whole number. -/
def keyOf : Nat → List Expr → Act (Raw × Bool)
  | 0, _ => throw .tired
  | fuel + 1, keys =>
    match keys with
    | [a] => do
      let v ← eval fuel a
      let isWhole := match v with
        | .number x => (whole? x).isSome
        | _ => false
      return ((← get).textOf v, isWhole)
    | keys => do
      let texts ← keys.mapM (textOf fuel)
      return (((← get).varText "SUBSEP").intercalate texts, false)

/-- Gives something a value. -/
def store : Nat → Expr → Value → Act Unit
  | 0, _, _ => throw .tired
  | fuel + 1, t, v =>
    match t with
    | .var n => modify (·.setVar n v)
    | .field e => do
      let i ← fieldNumber fuel e
      modify (·.setField i v)
    | .item t keys => do
      let (key, isWhole) ← keyOf fuel keys
      modify fun d => d.setTable t ((d.table t).put key isWhole v)
    | .group [a] => store fuel a v
    | _ => return ()

/-- Reads a record, and tells whether there was one. -/
def readLine : Nat → Option Expr → Source → Act Value
  | 0, _, _ => throw .tired
  | fuel + 1, target, source => do
    step
    let give (r : Raw) : Act Unit :=
      match target with
      | some t => store fuel t (.field r)
      | none => modify (·.setRecord r)
    match source with
    | .main =>
      match Desk.readMain 100000 (← get) with
      | .error e => throw e
      | .ok (line, d) =>
        set d
        match line with
        | some r =>
          give r
          return .number 1
        | none => return .number 0
    | .file path =>
      let name ← textOf fuel path
      let d ← get
      let opened : Option Stream := match d.readers.lookup name with
        | some s => some s
        | none => if name == "-" || name == "/dev/stdin" then some d.scene.input
          else (Tool.contents? d.scene name).toOption
      match opened with
      | none => return .number (-1)
      | some s => taken fuel target name s
    | .program command =>
      let name ← textOf fuel command
      match (← get).readers.lookup name with
      | some s => taken fuel target name s
      | none =>
        match ← started name true with
        | some (_, bytes) => taken fuel target name ⟨bytes, []⟩
        | none => return .number (-1)

/-- Takes a record from what is open under a name. -/
def taken : Nat → Option Expr → Raw → Stream → Act Value
  | 0, _, _, _ => throw .tired
  | fuel + 1, target, name, s => do
    match Desk.takeRecord ((← get).varText "RS") s with
    | none =>
      modify fun d => { d with readers := placedAt name { s with bytes := [] } d.readers }
      return .number 0
    | some (r, rest) =>
      modify fun d => { d with readers := placedAt name rest d.readers }
      match target with
      | some t => store fuel t (.field r)
      | none => modify (·.setRecord r)
      return .number 1

/-- Calls a function of the program. -/
def call : Nat → Raw → List Expr → Act Value
  | 0, _, _ => throw .tired
  | fuel + 1, name, args => do
    step
    let d ← get
    if callLimit ≤ d.calls then throw .tired
    match d.functions.find? (·.name == name) with
    | none => fatal ("function " ++ name ++ " never defined")
    | some f =>
      let given ← args.mapM fun a => do
        match a with
        | .var n =>
          let d ← get
          match d.frame.lookup n with
          | some l => return l
          | none =>
            if n != "NF" && (d.vars.lookup n).isNone then return .shared n else return .value (d.var n)
        | a => return Local.value (← eval fuel a)
      let d ← get
      let fresh := (List.range (f.params.length - given.length)).map fun k =>
        Local.shared ("\x00" ++ toString (d.nextTable + k))
      let old := d.frame
      set { d with
        frame := f.params.zip (given ++ fresh), calls := d.calls + 1
        nextTable := d.nextTable + fresh.length }
      let back : Act Unit := modify fun e =>
        { e with
          frame := old, calls := d.calls
          tables := e.tables.filter fun t => !fresh.any fun l => match l with
            | .shared n => n == t.1
            | _ => false }
      let v ← tryCatch (do
        runAll fuel f.body
        return .unset) fun e => do
          match e with
          | .gave v => return v
          | e => do
            back
            throw e
      back
      return v

def builtin : Nat → Raw → List Expr → Act Value
  | 0, _, _ => throw .tired
  | fuel + 1, name, args => do
    step
    let first : Expr := args.head?.getD (.field (.number 0))
    let real (f : Float → Float) : Act Value := do return .number (f (← eval fuel first).toFloat)
    if name == "length" then
      match first with
      | .var n =>
        let d ← get
        if (d.tables.lookup (d.tableName n)).isSome && (d.var n).toText "" == "" then
          return .ofNat (List.length (d.table n))
        else return .ofNat (d.varText n).length
      | e => return .ofNat (← textOf fuel e).length
    else if name == "substr" then do
      let r ← textOf fuel first
      let start := (← eval fuel ((args[1]?).getD (.number 1))).toFloat
      let count ← match args[2]? with
        | some e => do pure (some (← eval fuel e).toFloat)
        | none => pure none
      return .text (String.ofList (portion r.toList start count))
    else if name == "index" then do
      let r ← textOf fuel first
      let part ← textOf fuel ((args[1]?).getD (.text ""))
      let cs := r.toList
      let n := (List.range (cs.length + 1)).find? fun i => part.toList.isPrefixOf (cs.drop i)
      return .ofNat (match n with
        | some i => if part.isEmpty then (if cs.isEmpty then 0 else 1) else i + 1
        | none => 0)
    else if name == "split" then do
      let r ← textOf fuel first
      let separator ← match args[2]? with
        | some e => searchedText fuel e
        | none => do pure ((← get).varText "FS")
      let isPattern := match args[2]? with
        | some (.pattern _) => true
        | _ => false
      let parts : List Raw ← if isPattern then do
          let p ← patternOf separator
          pure (splitBy p r)
        else pure (fieldsBy separator r)
      let table : Option Expr := args[1]?
      match table with
      | some (.var t) =>
        let entries : Table := parts.zipIdx.map fun (p, i) => ⟨toString (i + 1), true, .field p⟩
        modify (·.setTable t entries)
        return .ofNat parts.length
      | _ => return .ofNat parts.length
    else if name == "sub" || name == "gsub" then do
      let p ← patternOf (← searchedText fuel first)
      let put ← textOf fuel ((args[1]?).getD (.text ""))
      let target : Expr := (args[2]?).getD (.field (.number 0))
      let r ← textOf fuel target
      let s := subjectOf r
      let found := if name == "gsub" then findAll s p (s.chars.size + 2) 0 none
        else (Regex.search s p 0).toList
      if found.isEmpty then return .number 0
      else
        let (done, from_) : Raw × Nat := found.foldl (fun (done, i) f =>
          (done ++ slice s.chars i f.start ++
            String.ofList (replacement (slice s.chars f.start f.stop).toList put.toList), f.stop)) ("", 0)
        store fuel target (.text (done ++ slice s.chars from_ s.chars.size))
        return .ofNat found.length
    else if name == "match" then do
      let r ← textOf fuel first
      let p ← patternOf (← searchedText fuel ((args[1]?).getD (.text "")))
      let (start, size) : Int × Int := match Regex.search (subjectOf r) p 0 with
        | some f => (f.start + 1, f.stop - f.start)
        | none => (0, -1)
      modify fun d => (d.setVar "RSTART" (.ofInt start)).setVar "RLENGTH" (.ofInt size)
      return .ofInt start
    else if name == "sprintf" then do
      let vs ← args.mapM (eval fuel)
      return .text (← filled "sprintf" vs)
    else if name == "sin" then real Float.sin
    else if name == "cos" then real Float.cos
    else if name == "exp" then real Float.exp
    else if name == "log" then real Float.log
    else if name == "sqrt" then real Float.sqrt
    else if name == "int" then
      real fun x => if x.isNaN || x.isInf then x else if x < 0 then x.ceil else x.floor
    else if name == "atan2" then do
      let y := (← eval fuel first).toFloat
      let x := (← eval fuel ((args[1]?).getD (.number 0))).toFloat
      return .number (Float.atan2 y x)
    else if name == "tolower" || name == "toupper" then do
      let r ← textOf fuel first
      return .text (String.ofList (r.toList.map (if name == "tolower" then Char.toLower else Char.toUpper)))
    else if name == "system" then do
      let command ← textOf fuel first
      match ← started command false with
      | some (n, _) => return .ofNat n
      | none => return .number (-1)
    else if name == "close" then do
      let r ← textOf fuel first
      let (status, d) := (← get).close r
      set d
      return .ofInt (status.getD (-1))
    else if name == "fflush" then do
      modify Desk.flush
      return .number 0
    else if name == "systime" then do
      return .ofInt ((← get).scene.files.now / 1000000)
    else if name == "rand" then return .number 0.5
    else return .number 0

def runAll : Nat → List Stmt → Act Unit
  | 0, _ => throw .tired
  | _ + 1, [] => return ()
  | fuel + 1, s :: rest => do
    run fuel s
    runAll fuel rest

def run : Nat → Stmt → Act Unit
  | 0, _ => throw .tired
  | fuel + 1, s => do
    step
    match s with
    | .run e =>
      let _ ← eval fuel e
      return ()
    | .print es sink =>
      let vs ← es.mapM (eval fuel)
      let d ← get
      let text := if es.isEmpty then d.record else (d.varText "OFS").intercalate (vs.map d.shownText)
      written fuel sink (text ++ d.varText "ORS")
    | .printf es sink =>
      let vs ← es.mapM (eval fuel)
      let text ← filled "printf" vs
      written fuel sink text
    | .branch c yes no =>
      if (← eval fuel c).isTrue then runAll fuel yes else runAll fuel no
    | .loop c body next => loopOn fuel c body next
    | .again body c => againOn fuel body c
    | .each v t body =>
      let keys := ((← get).table t).keys
      eachOf fuel v keys body
    | .block body => runAll fuel body
    | .next => throw .next
    | .nextFile => throw .nextFile
    | .exit e =>
      match e with
      | some e =>
        let v ← eval fuel e
        throw (.exit (some ((v.toInt % 256).toNat)))
      | none => throw (.exit none)
    | .give e =>
      match e with
      | some e => throw (.gave (← eval fuel e))
      | none => throw (.gave .unset)
    | .stop => throw .stop
    | .goOn => throw .goOn
    | .remove t keys =>
      match keys with
      | some keys =>
        let (key, _) ← keyOf fuel keys
        modify fun d => d.setTable t ((d.table t).without key)
      | none => modify (·.setTable t [])

def loopOn : Nat → Option Expr → List Stmt → List Stmt → Act Unit
  | 0, _, _, _ => throw .tired
  | fuel + 1, c, body, next => do
    step
    let holds ← match c with
      | some c => do pure (← eval fuel c).isTrue
      | none => pure true
    if holds then
      if ← roundOf (runAll fuel body) then
        runAll fuel next
        loopOn fuel c body next
      else return ()
    else return ()

def againOn : Nat → List Stmt → Expr → Act Unit
  | 0, _, _ => throw .tired
  | fuel + 1, body, c => do
    step
    if ← roundOf (runAll fuel body) then
      if (← eval fuel c).isTrue then againOn fuel body c else return ()
    else return ()

def eachOf : Nat → Raw → List Raw → List Stmt → Act Unit
  | 0, _, _, _ => throw .tired
  | _ + 1, _, [], _ => return ()
  | fuel + 1, v, key :: keys, body => do
    step
    modify (·.setVar v (.text key))
    if ← roundOf (runAll fuel body) then eachOf fuel v keys body else return ()

/-- Writes a text. -/
def written : Nat → Sink → Raw → Act Unit
  | 0, _, _ => throw .tired
  | fuel + 1, sink, text => do
    match sink with
    | .output => modify fun d => { d with pending := text :: d.pending }
    | .file path append =>
      let name ← textOf fuel path
      let d ← get
      if (d.writers.lookup name).isSome then set (d.write name text)
      else
        match d.openFile name append with
        | .ok d => set (d.write name text)
        | .error why => fatal ("cannot open \"" ++ name ++ "\" for output (" ++ why ++ ")")
    | .program command =>
      let name ← textOf fuel command
      let d ← get
      let d := if (d.writers.lookup name).isSome then d
        else { d with writers := d.writers ++ [(name, .program [])] }
      set (d.write name text)

end

/-! ## Rules -/

/-- How deep programs go at most. -/
def programDepth : Nat := 100000000

/-- Whether a rule applies to the record. -/
def applies (w : When) : Act Bool := do
  match w with
  | .first | .last => return false
  | .always => return true
  | .holds e => return (← eval programDepth e).isTrue
  | .between place a b =>
    let isOpen := (← get).ranges.contains place
    if !isOpen && !(← eval programDepth a).isTrue then return false
    else
      modify fun d => { d with ranges := place :: d.ranges.filter (· != place) }
      if (← eval programDepth b).isTrue then
        modify fun d => { d with ranges := d.ranges.filter (· != place) }
      return true

/-- Applies all rules to the record. -/
def applyAll : List (When × Option (List Stmt)) → Act Unit
  | [] => return ()
  | (w, body) :: rest => do
    if ← applies w then
      match body with
      | some b => runAll programDepth b
      | none => run programDepth (.print [] .output)
    applyAll rest

/-- Applies the rules to one record after another. -/
def scan (rules : List (When × Option (List Stmt))) : Nat → Act Unit
  | 0 => throw .tired
  | fuel + 1 => do
    step
    match Desk.readMain 100000 (← get) with
    | .error e => throw e
    | .ok (none, d) => set d
    | .ok (some r, d) =>
      set (d.setRecord r)
      tryCatch (applyAll rules) fun e =>
        match e with
        | .next => pure ()
        | .nextFile => modify fun d => { d with main := some .empty }
        | e => throw e
      scan rules fuel

/-- Runs the rules that come first or last. -/
def runEdge : List (When × Option (List Stmt)) → Act Unit
  | [] => return ()
  | (_, body) :: rest => do
    runAll programDepth (body.getD [])
    runEdge rest

end Host.Scan

end PolicyGate
