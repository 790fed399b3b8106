import PolicyGate.Host.Shell.Builtin
import PolicyGate.Host.Shell.RichOutput

/-!
# Commands of the rich notation that read

`read` takes a text up to a mark, or so many characters, and `mapfile` the lines of a text into a row.
-/

namespace PolicyGate

namespace Host.Shell

namespace State

/-- How a text is taken from an input. -/
structure Taking where
  /-- The byte that ends it. -/
  mark : UInt8 := 0x0A
  /-- The most characters. -/
  most : Option Nat := none
  /-- Whether no byte ends it. -/
  exact : Bool := false
  /-- Whether backslashes mean nothing. -/
  keeps : Bool := false

/-- Takes characters from some bytes: the characters and whether each is quoted, whether their end has
been found, and how many bytes have been used. -/
def Taking.scan (t : Taking) : Nat → Pattern.Marked → Nat → List UInt8 → Pattern.Marked × Bool × Nat
  | 0, done, used, _ => (done.reverse, false, used)
  | fuel + 1, done, used, bytes =>
    if t.most == some done.length then (done.reverse, true, used)
    else
      match bytes with
      | [] => (done.reverse, false, used)
      | b :: bs =>
        if b == t.mark && !t.exact then (done.reverse, true, used + 1)
        else if b == 0x5C && !t.keeps then
          match bs with
          | [] => (done.reverse, false, used + 1)
          | 0x0A :: rest => t.scan fuel done (used + 2) rest
          | c :: rest => t.scan fuel ((Char.ofNat c.toNat, true) :: done) (used + 2) rest
        else if b == 0 then t.scan fuel done (used + 1) bs
        else t.scan fuel ((Char.ofNat b.toNat, false) :: done) (used + 1) bs

/-- Takes a text from an input of some number. -/
def take (s : State) (t : Taking) (number : Nat) : Pattern.Marked × Bool × State :=
  match s.inputs.lookup number with
  | none => ([], false, s)
  | some i =>
    let bytes := i.feed.toStream.unroll 100000
    let (cs, ended, used) := t.scan (bytes.length + 1) [] 0 bytes
    let moment := if ended then i.feed.readyAt used else i.feed.readyAt (used + 1)
    (cs, ended, (s.await moment).setFeed number (i.feed.drop used))

/-- The fields of a line. -/
def lineFields (s : State) (line : Pattern.Marked) : List Raw :=
  let pieces := line.map fun (c, q) => Piece.text c.toString (if q then .quoted else .expanded)
  (Fields.ofPieces s.separators pieces).map plainText

/-- Gives words their values, or complains as a command. -/
def giveWords (s : State) (command : Raw) (given : List (Raw × Raw)) : State :=
  given.foldl (fun s (n, v) =>
    match s.giveWord? n false v with
    | .ok t => t
    | .error e => if command == "read" then s.complain e 1 else s.refuse command e 1) s

/-- Makes a variable a row of values. -/
def giveRow (s : State) (name : Raw) (items : Items) : State :=
  let name := s.real name
  let v := (s.stored? name).getD { value := none }
  if v.readOnly then s.complain (name ++ ": readonly variable") 1
  else s.putVariable name { v with value := some "", items := some items }

/-- The number of an input that a command is to read, or what is wrong with it. -/
def inputOf (s : State) (command : Raw) (spec : Option Raw) : Except State (Option Nat) :=
  match spec with
  | none => .ok ((s.input? 0).map (·.1))
  | some spec =>
    if !Tool.isNumeral spec then
      .error (s.refuse command (spec ++ ": invalid file descriptor specification") 1)
    else
      let d := Tool.numeral spec.toList
      if (s.handle? d).isNone then
        .error (s.refuse command (spec ++ ": invalid file descriptor: Bad file descriptor") 1)
      else .ok ((s.input? d).map (·.1))

def richRead (s : State) (args : List Raw) : State :=
  s.withOptions "read" "ers" "adinNptu" false args fun g =>
    let badTime := (g.value? 't').filter fun t => (Tool.durationMs? t).isNone
    let count := (g.value? 'N').or (g.value? 'n')
    let badCount := count.filter fun c => !Tool.isNumeral c
    let badName := g.words.find? fun n => !isPlaceName n
    match badTime, badCount, badName with
    | some t, _, _ => s.refuse "read" (t ++ ": invalid timeout specification") 1
    | _, some c, _ => s.refuse "read" (c ++ ": invalid number") 1
    | _, _, some n => s.refuse "read" ("\x60" ++ n ++ "': not a valid identifier") 1
    | none, none, none =>
      match s.inputOf "read" (g.value? 'u') with
      | .error s => s
      | .ok number =>
        let exact := (g.value? 'N').isSome
        let mark : UInt8 := match g.value? 'd' with
          | some d => UInt8.ofNat ((d.toList.head?.map Char.toNat).getD 0)
          | none => 0x0A
        let t : Taking :=
          { mark, exact, most := count.map fun c => Tool.numeral c.toList, keeps := g.has 'r' }
        if (g.value? 't').bind Tool.durationMs? == some 0 then s.withStatus 0
        else
          let (line, ended, s) := match number with
            | some n => s.take t n
            | none => ([], false, s)
          if !s.running then s
          else
            let separators := s.separators.toList
            let s := s.withStatus (if ended then 0 else 1)
            match g.value? 'a' with
            | some name =>
              if !isName name then s.refuse "read" ("\x60" ++ name ++ "': not a valid identifier") 1
              else s.giveRow name (.ofList (s.lineFields line))
            | none =>
              match g.words with
              | [] => s.giveWords "read" [("REPLY", plainText line)]
              | names =>
                if exact then
                  s.giveWords "read" ((names.zip (plainText line :: names.map fun _ => "")))
                else
                  let values := lineValues separators names.length (line.dropWhile (isGap separators))
                  s.giveWords "read" (names.zip values)

/-- Takes the lines of a text into a row. -/
def mapfile (command : Raw) (s : State) (args : List Raw) : State :=
  s.withOptions command "t" "dnOsuCc" false args fun g =>
    let number (c : Char) (what : Raw) : Except Raw (Option Nat) :=
      match g.value? c with
      | none => .ok none
      | some v => if Tool.isNumeral v then .ok (some (Tool.numeral v.toList)) else .error (v ++ ": invalid " ++ what)
    let name := g.words.head?.getD "MAPFILE"
    match number 'n' "line count", number 'O' "array origin", number 's' "line count" with
    | .error e, _, _ | _, .error e, _ | _, _, .error e => s.refuse command e 1
    | .ok most, .ok origin, .ok skipped =>
      if !isName name then s.refuse command ("\x60" ++ name ++ "': not a valid identifier") 1
      else
        match s.inputOf command (g.value? 'u') with
        | .error s => s
        | .ok input =>
          let (bytes, s) := match input.bind fun n => (s.inputs.lookup n).map (n, ·) with
            | some (n, i) =>
              let all := i.feed.toStream.bytes
              (all, (s.await i.feed.ends).setFeed n (i.feed.drop all.length))
            | none => ([], s)
          let mark : UInt8 := match g.value? 'd' with
            | some d => UInt8.ofNat ((d.toList.head?.map Char.toNat).getD 0)
            | none => 0x0A
          let lines := (linesEndedBy mark bytes).drop (skipped.getD 0)
          let lines := match most with
            | some n => if n = 0 then lines else lines.take n
            | none => lines
          let texts := lines.map fun l =>
            let l := if g.has 't' && l.getLast? == some mark then l.dropLast else l
            Raw.ofBytes (l.filter (· != 0))
          let start := origin.getD 0
          let old : List (Nat × Raw) := match origin, s.items? name with
            | some _, some (.row vs) => vs
            | _, _ => []
          let values := (texts.zipIdx start).foldl (fun vs (v, n) => Items.putAt n v vs) old
          (s.withStatus 0).giveRow name (.row values)

end State

end Host.Shell

end PolicyGate
