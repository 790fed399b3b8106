import PolicyGate.Host.Calendar
import PolicyGate.Host.Shell.RichCommand
import PolicyGate.Host.Tool.Say

/-!
# Commands of the rich notation that write

`echo` knows escapes if it is asked, and `printf` can give what it writes to a variable.
-/

namespace PolicyGate

namespace Host.Shell

namespace State

/-- Writes something as a command, which fails if there is nothing to write it to. -/
def utter (s : State) (command : Raw) (bytes : List UInt8) : State :=
  if bytes.isEmpty then s
  else
    match s.loss? with
    | some why => s.refuse command ("write error: " ++ why) 1
    | none => s.writeTo 1 bytes

def richEcho (s : State) (args : List Raw) : State :=
  let options := (args.takeWhile Tool.isEchoOption).flatMap fun a => a.toList.drop 1
  let words := args.dropWhile Tool.isEchoOption
  let asked := (options.filter fun c => c == 'e' || c == 'E').getLast?
  let escapes := asked == some 'e' || (asked.isNone && s.riches.settings.contains "xpg_echo")
  let text := " ".intercalate words
  let (bytes, ended) := if escapes then unescapeAt .rich .words text.toList
    else (Raw.toBytes text, false)
  (s.withStatus 0).utter "echo" (if options.contains 'n' || ended then bytes else bytes ++ [0x0A])

/-- A moment, given in seconds from the start of all time, in a form. -/
def momentText (s : State) (arg form : Raw) : Raw :=
  let now := Date.secondsOf s.clock
  let n := match integer? arg with
    | some n => if n < 0 then now else n
    | none => now
  Raw.ofText ((Date.ofSeconds n 0).format (Raw.toText (if form.isEmpty then "%X" else form)))

/-- The name and the place of a word such as `a[1]`. -/
def splitPlace (word : Raw) : Raw × Option Raw :=
  let name := String.ofList (word.toList.takeWhile (· != '['))
  if name.length < word.length && word.endsWith "]" then
    (name, some (String.ofList ((word.toList.drop (name.length + 1)).dropLast)))
  else (word, none)

/-- The key that the text of a place stands for. -/
def keyOf? (s : State) (name place : Raw) : Except Raw Raw :=
  if (s.items? name).any Items.isTable then .ok place
  else
    match RichSum.value s.sumNames place with
    | .error f => .error f.message
    | .ok (n, _) =>
      let n := if n < 0 then n + (((s.items? name).map Items.bound).getD 0 : Nat) else n
      if n < 0 then .error (name ++ "[" ++ place ++ "]: bad array subscript") else .ok (toString n)

/-- Gives a value to the variable, or the place in one, that a word names. -/
def giveWord? (s : State) (word : Raw) (adds : Bool) (value : Raw) : Except Raw State :=
  match splitPlace word with
  | (name, none) => s.give? name none adds value
  | (name, some place) =>
    match s.keyOf? name place with
    | .ok key => s.give? name (some key) adds value
    | .error e => .error e

def isPlaceName (word : Raw) : Bool := isName (splitPlace word).1

def richPrintf (s : State) (args : List Raw) : State :=
  s.withOptions "printf" "" "v" false args fun g =>
    match g.words with
    | [] => s.showUsage "printf"
    | form :: rest =>
      match g.value? 'v' with
      | some name =>
        if !isPlaceName name then s.refuse "printf" ("\x60" ++ name ++ "': not a valid identifier") 2
        else
          let (bytes, complaints, counts) := richFormat Quote.word s.momentText form rest
          let s := complaints.foldl (fun s c => s.refuse "printf" c 1) s
          match s.giveWord? name false (Raw.ofBytes (bytes.filter (· != 0))) with
          | .ok t => t.withStatus (if counts then 1 else 0)
          | .error e => s.refuse "printf" e 1
      | none =>
        let (bytes, complaints, counts) := richFormat Quote.word s.momentText form rest
        let s := (complaints.foldl (fun s c => s.refuse "printf" c 1) s).withStatus (if counts then 1 else 0)
        s.utter "printf" bytes

end State

end Host.Shell

end PolicyGate
