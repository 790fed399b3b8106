import PolicyGate.Host.Calendar
import PolicyGate.Host.Tool.Basic

/-!
# The tool that tells the time

It shows the present moment, one that is written in its arguments or in a file, or the one at which a
file has changed, in a form that is asked for.
-/

namespace PolicyGate

namespace Host.Tool

/-- Letters that stand for options with long names only. -/
def resolutionLetter : Char := '\x01'
def debugLetter : Char := '\x02'
def exactLetter : Char := '\x03'

def dateKnown : Known :=
  { tool := "date", plain := "Ru\x01\x02", withArgument := "dfrs\x03", optional := "I"
    long := [("date", 'd'), ("file", 'f'), ("iso-8601", 'I'), ("reference", 'r'), ("rfc-email", 'R'),
      ("rfc-822", 'R'), ("rfc-2822", 'R'), ("rfc-3339", exactLetter), ("set", 's'), ("utc", 'u'),
      ("uct", 'u'), ("universal", 'u'), ("resolution", resolutionLetter), ("debug", debugLetter)] }

/-- The form in which a moment is shown if none is asked for. -/
def usualForm : String := "%a %b %e %H:%M:%S %Z %Y"

/-- The names of how exact a moment is shown, with the forms that they stand for. -/
def exactness (day separator fraction : String) : List (String × String) :=
  let upTo (rest : String) : String := day ++ separator ++ rest ++ "%:z"
  [("hours", upTo "%H"), ("minutes", upTo "%H:%M"), ("date", day), ("seconds", upTo "%H:%M:%S"),
    ("ns", upTo ("%H:%M:%S" ++ fraction ++ "%N"))]

/-- The form that a name asks for, which may be cut short, or a complaint. -/
def exactForm (option : String) (forms : List (String × String)) (name : Raw) : Except Ran String :=
  match forms.filter fun f => f.1.startsWith name with
  | [f] => .ok f.2
  | found =>
    match forms.lookup name with
    | some f => .ok f
    | none =>
      .error (dateKnown.refuse ((if found.isEmpty then "invalid" else "ambiguous") ++ " argument '" ++ name ++
        "' for '--" ++ option ++ "'\nValid arguments are:" ++
        String.join (forms.map fun f => "\n  - '" ++ f.1 ++ "'")))

/-- The form that an option asks for, if it asks for one. -/
def askedForm? (g : Char × Raw) : Option (Except Ran String) :=
  match g with
  | ('R', _) => some (.ok "%a, %d %b %Y %H:%M:%S %z")
  | ('I', "") => some (.ok "%Y-%m-%d")
  | ('I', name) => some (exactForm "iso-8601" (exactness "%Y-%m-%d" "T" ",") name)
  | (letter, name) =>
    if letter = exactLetter then
      some (exactForm "rfc-3339" ((exactness "%Y-%m-%d" " " ".").drop 2) name)
    else none

/-- A moment written as `MMDDhhmm[[CC]YY][.ss]`. -/
def clockStamp? (now : Int) (r : Raw) : Option (Int × Nat) :=
  let parts := r.splitOn "."
  let cs := (parts.head?.getD "").toList
  let second := ((parts[1]?).getD "00").toList
  let n (a : Nat) : Nat := numeral ((cs.drop a).take 2)
  let year : Option Int := match cs.length with
    | 8 => some (Date.ofSeconds now 0).year
    | 10 => some (Date.fullYear (cs.drop 8))
    | 12 => some (numeral (cs.drop 8) : Nat)
    | _ => none
  if !cs.all Char.isDigit || !second.all Char.isDigit || second.length != 2 || 2 < parts.length then none
  else
    year.bind fun year =>
      let d : Date :=
        { year, month := n 0, day := n 2, hour := n 4, minute := n 6, second := numeral second }
      if 1 ≤ d.month && d.month ≤ 12 && 1 ≤ d.day && d.day ≤ Date.daysIn year d.month && d.hour < 24 &&
          d.minute < 60 && d.second ≤ 60 then some (d.seconds, 0) else none

/-- A moment in a form, or a complaint about the text that should have told it. -/
def showMoment (form : String) (text : Raw) (moment : Option (Int × Nat)) : Bool × List UInt8 :=
  match moment with
  | some (s, n) => (false, Raw.toBytes (Raw.ofText ((Date.ofSeconds s n).format form ++ "\n")))
  | none => complaint ("date: invalid date " ++ quoted text)

/-- Shows the moments of some texts. -/
def showMoments (form : String) (texts : List (Raw × Option (Int × Nat))) : Ran :=
  { writes := texts.map fun (text, moment) => showMoment form text moment
    status := if texts.all (·.2.isSome) then 0 else 1 }

/-- The form in which moments are shown, and an operand that is no form. -/
def formOf (o : Options) : Except Ran (String × Option Raw) := do
  let asked ← (o.given.filterMap askedForm?).mapM id
  if 1 < asked.length then throw (complain "date: multiple output formats specified" 1)
  let dated := "dfrs".toList.any o.has
  match o.operands with
  | _ :: extra :: _ => throw (dateKnown.refuse ("extra operand " ++ quoted extra))
  | [a] =>
    if a.startsWith "+" then
      if !asked.isEmpty then throw (complain "date: multiple output formats specified" 1)
      return (Raw.toText (String.ofList (a.toList.drop 1)), none)
    else if dated then
      throw (dateKnown.refuse ("the argument '" ++ a ++ "' lacks a leading '+';\nwhen using an option to " ++
        "specify date(s), any non-option\nargument must be a format string beginning with '+'"))
    else return (asked.head?.getD usualForm, some a)
  | [] => return (asked.head?.getD usualForm, none)

def date (s : Scene) (args : List Raw) : Ran :=
  dateKnown.run args fun o =>
    let now := Date.secondsOf s.files.now
    let sources := ("dfr".toList.filter o.has).length + if o.has resolutionLetter then 1 else 0
    if 1 < sources then
      dateKnown.refuse "the options to specify dates for printing are mutually exclusive"
    else if 0 < sources && o.has 's' then
      dateKnown.refuse "the options to print and set the time may not be used together"
    else
      match formOf o with
      | .error r => r
      | .ok (form, stamp) =>
        match stamp, o.value? 's', o.value? 'd', o.value? 'f', o.value? 'r' with
        | some a, _, _, _, _ => showMoments form [(a, clockStamp? now a)]
        | _, some text, _, _, _ | _, _, some text, _, _ =>
          showMoments form [(text, Date.parse? now text)]
        | _, _, _, some path, _ =>
          match contents? s path with
          | .error e => complain ("date: " ++ path ++ ": " ++ e) 1
          | .ok t =>
            reading [path] (showMoments form ((plainLines t.bytes).map fun l => (l, Date.parse? now l)))
        | _, _, _, _, some path =>
          match s.reach path with
          | .error e => complain ("date: " ++ path ++ ": " ++ reason e) 1
          | .ok r =>
            let moment := r.node.modified
            showMoments form [(path, some (Date.secondsOf moment, ((moment % 1000000) * 1000).toNat))]
        | _, _, _, _, _ =>
          if o.has resolutionLetter then said "0.000000001\n" 0
          else
            let moment := s.files.now
            showMoments form [("now", some (Date.secondsOf moment, ((moment % 1000000) * 1000).toNat))]

end Host.Tool

end PolicyGate
