import PolicyGate.Host.Raw

/-!
# Dates

A moment is counted in seconds from the beginning of 1970, and has a date in the calendar. Dates are
written by formats, and read in the ways in which people write them. All times are universal.
-/

namespace PolicyGate

namespace Host

structure Date where
  year : Int
  month : Nat
  day : Nat
  hour : Nat := 0
  minute : Nat := 0
  second : Nat := 0
  nanosecond : Nat := 0
  deriving DecidableEq, Repr

namespace Date

/-! ## Counting days -/

/-- The number of days from the beginning of 1970 to a date. Years start in March here, so that the
day that some years have more comes last. -/
def daysOf (year : Int) (month day : Nat) : Int :=
  let y := if month ≤ 2 then year - 1 else year
  let era := y / 400
  let yoe := y - era * 400
  let m : Int := if 2 < month then (month : Int) - 3 else (month : Int) + 9
  let doy := (153 * m + 2) / 5 + (day : Int) - 1
  let doe := yoe * 365 + yoe / 4 - yoe / 100 + doy
  era * 146097 + doe - 719468

/-- The date of a day. -/
def ofDays (days : Int) : Int × Nat × Nat :=
  let z := days + 719468
  let era := z / 146097
  let doe := z - era * 146097
  let yoe := (doe - doe / 1460 + doe / 36524 - doe / 146096) / 365
  let doy := doe - (365 * yoe + yoe / 4 - yoe / 100)
  let mp := (5 * doy + 2) / 153
  let day := doy - (153 * mp + 2) / 5 + 1
  let month := if mp < 10 then mp + 3 else mp - 9
  (yoe + era * 400 + (if month ≤ 2 then 1 else 0), month.toNat, day.toNat)

def seconds (d : Date) : Int :=
  daysOf d.year d.month d.day * 86400 + (d.hour * 3600 + d.minute * 60 + d.second : Nat)

def ofSeconds (s : Int) (nanosecond : Nat) : Date :=
  let (year, month, day) := ofDays (s / 86400)
  let rest := (s % 86400).toNat
  { year, month, day, hour := rest / 3600, minute := rest / 60 % 60, second := rest % 60, nanosecond }

/-- The day of the week, Sunday being 0. -/
def weekday (d : Date) : Nat := ((daysOf d.year d.month d.day + 4) % 7).toNat

/-- The day of the year, from 0 on. -/
def yearday (d : Date) : Nat := (daysOf d.year d.month d.day - daysOf d.year 1 1).toNat

def isLeap (y : Int) : Bool := y % 4 == 0 && (y % 100 != 0 || y % 400 == 0)

def daysIn (y : Int) (month : Nat) : Nat :=
  if month = 2 then (if isLeap y then 29 else 28)
  else if [4, 6, 9, 11].contains month then 30 else 31

/-- The week that a day lies in and the year of that week. Weeks start on Mondays, and the first has
the first Thursday of the year. -/
def week (d : Date) : Int × Nat :=
  let monday (y : Int) : Int :=
    let fourth := daysOf y 1 4
    fourth - (fourth + 3) % 7
  let day := daysOf d.year d.month d.day
  let year := if day < monday d.year then d.year - 1
    else if monday (d.year + 1) ≤ day then d.year + 1 else d.year
  (year, ((day - monday year) / 7 + 1).toNat)

/-! ## Names -/

def months : List String :=
  ["January", "February", "March", "April", "May", "June", "July", "August", "September", "October",
    "November", "December"]

def weekdays : List String :=
  ["Sunday", "Monday", "Tuesday", "Wednesday", "Thursday", "Friday", "Saturday"]

def short (name : String) : String := String.ofList (name.toList.take 3)

def monthName (d : Date) : String := (months[d.month - 1]?).getD ""
def weekdayName (d : Date) : String := (weekdays[d.weekday]?).getD ""

/-! ## Writing -/

/-- A number in a field of some width. -/
def field (fill : Option Char) (width : Nat) (n : Int) : String :=
  let digits := (toString n.natAbs).toList
  let sign := if n < 0 then ['-'] else []
  match fill with
  | none => String.ofList (sign ++ digits)
  | some c =>
    let room := width - digits.length - sign.length
    String.ofList (if c == '0' then sign ++ List.replicate room c ++ digits
      else List.replicate room c ++ sign ++ digits)

mutual

/-- What a letter of a format stands for, given what fills up numbers and the width asked for. -/
def letterText : Nat → Date → Option (Option Char) → Option Nat → Char → Option String
  | 0, _, _, _, _ => none
  | fuel + 1, d, fill, width, c =>
    let num (w : Nat) (n : Int) : Option String :=
      some (field (fill.getD (some '0')) (width.getD w) n)
    let blank (w : Nat) (n : Int) : Option String :=
      some (field (fill.getD (some ' ')) (width.getD w) n)
    let hour12 := if d.hour % 12 = 0 then 12 else d.hour % 12
    match c with
    | 'Y' => num 4 d.year
    | 'C' => num 2 (d.year / 100)
    | 'y' => num 2 (d.year % 100)
    | 'm' => num 2 d.month
    | 'd' => num 2 d.day
    | 'e' => blank 2 d.day
    | 'H' => num 2 d.hour
    | 'I' => num 2 hour12
    | 'k' => blank 2 d.hour
    | 'l' => blank 2 hour12
    | 'M' => num 2 d.minute
    | 'S' => num 2 d.second
    | 'N' =>
      let digits := (toString (1000000000 + d.nanosecond)).toList.drop 1
      some (String.ofList (digits.take (width.getD 9)))
    | 's' => num 1 d.seconds
    | 'j' => num 3 (d.yearday + 1 : Nat)
    | 'u' => num 1 (if d.weekday = 0 then 7 else d.weekday : Nat)
    | 'w' => num 1 d.weekday
    | 'U' => num 2 ((d.yearday + 7 - d.weekday) / 7 : Nat)
    | 'W' => num 2 ((d.yearday + 7 - (d.weekday + 6) % 7) / 7 : Nat)
    | 'V' => num 2 d.week.2
    | 'G' => num 4 d.week.1
    | 'g' => num 2 (d.week.1 % 100)
    | 'q' => num 1 ((d.month + 2) / 3 : Nat)
    | 'a' => some (short d.weekdayName)
    | 'A' => some d.weekdayName
    | 'b' | 'h' => some (short d.monthName)
    | 'B' => some d.monthName
    | 'p' => some (if d.hour < 12 then "AM" else "PM")
    | 'P' => some (if d.hour < 12 then "am" else "pm")
    | 'Z' => some "UTC"
    | 'z' => some "+0000"
    | 'n' => some "\n"
    | 't' => some "\t"
    | '%' => some "%"
    | 'D' | 'x' => some (formatted fuel d "%m/%d/%y".toList)
    | 'F' => some (formatted fuel d "%Y-%m-%d".toList)
    | 'T' | 'X' => some (formatted fuel d "%H:%M:%S".toList)
    | 'R' => some (formatted fuel d "%H:%M".toList)
    | 'r' => some (formatted fuel d "%I:%M:%S %p".toList)
    | 'c' => some (formatted fuel d "%a %b %e %H:%M:%S %Y".toList)
    | _ => none

/-- A date in a format. -/
def formatted : Nat → Date → List Char → String
  | 0, _, _ => ""
  | _ + 1, _, [] => ""
  | fuel + 1, d, '%' :: cs =>
    let flags := cs.takeWhile fun c => "-_0^#+".toList.contains c
    let rest := cs.drop flags.length
    let digits := rest.takeWhile Char.isDigit
    let after := rest.drop digits.length
    let colons := (after.takeWhile (· == ':')).length
    let after := after.dropWhile fun c => c == ':' || c == 'E' || c == 'O'
    let width := if digits.isEmpty then none
      else some (digits.foldl (fun (n : Nat) c => n * 10 + (c.toNat - 48)) 0)
    let fill : Option (Option Char) :=
      match flags.reverse.find? fun c => c == '-' || c == '_' || c == '0' with
      | some '-' => some none
      | some '_' => some (some ' ')
      | some _ => some (some '0')
      | none => none
    match after with
    | [] => String.ofList ('%' :: cs)
    | c :: more =>
      let text := if c == 'z' && 0 < colons then some (if colons = 1 then "+00:00" else "+00:00:00")
        else letterText fuel d fill width c
      match text with
      | none => "%" ++ String.ofList (cs.take (cs.length - more.length)) ++ formatted fuel d more
      | some t =>
        let t := if flags.contains '^' then String.ofList (t.toList.map Char.toUpper)
          else if flags.contains '#' then
            (if c == 'p' || c == 'Z' then String.ofList (t.toList.map Char.toLower)
              else String.ofList (t.toList.map Char.toUpper))
          else t
        let room := width.getD 0 - t.length
        String.ofList (List.replicate (if c == 'N' then 0 else room) ' ') ++ t ++ formatted fuel d more
  | fuel + 1, d, c :: cs => c.toString ++ formatted fuel d cs

end

def format (d : Date) (form : String) : String := formatted (2 * form.length + 40) d form.toList

/-! ## Reading -/

/-- A piece of a written date: digits, letters, or a sign of their own. -/
inductive Piece where
  | digits (cs : List Char)
  | letters (name : String)
  | sign (c : Char)
  | gap
  deriving DecidableEq, Repr

def pieces : Nat → List Char → List Piece
  | 0, _ => []
  | _ + 1, [] => []
  | fuel + 1, c :: cs =>
    if c.isDigit then
      let ds := (c :: cs).takeWhile Char.isDigit
      .digits ds :: pieces fuel ((c :: cs).drop ds.length)
    else if c.isAlpha then
      let ls := (c :: cs).takeWhile fun c => c.isAlpha || c == '.'
      .letters (String.ofList ((ls.filter (· != '.')).map Char.toLower)) ::
        pieces fuel ((c :: cs).drop ls.length)
    else if c == ' ' || c == '\t' || c == ',' || c == '\n' then
      .gap :: pieces fuel (cs.dropWhile fun c => c == ' ' || c == '\t' || c == ',' || c == '\n')
    else .sign c :: pieces fuel cs

/-- What has been read of a date. -/
structure Reading where
  date : Date
  /-- Seconds and months that are added at the end. -/
  later : Int := 0
  monthsLater : Int := 0
  /-- How many times, days with a date and zones have been read. There may be one of each. -/
  times : Nat := 0
  dates : Nat := 0
  zones : Nat := 0
  /-- Whether something is told by how far it is from now. -/
  moved : Bool := false
  /-- The day of the week that is meant, and which one of those that follow or precede. -/
  weekday : Option (Nat × Int) := none
  absolute : Option (Int × Nat) := none

def natOf (cs : List Char) : Nat := cs.foldl (fun (n : Nat) c => n * 10 + (c.toNat - 48)) 0

def nanosOf (cs : List Char) : Nat := natOf ((cs ++ List.replicate 9 '0').take 9)

/-- The seconds or the months in a unit. -/
def unit? (name : String) : Option (Int × Int) :=
  let one := if name.endsWith "s" && 1 < name.length then String.ofList (name.toList.dropLast) else name
  ([("second", (1, 0)), ("sec", (1, 0)), ("minute", (60, 0)), ("min", (60, 0)), ("hour", (3600, 0)),
    ("day", (86400, 0)), ("week", (604800, 0)), ("fortnight", (1209600, 0)), ("month", (0, 1)),
    ("year", (0, 12))] : List (String × Int × Int)).lookup one

/-- The place of a name in a list of names that may be cut to three letters. -/
def named? (names : List String) (name : String) : Option Nat :=
  names.findIdx? fun n =>
    let n := String.ofList (n.toList.map Char.toLower)
    n == name || String.ofList (n.toList.take 3) == name || (name == "sept" && n == "september")

def Reading.shift (r : Reading) (sign : Int) (count : Int) (unit : Int × Int) : Reading :=
  { r with
    later := r.later + sign * count * unit.1
    monthsLater := r.monthsLater + sign * count * unit.2, moved := true }

/-- The seconds that a named zone is ahead. A single letter names a zone too. -/
def zone? (name : String) : Option Int :=
  let hours : List (String × Int) :=
    [("utc", 0), ("gmt", 0), ("ut", 0), ("uct", 0), ("wet", 0), ("west", 1), ("bst", 1), ("cet", 1),
      ("met", 1), ("cest", 2), ("eet", 2), ("eest", 3), ("msk", 3), ("sgt", 8), ("jst", 9), ("art", -3),
      ("brt", -3), ("ast", -4), ("adt", -3), ("est", -5), ("edt", -4), ("cst", -6), ("cdt", -5),
      ("mst", -7), ("mdt", -6), ("pst", -8), ("pdt", -7), ("akst", -9), ("akdt", -8), ("hst", -10)]
  match name.toList with
  | [c] =>
    let i : Int := (c.toNat : Int) - 96
    if c == 'z' then some 0
    else if c == 'j' || !c.isLower then none
    else if i < 10 then some (i * 3600)
    else if i ≤ 13 then some ((i - 1) * 3600)
    else some ((13 - i) * 3600)
  | _ => (hours.lookup name).map (· * 3600)

def Reading.inZone (r : Reading) (ahead : Int) : Reading :=
  { r with later := r.later - ahead, zones := r.zones + 1 }

def Reading.atTime (r : Reading) (hour minute second nanosecond : Nat) : Option Reading :=
  if hour < 24 && minute < 60 && second < 60 then
    some { r with date := { r.date with hour, minute, second, nanosecond }, times := r.times + 1 }
  else none

def Reading.onDay (r : Reading) (year : Int) (month day : Nat) : Option Reading :=
  if 1 ≤ month && month ≤ 12 && 1 ≤ day && day ≤ daysIn year month then
    some { r with date := { r.date with year, month, day }, dates := r.dates + 1 }
  else none

/-- What digits without a sign or a unit say: a day in eight of them, or a time. Behind a day and a time
four of them are a year. -/
def Reading.withDigits (r : Reading) (n : List Char) : Option Reading :=
  if n.length = 8 && r.dates = 0 then
    r.onDay (natOf (n.take 4)) (natOf ((n.drop 4).take 2)) (natOf (n.drop 6))
  else if n.length = 4 && 0 < r.dates && 0 < r.times then
    some { r with date := { r.date with year := natOf n } }
  else if n.length = 4 then r.atTime (natOf (n.take 2)) (natOf (n.drop 2)) 0 0
  else if n.length ≤ 2 then r.atTime (natOf n) 0 0 0
  else none

/-- A year of two digits lies between 1969 and 2068. -/
def fullYear (cs : List Char) : Int :=
  let n := natOf cs
  if cs.length ≤ 2 then (if n < 69 then 2000 + n else 1900 + n : Nat) else (n : Int)

/-- Hours on a clock of twelve. -/
def withHalf (hour : Nat) (half : String) : Nat :=
  if half == "pm" then (if hour = 12 then 12 else hour + 12) else if hour = 12 then 0 else hour

/-- The half of the day that is told behind a time, and what is behind it. -/
def halfBehind (ps : List Piece) : Option (String × List Piece) :=
  let isHalf (w : String) : Bool := w == "am" || w == "pm"
  match ps with
  | .gap :: .letters w :: rest | .letters w :: rest => if isHalf w then some (w, rest) else none
  | _ => none

/-- How far ahead a zone is that is written with a sign, as hours, as hours and minutes in one number, or
with a colon in between. It is a day at most. -/
def offset? (sign : Char) (hours : List Char) (minutes : Option (List Char)) : Option Int :=
  let n := natOf hours
  let total : Nat := match minutes with
    | some m => n * 60 + natOf m
    | none => if hours.length ≤ 2 then n * 60 else n / 100 * 60 + n % 100
  if 1440 < total then none
  else if sign == '-' then some (-(60 * total : Nat) : Int)
  else if sign == '+' then some (60 * total : Nat)
  else none

/-- Pieces in which no gap is left between a sign and its number. -/
def closedSigns : List Piece → List Piece
  | .sign s :: .gap :: .digits n :: ps =>
    if s == '+' || s == '-' || s == '@' then .sign s :: .digits n :: closedSigns ps
    else .sign s :: .gap :: .digits n :: closedSigns ps
  | p :: ps => p :: closedSigns ps
  | [] => []

/-- Reads a zone that stands behind a time. A number with a sign is one, whatever follows it. -/
def zoneBehind (r : Reading) (ps : List Piece) : Option (Reading × List Piece) :=
  let behind := match ps with
    | .gap :: qs => qs
    | qs => qs
  match behind with
  | .sign '.' :: _ | .sign ':' :: _ | .sign '/' :: _ => some (r, ps)
  | .sign s :: .digits h :: .sign ':' :: .digits m :: rest => do
    return (r.inZone (← offset? s h (some m)), rest)
  | .sign s :: .digits h :: rest => do return (r.inZone (← offset? s h none), rest)
  | _ => some (r, ps)

/-- Reads what stands behind the name of a zone: a number with a sign and without a unit moves it. -/
def zoneMoved (r : Reading) (ps : List Piece) : Option (Reading × List Piece) :=
  let isUnit (u : String) : Bool := (unit? u).isSome
  let behind := match ps with
    | .gap :: qs => qs
    | qs => qs
  match behind with
  | .sign _ :: .digits _ :: .gap :: .letters u :: _ | .sign _ :: .digits _ :: .letters u :: _ =>
    if isUnit u then some (r, ps) else none
  | .sign s :: .digits h :: .sign ':' :: .digits m :: rest => do
    return ({ r with later := r.later - (← offset? s h (some m)) }, rest)
  | .sign s :: .digits h :: rest => do
    return ({ r with later := r.later - (← offset? s h none) }, rest)
  | _ => some (r, ps)

def signOf? (s : Char) : Option Int := if s == '-' then some (-1) else if s == '+' then some 1 else none

/-- Moves a reading by a counted unit, back if that was so long ago. -/
def counted (r : Reading) (sign : Int) (n : List Char) (unit : Int × Int) (ps : List Piece) :
    Reading × List Piece :=
  match ps with
  | .gap :: .letters "ago" :: ps => (r.shift (-sign) (natOf n) unit, ps)
  | ps => (r.shift sign (natOf n) unit, ps)

/-- Reads a number in front of a unit, or of the name of a month. -/
def numbered (r : Reading) (n : List Char) (u : String) (ps : List Piece) :
    Option (Reading × List Piece) :=
  match unit? u, named? months u with
  | some unit, _ => some (counted r 1 n unit ps)
  | none, some month => do
    match ps with
    | .gap :: .digits y :: .sign ':' :: ps =>
      return (← r.onDay r.date.year (month + 1) (natOf n), .digits y :: .sign ':' :: ps)
    | .gap :: .digits y :: ps => return (← r.onDay (fullYear y) (month + 1) (natOf n), ps)
    | ps => return (← r.onDay r.date.year (month + 1) (natOf n), ps)
  | none, none => none

/-- Reads pieces one after another. -/
def readPieces : Nat → Reading → List Piece → Option Reading
  | 0, _, _ => none
  | _ + 1, r, [] => some r
  | fuel + 1, r, .gap :: ps => readPieces fuel r ps
  -- years, months and days
  | fuel + 1, r, .digits y :: .sign '-' :: .digits m :: .sign '-' :: .digits d :: ps => do
    let r ← r.onDay (fullYear y) (natOf m) (natOf d)
    match ps with
    | .letters "t" :: ps => readPieces fuel r ps
    | ps => readPieces fuel r ps
  | fuel + 1, r, .digits a :: .sign '/' :: .digits b :: .sign '/' :: .digits c :: ps => do
    let r ← if 3 ≤ a.length then r.onDay (natOf a) (natOf b) (natOf c)
      else r.onDay (fullYear c) (natOf a) (natOf b)
    readPieces fuel r ps
  | fuel + 1, r, .digits b :: .sign '/' :: .digits c :: ps => do
    readPieces fuel (← r.onDay r.date.year (natOf b) (natOf c)) ps
  -- times
  | fuel + 1, r, .digits h :: .sign ':' :: .digits m :: .sign ':' :: .digits s :: .sign '.' ::
      .digits f :: ps => do
    let (r, ps) ← zoneBehind (← r.atTime (natOf h) (natOf m) (natOf s) (nanosOf f)) ps
    readPieces fuel r ps
  | fuel + 1, r, .digits h :: .sign ':' :: .digits m :: .sign ':' :: .digits s :: ps => do
    match halfBehind ps with
    | some (half, ps) => readPieces fuel (← r.atTime (withHalf (natOf h) half) (natOf m) (natOf s) 0) ps
    | none =>
      let (r, ps) ← zoneBehind (← r.atTime (natOf h) (natOf m) (natOf s) 0) ps
      readPieces fuel r ps
  | fuel + 1, r, .digits h :: .sign ':' :: .digits m :: ps => do
    match halfBehind ps with
    | some (half, ps) => readPieces fuel (← r.atTime (withHalf (natOf h) half) (natOf m) 0 0) ps
    | none =>
      let (r, ps) ← zoneBehind (← r.atTime (natOf h) (natOf m) 0 0) ps
      readPieces fuel r ps
  -- counted units with a sign
  | fuel + 1, r, .sign s :: .digits n :: .gap :: .letters u :: ps => do
    let (r, ps) := counted r (← signOf? s) n (← unit? u) ps
    readPieces fuel r ps
  | fuel + 1, r, .sign s :: .digits n :: .letters u :: ps => do
    let (r, ps) := counted r (← signOf? s) n (← unit? u) ps
    readPieces fuel r ps
  -- seconds from the beginning
  | fuel + 1, r, .sign '@' :: .sign '-' :: .digits n :: ps =>
    readPieces fuel { r with absolute := some (-(natOf n : Int), 0) } ps
  | fuel + 1, r, .sign '@' :: .digits n :: .sign '.' :: .digits f :: ps =>
    readPieces fuel { r with absolute := some (natOf n, nanosOf f) } ps
  | fuel + 1, r, .sign '@' :: .digits n :: ps =>
    readPieces fuel { r with absolute := some (natOf n, 0) } ps
  -- counted units, and days with the names of months
  | fuel + 1, r, .digits n :: .gap :: .letters u :: ps =>
    match numbered r n u ps with
    | some (r, ps) => readPieces fuel r ps
    | none => do readPieces fuel (← r.withDigits n) (.letters u :: ps)
  | fuel + 1, r, .digits n :: .sign '-' :: .letters u :: .sign '-' :: .digits y :: ps => do
    let month ← named? months u
    readPieces fuel (← r.onDay (fullYear y) (month + 1) (natOf n)) ps
  | fuel + 1, r, .digits n :: .letters u :: ps =>
    if u == "am" || u == "pm" then do
      readPieces fuel (← r.atTime (withHalf (natOf n) u) 0 0 0) ps
    else
      match numbered r n u ps with
      | some (r, ps) => readPieces fuel r ps
      | none => do readPieces fuel (← r.withDigits n) (.letters u :: ps)
  | fuel + 1, r, .letters w :: ps =>
    match named? months w, ps with
    | some month, .gap :: .digits d :: .gap :: .digits y :: ps => do
      match ps with
      | .sign ':' :: _ =>
        readPieces fuel (← r.onDay r.date.year (month + 1) (natOf d)) (.digits y :: ps)
      | _ => readPieces fuel (← r.onDay (fullYear y) (month + 1) (natOf d)) ps
    | some month, .gap :: .digits d :: ps => do
      readPieces fuel (← r.onDay r.date.year (month + 1) (natOf d)) ps
    | some _, _ => none
    | none, ps =>
      match named? weekdays w with
      | some day =>
        if r.weekday.isSome then none else readPieces fuel { r with weekday := some (day, 0) } ps
      | none =>
        if w == "now" || w == "today" then readPieces fuel { r with moved := true } ps
        else if w == "yesterday" then readPieces fuel (r.shift (-1) 1 (86400, 0)) ps
        else if w == "tomorrow" then readPieces fuel (r.shift 1 1 (86400, 0)) ps
        else if w == "next" || w == "last" || w == "this" then
          let sign : Int := if w == "next" then 1 else if w == "last" then -1 else 0
          match ps with
          | .gap :: .letters u :: ps =>
            match unit? u, named? weekdays u with
            | some unit, _ => readPieces fuel (r.shift sign 1 unit) ps
            | none, some day => readPieces fuel { r with weekday := some (day, sign) } ps
            | none, none => none
          | _ => none
        else
          match unit? w with
          | some unit =>
            match ps with
            | .gap :: .letters "ago" :: ps => readPieces fuel (r.shift (-1) 1 unit) ps
            | ps => readPieces fuel (r.shift 1 1 unit) ps
          | none =>
            match zone? w with
            | some ahead => do
              let (r, ps) ← zoneMoved (r.inZone ahead) ps
              readPieces fuel r ps
            | none => none
  -- digits alone
  | fuel + 1, r, .digits n :: ps => do readPieces fuel (← r.withDigits n) ps
  | _ + 1, _, .sign _ :: _ => none

/-- Adds months to a date. A day that the month does not have runs into the next. -/
def addMonths (d : Date) (n : Int) : Date :=
  let total := d.year * 12 + (d.month : Int) - 1 + n
  { d with year := total / 12, month := (total % 12).toNat + 1 }

/-- The moment that a text means, in seconds and nanoseconds, given the moment at which it is read. -/
def parse? (now : Int) (text : Raw) : Option (Int × Nat) := do
  let cs := text.toList
  let today := ofSeconds now 0
  let r ← readPieces (2 * cs.length + 8) { date := today } (closedSigns (pieces (cs.length + 1) cs))
  if 1 < r.times || 1 < r.dates || 1 < r.zones then none
  match r.absolute with
  | some (s, n) =>
    if 0 < r.times || 0 < r.dates || 0 < r.zones || r.weekday.isSome || r.moved then none
    else return (s + r.later, n)
  | none =>
    let timed := 0 < r.times || (r.moved && r.dates = 0 && r.weekday.isNone)
    let d := if timed then r.date else { r.date with hour := 0, minute := 0, second := 0 }
    let d := d.addMonths r.monthsLater
    let ahead : Int := match r.weekday with
      | some (w, which) =>
        let step := ((w : Int) - (d.weekday : Int)) % 7
        if 0 < r.dates then 0
        else (step + 7 * (which - if 0 < which && step != 0 then 1 else 0)) * 86400
      | none => 0
    return (d.seconds + r.later + ahead, d.nanosecond)

/-- The moment at which every host starts. -/
def hostStart : Int := 1760000000

/-- The seconds of a moment of a host, which is counted in microseconds from its start. -/
def secondsOf (moment : Int) : Int := hostStart + moment / 1000000

/-- The date of a moment of a host. -/
def ofMoment (moment : Int) : Date :=
  ofSeconds (secondsOf moment) ((moment % 1000000).toNat * 1000)

end Date

end Host

end PolicyGate
