import PolicyGate.Text.Blank
import PolicyGate.Text.Lines

/-!
# Who is asking

Requests are counted per client. The key of a client is the first hop of its first
`x-forwarded-for` header, else its first `x-real-ip` header, else `local`. A header value with a
character outside printable ASCII and the tab is not readable and counts as absent.
-/

namespace PolicyGate

/-- The headers of a request, in order. Names are compared in any case of their letters. -/
abbrev Headers := List (String × String)

namespace Headers

/-- The first value under a lower-case name. -/
def first? (headers : Headers) (name : String) : Option String :=
  headers.findSome? fun h => if h.1.map Char.toLower = name then some h.2 else none

/-- Whether a value is text: printable ASCII and tabs. -/
def isReadable (value : String) : Bool :=
  value.toList.all fun c => c = '\t' || (' ' ≤ c && c ≤ '~')

/-- The first value under a name, if it is readable. -/
def text? (headers : Headers) (name : String) : Option (List Char) :=
  ((headers.first? name).filter isReadable).map String.toList

end Headers

namespace Client

/-- A value without the blanks at its ends, if anything is left. -/
def nonBlank? (value : List Char) : Option (List Char) :=
  match Text.trim value with
  | [] => none
  | c :: cs => some (c :: cs)

/-- What stands before the first comma. -/
def firstHop (value : List Char) : List Char := value.takeWhile (· ≠ ',')

/-- The key under which a client's requests are counted. -/
def key (headers : Headers) : String :=
  let forwarded := (headers.text? "x-forwarded-for").bind fun v => nonBlank? (firstHop v)
  let real := (headers.text? "x-real-ip").bind nonBlank?
  match forwarded.or real with
  | some cs => String.ofList cs
  | none => "local"

end Client

end PolicyGate
