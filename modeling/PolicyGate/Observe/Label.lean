/-!
# Labels

A time series is told apart by its labels. Labels given in another order are the same labels, so
they are kept sorted. A rendered label quotes its value: a backslash, a quote and a newline in it
are written with a backslash, and nothing else is.
-/

namespace PolicyGate

/-- A name and a value. -/
abbrev Label := String × String

namespace Label

/-- The order of labels: by name, then by value, both by code point. -/
def le (a b : Label) : Bool := a.1 < b.1 || (a.1 == b.1 && !(b.2 < a.2))

/-- The labels of a series in their order. -/
def sort (labels : List Label) : List Label := labels.mergeSort le

/-- A character of a quoted value. -/
def escapeChar : Char → List Char
  | '\\' => ['\\', '\\']
  | '"' => ['\\', '"']
  | '\n' => ['\\', 'n']
  | c => [c]

/-- The inside of a quoted value. -/
def escape (value : List Char) : List Char := value.flatMap escapeChar

/-- One label as it is written. -/
def render (l : Label) : String := l.1 ++ "=\"" ++ String.ofList (escape l.2.toList) ++ "\""

/-- Labels as they are written, without the brackets around them. -/
def renderAll (labels : List Label) : String := ",".intercalate (labels.map render)

end Label

end PolicyGate
