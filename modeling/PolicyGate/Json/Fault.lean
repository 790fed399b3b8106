import PolicyGate.Text.Quoted

/-!
# What is wrong with a JSON text

A reader that gives up says why and how many bytes were left. From that the place follows: the line,
counted from one, and the number of bytes passed on it.
-/

namespace PolicyGate.Json

open PolicyGate

/-- What was found where something else was expected. -/
inductive Found where
  | null
  | boolean (value : Bool)
  | integer (value : Int)
  /-- A number with a fraction, an exponent or too many digits, by its text. -/
  | float (text : String)
  | string (value : String)
  | array
  | object
  deriving DecidableEq, Repr

/-- Why reading stopped. -/
inductive Reason where
  | eofArray
  | eofObject
  | eofString
  | eofValue
  | expectedColon
  | expectedArrayEnd
  | expectedObjectEnd
  | expectedLiteral
  | expectedValue
  | invalidEscape
  | invalidNumber
  | numberOutOfRange
  | invalidScalar
  | controlCharacter
  | keyNotString
  | loneSurrogate
  | trailingComma
  | trailingCharacters
  | endOfHexEscape
  | tooDeep
  | wrongKind (found : Found) (expected : String)
  | duplicateMember (name : String)
  deriving DecidableEq, Repr

def Found.message : Found → String
  | .null => "null"
  | .boolean value => "boolean `" ++ (if value then "true" else "false") ++ "`"
  | .integer value => "integer `" ++ toString value ++ "`"
  | .float text => "floating point `" ++ text ++ "`"
  | .string value => "string " ++ Text.quoted value
  | .array => "sequence"
  | .object => "map"

def Reason.message : Reason → String
  | .eofArray => "EOF while parsing a list"
  | .eofObject => "EOF while parsing an object"
  | .eofString => "EOF while parsing a string"
  | .eofValue => "EOF while parsing a value"
  | .expectedColon => "expected `:`"
  | .expectedArrayEnd => "expected `,` or `]`"
  | .expectedObjectEnd => "expected `,` or `\x7d`"
  | .expectedLiteral => "expected ident"
  | .expectedValue => "expected value"
  | .invalidEscape => "invalid escape"
  | .invalidNumber => "invalid number"
  | .numberOutOfRange => "number out of range"
  | .invalidScalar => "invalid unicode code point"
  | .controlCharacter => "control character (\\u0000-\\u001F) found while parsing a string"
  | .keyNotString => "key must be a string"
  | .loneSurrogate => "lone leading surrogate in hex escape"
  | .trailingComma => "trailing comma"
  | .trailingCharacters => "trailing characters"
  | .endOfHexEscape => "unexpected end of hex escape"
  | .tooDeep => "recursion limit exceeded"
  | .wrongKind found expected => "invalid type: " ++ found.message ++ ", expected " ++ expected
  | .duplicateMember name => "duplicate field `" ++ name ++ "`"

/-- A reader that gave up: why, and how many bytes it had not passed. -/
structure Stop where
  reason : Reason
  remaining : Nat
  deriving DecidableEq, Repr

namespace Stop

/-- Gives up in front of the rest. -/
def before (reason : Reason) (rest : List UInt8) : Stop := ⟨reason, rest.length⟩

/-- Gives up because of the first byte of the rest, which counts as passed. -/
def on (reason : Reason) (rest : List UInt8) : Stop := ⟨reason, rest.length - 1⟩

end Stop

/-- A reader's result: a value and the rest of the text. -/
abbrev Reading (α : Type) := Except Stop (α × List UInt8)

/-- Why a text could not be read, and where. -/
structure Fault where
  reason : Reason
  line : Nat
  column : Nat
  deriving DecidableEq, Repr

namespace Fault

/-- The place of a stop in the whole text. -/
def ofStop (text : List UInt8) (s : Stop) : Fault :=
  let passed := text.take (text.length - s.remaining)
  let onLine := passed.reverse.takeWhile (· ≠ 0x0A)
  ⟨s.reason, passed.count 0x0A + 1, onLine.length⟩

def message (f : Fault) : String :=
  f.reason.message ++ " at line " ++ toString f.line ++ " column " ++ toString f.column

end Fault

end PolicyGate.Json
