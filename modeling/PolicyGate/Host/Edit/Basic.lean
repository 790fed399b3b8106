import PolicyGate.Host.Raw
import PolicyGate.Host.Regex.Basic

/-!
# Edit scripts

An edit script is a list of commands that is run on every line of a text. A command may be bound to
lines by one or two addresses. Blocks are kept flat: an opening command knows how many commands lie
before its end.
-/

namespace PolicyGate

namespace Host.Edit

/-- A regular expression of a script, with the text it was read from. -/
structure Expression where
  regex : Regex
  text : Raw
  fold : Bool := false
  /-- Whether the edges are those of lines. -/
  byLine : Bool := false
  deriving Repr

/-- A line, or some lines. -/
inductive Address where
  | number (n : Nat)
  | last
  /-- The lines with a part that fits. Without an expression, the one that was used last. -/
  | fitting (e : Option Expression)
  /-- Every so many lines from one on. -/
  | every (first step : Nat)
  deriving Repr

/-- Where a range of lines ends. -/
inductive Stop where
  | at (a : Address)
  /-- A number of lines later. -/
  | later (n : Nat)
  /-- At a line whose number is a multiple. -/
  | multiple (n : Nat)
  deriving Repr

/-- The lines that a command is for. -/
structure Scope where
  start : Option Address := none
  stop : Option Stop := none
  negated : Bool := false
  deriving Repr

/-- What becomes of the letters that are put in. -/
inductive LetterCase where
  | asIs
  | upper
  | lower
  deriving DecidableEq, Repr

/-- A piece of what is put in for a part that fits. -/
inductive Insert where
  | text (r : Raw)
  | group (n : Nat)
  | turn (c : LetterCase)
  /-- Turns the next letter only. -/
  | turnNext (c : LetterCase)
  deriving Repr

structure Substitution where
  /-- Without an expression, the one that was used last. -/
  pattern : Option Expression
  inserts : List Insert
  /-- What is put in, as it was written. -/
  written : Raw := ""
  /-- From which fit on parts are replaced, if that is said. -/
  nth : Option Nat := none
  all : Bool := false
  print : Bool := false
  /-- Whether the outcome is run as a command, and what that writes takes its place. -/
  runs : Bool := false
  /-- Whether it is shown before it is run. -/
  printFirst : Bool := false
  file : Option Raw := none
  deriving Repr

inductive Act where
  /-- A block of the commands up to its end, which are so many. -/
  | block (size : Nat)
  | blockEnd
  | label (name : Raw)
  | jump (name : Raw)
  | jumpIfReplaced (name : Raw)
  | jumpUnlessReplaced (name : Raw)
  | appendText (r : Raw)
  | insertText (r : Raw)
  | changeText (r : Raw)
  | delete
  | deleteFirstLine
  | print
  | printFirstLine
  | printNumber
  | printName
  | printVisibly (width : Option Nat)
  | next
  | appendNext
  | get
  | appendHeld
  | hold
  | appendToHeld
  | exchange
  | substitute (s : Substitution)
  | exchangeLetters (pairs : List (Char × Char))
  | readFile (path : Raw)
  /-- Reads one more line of a file. -/
  | readLine (path : Raw)
  | writeFile (path : Raw)
  | writeFirstLine (path : Raw)
  | zap
  /-- Runs a command, or the workspace as one. -/
  | execute (command : Raw)
  | quit (status : Option Nat) (silent : Bool)
  /-- A command that is no longer known. -/
  | obsolete (letter : Char)
  deriving Repr

structure Command where
  scope : Scope := {}
  act : Act
  deriving Repr

/-- Why a script cannot be read. -/
inductive Fault where
  | unknownCommand (c : Char)
  | missingCommand
  | unexpected (c : Char)
  | unterminatedAddress
  | lineZero
  | relativeFirst
  | unmatchedBrace
  | extraCharacters
  | expectedBackslash
  | differentLengths
  | unterminated (c : Char)
  | unknownFlag
  | repeatedFlag (c : Char)
  | zeroNumber
  | repeatedNumber
  | badReference (n : Nat)
  | oneAddress
  | noAddress
  | noAddressForEnd
  | noAddressForComments
  | emptyLabel
  | repeatedNegation
  | missingName
  | emptyWithFlags
  | nestedEscape
  | newerVersion
  | refused
  | pattern (message : Raw)
  deriving DecidableEq, Repr

def Fault.message : Fault → Raw
  | .unknownCommand c => "unknown command: \x60" ++ c.toString ++ "'"
  | .missingCommand => "missing command"
  | .unexpected c => "unexpected \x60" ++ c.toString ++ "'"
  | .unterminatedAddress => "unterminated address regex"
  | .lineZero => "invalid usage of line address 0"
  | .relativeFirst => "invalid usage of +N or ~N as first address"
  | .unmatchedBrace => "unmatched \x60\x7b'"
  | .extraCharacters => "extra characters after command"
  | .expectedBackslash => "expected \\ after \x60a', \x60c' or \x60i'"
  | .differentLengths => "strings for \x60y' command are different lengths"
  | .unterminated c => "unterminated \x60" ++ c.toString ++ "' command"
  | .unknownFlag => "unknown option to \x60s'"
  | .repeatedFlag c => "multiple \x60" ++ c.toString ++ "' options to \x60s' command"
  | .zeroNumber => "number option to \x60s' command may not be zero"
  | .repeatedNumber => "multiple number options to \x60s' command"
  | .badReference n => "invalid reference \\" ++ toString n ++ " on \x60s' command's RHS"
  | .oneAddress => "command only uses one address"
  | .noAddress => ": doesn't want any addresses"
  | .noAddressForEnd => "\x60\x7d' doesn't want any addresses"
  | .noAddressForComments => "comments don't accept any addresses"
  | .emptyLabel => "\":\" lacks a label"
  | .repeatedNegation => "multiple \x60!'s"
  | .missingName => "missing filename in r/R/w/W commands"
  | .emptyWithFlags => "cannot specify modifiers on empty regexp"
  | .nestedEscape => "recursive escaping after \\c not allowed"
  | .newerVersion => "expected newer version of sed"
  | .refused => "e/r/w commands disabled in sandbox mode"
  | .pattern m => m

end Host.Edit

end PolicyGate
