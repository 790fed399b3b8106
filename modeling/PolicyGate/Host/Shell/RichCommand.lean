import PolicyGate.Host.Shell.State

/-!
# Commands of the rich notation

What all commands of rich scripts share: how their options are read, and how they complain. Letters of
options may stand together behind one sign, and what comes behind the last option is left as it is.
-/

namespace PolicyGate

namespace Host.Shell

namespace RichCommand

/-- How each command is used. -/
def usages : List (Raw × Raw) :=
  [("alias", "alias [-p] [name[=value] ... ]"), ("bg", "bg [job_spec ...]"),
    ("builtin", "builtin [shell-builtin [arg ...]]"), ("caller", "caller [expr]"),
    ("cd", "cd [-L|[-P [-e]] [-@]] [dir]"), ("command", "command [-pVv] command [arg ...]"),
    ("declare",
      "declare [-aAfFgiIlnrtux] [name[=value] ...] or declare -p [-aAfFilnrtux] [name ...]"),
    ("dirs", "dirs [-clpv] [+N] [-N]"), ("disown", "disown [-h] [-ar] [jobspec ... | pid ...]"),
    ("enable", "enable [-a] [-dnps] [-f filename] [name ...]"), ("eval", "eval [arg ...]"),
    ("exec", "exec [-cl] [-a name] [command [argument ...]] [redirection ...]"),
    ("export", "export [-fn] [name[=value] ...] or export -p"), ("fg", "fg [job_spec]"),
    ("getopts", "getopts optstring name [arg ...]"),
    ("hash", "hash [-lr] [-p pathname] [-dt] [name ...]"), ("help", "help [-dms] [pattern ...]"),
    ("history", "history [-c] [-d offset] [n] or history -anrw [filename] or history -ps arg [arg...]"),
    ("jobs", "jobs [-lnprs] [jobspec ...] or jobs -x command [args]"),
    ("kill", "kill [-s sigspec | -n signum | -sigspec] pid | jobspec ... or kill -l [sigspec]"),
    ("let", "let arg [arg ...]"), ("local", "local [option] name[=value] ..."),
    ("mapfile", "mapfile [-d delim] [-n count] [-O origin] [-s count] [-t] [-u fd] [-C callback]" ++
      " [-c quantum] [array]"),
    ("readarray", "readarray [-d delim] [-n count] [-O origin] [-s count] [-t] [-u fd] [-C callback]" ++
      " [-c quantum] [array]"),
    ("popd", "popd [-n] [+N | -N]"), ("printf", "printf [-v var] format [arguments]"),
    ("pushd", "pushd [-n] [+N | -N | dir]"), ("pwd", "pwd [-LP]"),
    ("read", "read [-ers] [-a array] [-d delim] [-i text] [-n nchars] [-N nchars] [-p prompt]" ++
      " [-t timeout] [-u fd] [name ...]"),
    ("readonly", "readonly [-aAf] [name[=value] ...] or readonly -p"), ("return", "return [n]"),
    ("set", "set [-abefhkmnptuvxBCEHPT] [-o option-name] [--] [-] [arg ...]"),
    ("shift", "shift [n]"), ("shopt", "shopt [-pqsu] [-o] [optname ...]"),
    ("source", "source filename [arguments]"), (".", ". filename [arguments]"),
    ("suspend", "suspend [-f]"), ("trap", "trap [-lp] [[arg] signal_spec ...]"),
    ("type", "type [-afptP] name [name ...]"),
    ("typeset", "typeset [-aAfFgiIlnrtux] name[=value] ... or typeset -p [-aAfFilnrtux] [name ...]"),
    ("ulimit", "ulimit [-SHabcdefiklmnpqrstuvxPRT] [limit]"), ("umask", "umask [-p] [-S] [mode]"),
    ("unalias", "unalias [-a] name [name ...]"), ("unset", "unset [-f] [-v] [-n] [name ...]"),
    ("wait", "wait [-fn] [-p var] [id ...]")]

/-- The line that tells how a command is used. -/
def usage (command : Raw) : Raw := command ++ ": usage: " ++ (usages.lookup command).getD ""

/-- What is wrong with the options of a command. -/
inductive Misuse where
  | unknown (option : Raw)
  | needsArgument (option : Raw)
  deriving DecidableEq, Repr

def Misuse.message : Misuse → Raw
  | .unknown o => o ++ ": invalid option"
  | .needsArgument o => o ++ ": option requires an argument"

/-- The options of a command, with their signs and arguments, and the words behind them. -/
structure Given where
  options : List (Char × Char × Raw) := []
  words : List Raw := []
  deriving Repr

namespace Given

def has (g : Given) (c : Char) : Bool := g.options.any fun o => o.1 == '-' && o.2.1 == c

/-- Whether an option is taken back. -/
def lacks (g : Given) (c : Char) : Bool := g.options.any fun o => o.1 == '+' && o.2.1 == c

def value? (g : Given) (c : Char) : Option Raw :=
  (g.options.reverse.find? fun o => o.2.1 == c).map fun o => o.2.2

end Given

/-- Reads the letters behind a sign: what they say and the words that are left. -/
def letters (plain withArgument : String) (sign : Char) : List Char → List Raw →
    Except Misuse (List (Char × Char × Raw) × List Raw)
  | [], rest => .ok ([], rest)
  | c :: cs, rest =>
    if withArgument.toList.contains c then
      if !cs.isEmpty then .ok ([(sign, c, String.ofList cs)], rest)
      else
        match rest with
        | a :: rest => .ok ([(sign, c, a)], rest)
        | [] => .error (.needsArgument (String.ofList [sign, c]))
    else if plain.toList.contains c then do
      let (more, rest) ← letters plain withArgument sign cs rest
      return ((sign, c, "") :: more, rest)
    else .error (.unknown (String.ofList [sign, c]))

def readFrom (plain withArgument : String) (plus : Bool) : Nat → List Raw → Except Misuse Given
  | 0, words => .ok { words }
  | fuel + 1, words =>
    match words with
    | [] => .ok {}
    | w :: rest =>
      if w == "--" then .ok { words := rest }
      else
        match w.toList with
        | sign :: c :: cs =>
          if sign == '-' || (plus && sign == '+') then do
            let (found, rest) ← letters plain withArgument sign (c :: cs) rest
            let more ← readFrom plain withArgument plus fuel rest
            return { more with options := found ++ more.options }
          else .ok { words := w :: rest }
        | _ => .ok { words := w :: rest }

/-- Reads the options in front of the words of a command. -/
def read (plain withArgument : String) (plus : Bool) (args : List Raw) : Except Misuse Given :=
  readFrom plain withArgument plus (args.length + 1) args

end RichCommand

namespace State

/-- Complains as a command. -/
def refuse (s : State) (command what : Raw) (status : Nat) : State :=
  s.complain (command ++ ": " ++ what) status

/-- Tells how a command is used. -/
def showUsage (s : State) (command : Raw) : State :=
  (s.complainPlain (RichCommand.usage command)).withStatus 2

/-- Complains about the options of a command. -/
def misused (s : State) (command : Raw) (m : RichCommand.Misuse) : State :=
  (s.refuse command m.message 2).showUsage command

/-- Goes on with the options of a command, if they can be read. -/
def withOptions (s : State) (command : Raw) (plain withArgument : String) (plus : Bool) (args : List Raw)
    (go : RichCommand.Given → State) : State :=
  match RichCommand.read plain withArgument plus args with
  | .ok g => go g
  | .error m => s.misused command m

/-- A number in a word, which may have a sign. -/
def integer? (r : Raw) : Option Int :=
  let isBlank (c : Char) : Bool := c == ' ' || c == '\t' || c == '\n'
  let cs := ((r.toList.dropWhile isBlank).reverse.dropWhile isBlank).reverse
  let (negative, ds) := match cs with
    | '-' :: ds => (true, ds)
    | '+' :: ds => (false, ds)
    | ds => (false, ds)
  if ds.isEmpty || !ds.all Char.isDigit then none
  else
    let n : Int := (Tool.numeral ds : Nat)
    let n := if negative then -n else n
    if n < -Width.of63 || (Width.of63 : Int) ≤ n then none else some n

end State

end Host.Shell

end PolicyGate
