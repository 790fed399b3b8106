import PolicyGate.Host.Shell.RichAssignment

/-!
# The start of rich scripts

The words in front of a rich script set its options, and tell where it is read from. It starts with the
variables that it is given and with some of its own.
-/

namespace PolicyGate

namespace Host.Shell

/-- What the words behind the name of the shell say. -/
structure RichCall where
  /-- The options by their letters, by their names, and the settings, each set or taken back. -/
  letters : List (Char × Bool) := []
  options : List (Raw × Bool) := []
  settings : List (Raw × Bool) := []
  words : List Raw := []
  deriving Repr

namespace RichCall

/-- Why the words mean nothing. -/
inductive Fault where
  | unknown (option : Raw)
  | needsArgument (option : Raw)
  | noOption (name : Raw)
  | noSetting (name : Raw)
  deriving DecidableEq, Repr

def longOptions : List Raw :=
  ["debug", "debugger", "dump-po-strings", "dump-strings", "help", "init-file", "login", "noediting",
    "noprofile", "norc", "posix", "pretty-print", "rcfile", "restricted", "verbose", "version"]

def usage : Raw :=
  "Usage:\tbash [GNU long option] [option] ...\n" ++
    "\tbash [GNU long option] [option] script-file ...\nGNU long options:\n" ++
    String.join (longOptions.map fun o => "\t--" ++ o ++ "\n") ++
    "Shell options:\n\t-ilrsD or -c command or -O shopt_option\t\t(invocation only)\n" ++
    "\t-abefhkmnptuvxBCEHPT or -o option"

def Fault.lines (shell : Raw) : Fault → Raw
  | .unknown o => shell ++ ": " ++ o ++ ": invalid option\n" ++ usage
  | .needsArgument o => shell ++ ": " ++ o ++ ": option requires an argument"
  | .noOption n => shell ++ ": line 0: " ++ shell ++ ": " ++ n ++ ": invalid option name"
  | .noSetting n => shell ++ ": line 0: " ++ n ++ ": invalid shell option name"

/-- Reads the letters behind a sign, and the names that some of them ask for. -/
def readLetters (on : Bool) : List Char → List Raw → RichCall → Except Fault (RichCall × List Raw)
  | [], rest, c => .ok (c, rest)
  | l :: ls, rest, c =>
    let sign := if on then '-' else '+'
    if l == 'o' || l == 'O' then
      match rest with
      | [] => .error (.needsArgument (String.ofList [sign, l]))
      | n :: rest =>
        if l == 'o' then
          if (State.richOptions.lookup n).isSome then
            readLetters on ls rest { c with options := c.options ++ [(n, on)] }
          else .error (.noOption n)
        else if State.settingNames.contains n then
          readLetters on ls rest { c with settings := c.settings ++ [(n, on)] }
        else .error (.noSetting n)
    else if "abefhkmnptuvxBCEHPTcsilrD".toList.contains l then
      readLetters on ls rest { c with letters := c.letters ++ [(l, on)] }
    else .error (.unknown (String.ofList [sign, l]))

/-- Reads the words up to the first that is no option. -/
def read : Nat → RichCall → List Raw → Except Fault RichCall
  | 0, c, words => .ok { c with words }
  | _ + 1, c, [] => .ok c
  | fuel + 1, c, w :: rest =>
    if w == "-" || w == "--" then .ok { c with words := rest }
    else if w.startsWith "--" then
      let name := (w.drop 2).toString
      if !longOptions.contains name then .error (.unknown w)
      else if name == "rcfile" || name == "init-file" then
        if rest.isEmpty then .error (.needsArgument w) else read fuel c rest.tail
      else read fuel (if name == "verbose" then { c with letters := c.letters ++ [('v', true)] } else c) rest
    else
      match w.toList with
      | sign :: l :: ls =>
        if sign == '-' || sign == '+' then do
          let (c, rest) ← readLetters (sign == '-') (l :: ls) rest c
          read fuel c rest
        else .ok { c with words := w :: rest }
      | _ => .ok { c with words := w :: rest }

def has (c : RichCall) (l : Char) : Bool := c.letters.any fun o => o.1 == l && o.2

end RichCall

namespace State

/-- The variables that a rich script starts with, given those of the one that has started it. -/
def richVariables (vars : List (Raw × Variable)) (home shell : Raw) : List (Raw × Variable) :=
  let given := vars.filter fun v => v.2.passed?.isSome && v.1 != "_"
  let plain (r : Raw) : Variable := { value := some r }
  let fixed (r : Raw) : Variable := { value := some r, integer := true, readOnly := true }
  let level := match given.lookup "SHLVL" with
    | some v => Tool.numeral ((v.value.getD "").toList.takeWhile Char.isDigit) + 1
    | none => 1
  let anew : List (Raw × Variable) :=
    [("SHLVL", { value := some (toString level), exported := true }),
      ("PWD", { value := some home, exported := true }), ("OLDPWD", { value := none, exported := true }),
      ("IFS", plain " \t\n"), ("OPTIND", { value := some "1", integer := true }), ("OPTERR", plain "1"),
      ("PPID", fixed "4241"), ("UID", fixed "0"), ("EUID", fixed "0"), ("BASH", plain shell),
      ("BASH_VERSION", plain "5.2.21(1)-release"),
      ("BASH_VERSINFO",
        { value := some "", readOnly := true
          items := some (.ofList ["5", "2", "21", "1", "release", "x86_64-pc-linux-gnu"]) }),
      ("BASH_LOADABLES_PATH",
        plain "/usr/local/lib/bash:/usr/lib/bash:/opt/local/lib/bash:/usr/pkg/lib/bash:/opt/pkg/lib/bash:."),
      ("HOSTTYPE", plain "x86_64"), ("MACHTYPE", plain "x86_64-pc-linux-gnu"), ("OSTYPE", plain "linux-gnu")]
  let missing : List (Raw × Variable) :=
    [("PATH", plain "/usr/local/sbin:/usr/local/bin:/usr/sbin:/usr/bin:/sbin:/bin"), ("PS4", plain "+ "),
      ("SHELL", plain "/bin/bash"), ("TERM", plain "dumb")]
  let isGiven (n : Raw) : Bool := (given.lookup n).isSome
  (anew.map fun (n, v) => (n, { v with exported := v.exported || isGiven n })) ++
    (missing.filter fun v => !isGiven v.1) ++ given.filter fun v => (anew.lookup v.1).isNone

/-- What a rich script starts from. -/
def richFresh (s : State) (name shell source : Raw) (call : RichCall) : State :=
  let riches : Riches :=
    { settings := firstSettings, longOptions := ["interactive-comments"], source, since := s.clock
      lastWord := name }
  let fresh : State :=
    { s with
      zero := name, rich := true, riches, functions := [], own := [], options := ['h', 'B'], depth := 0
      vars := richVariables s.vars (Tool.pathOf s.home) shell
      traps := s.traps.filter (·.2.isEmpty), selves := s.pid :: s.selves, tested := false
      inFunction := false, loops := 0, calls := 0, lastJob := none, status := 0, aliases := []
      tracked := [] }
  let t := call.letters.foldl (fun t (l, on) => t.setRichLetter l on) fresh
  let t := call.options.foldl (fun t (n, on) => t.setRichOption n on) t
  (call.settings.foldl (fun t (n, on) => t.changeSetting n on) t).withOptionNames

end State

end Host.Shell

end PolicyGate
