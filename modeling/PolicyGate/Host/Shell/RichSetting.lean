import PolicyGate.Host.Shell.RichCommand
import PolicyGate.Host.Shell.Setting

/-!
# Settings of scripts in the rich notation

Options have names, and most have letters too. Other settings have names only.
-/

namespace PolicyGate

namespace Host.Shell

namespace State

/-! ## Options -/

/-- The options by their names, with the letters of those that have one. -/
def richOptions : List (Raw × Option Char) :=
  [("allexport", some 'a'), ("braceexpand", some 'B'), ("emacs", none), ("errexit", some 'e'),
    ("errtrace", some 'E'), ("functrace", some 'T'), ("hashall", some 'h'), ("histexpand", some 'H'),
    ("history", none), ("ignoreeof", none), ("interactive-comments", none), ("keyword", some 'k'),
    ("monitor", some 'm'), ("noclobber", some 'C'), ("noexec", some 'n'), ("noglob", some 'f'),
    ("nolog", none), ("notify", some 'b'), ("nounset", some 'u'), ("onecmd", some 't'),
    ("physical", some 'P'), ("pipefail", none), ("posix", none), ("privileged", some 'p'),
    ("verbose", some 'v'), ("vi", none), ("xtrace", some 'x')]

/-- The letters of options, in the order in which they are shown. -/
def richLetters : List Char := "abefhikmnprtuvxBCEHIPTcs".toList

/-- Whether the option of a name is set. -/
def isRichOn (s : State) (name : Raw) : Bool :=
  match richOptions.lookup name with
  | some (some c) => s.options.contains c
  | some none => s.riches.longOptions.contains name
  | none => false

/-- Keeps the names of the options and of the settings that are on in variables. -/
def withOptionNames (s : State) : State :=
  let put (s : State) (name : Raw) (on : List Raw) : State :=
    let old := (s.stored? name).getD { value := none }
    s.putVariable name { old with value := some (":".intercalate on), readOnly := true }
  let settings := s.riches.settings.mergeSort fun a b => a ≤ b
  put (put s "SHELLOPTS" ((richOptions.map (·.1)).filter s.isRichOn)) "BASHOPTS" settings

def setRichLetter (s : State) (c : Char) (on : Bool) : State :=
  let cs := if on then c :: s.options else s.options.filter (· != c)
  { s with options := richLetters.filter cs.contains }.withOptionNames

def setRichOption (s : State) (name : Raw) (on : Bool) : State :=
  match richOptions.lookup name with
  | some (some c) => s.setRichLetter c on
  | _ =>
    let others := s.riches.longOptions.filter (· != name)
    let longOptions := if on then name :: others else others
    { s with riches := { s.riches with longOptions } }.withOptionNames

/-- A name and whether it is on. -/
def onOff (name : Raw) (on : Bool) : Raw :=
  name ++ String.ofList (List.replicate (15 - name.length) ' ') ++ "\t" ++ (if on then "on" else "off") ++ "\n"

def richOptionList (s : State) (asCommands : Bool) : Raw :=
  String.join (richOptions.map fun (n, _) =>
    let on := s.isRichOn n
    if asCommands then "set " ++ (if on then "-o " else "+o ") ++ n ++ "\n" else onOff n on)

/-- The variables with their values, and the functions. -/
def richVariableList (s : State) : Raw :=
  let sorted := s.vars.mergeSort fun a b => a.1 ≤ b.1
  String.join (sorted.filterMap fun (n, v) =>
    match v.items, v.value with
    | some i, some _ => some (n ++ "=" ++ i.text ++ "\n")
    | none, some r => some (n ++ "=" ++ Quote.asNeeded r ++ "\n")
    | _, none => none)

/-- Shows the variables, or sets options and arguments. -/
def setRich (s : State) (args : List Raw) : State :=
  if args.isEmpty then (s.say s.richVariableList).withStatus 0 else go s args
where
  go (s : State) : List Raw → State
    | [] => s.withStatus 0
    | a :: rest =>
      if a == "--" then { s with positional := rest, status := 0 }
      else if a == "-" then
        let s := (s.setRichLetter 'x' false).setRichLetter 'v' false
        if rest.isEmpty then s.withStatus 0 else { s with positional := rest, status := 0 }
      else
        match a.toList with
        | sign :: c :: cs =>
          if sign != '-' && sign != '+' then { s with positional := a :: rest, status := 0 }
          else
            let letters := (c :: cs).filter (· != 'o')
            match letters.find? fun c => !"abefhkmnptuvxBCEHPT".toList.contains c with
            | some bad => (s.misused "set" (.unknown (String.ofList [sign, bad])))
            | none =>
              let s := letters.foldl (fun s c => s.setRichLetter c (sign == '-')) s
              if !(c :: cs).contains 'o' then go s rest
              else
                match rest with
                | [] => (s.say (s.richOptionList (sign == '+'))).withStatus 0
                | name :: rest =>
                  if (richOptions.lookup name).isSome then go (s.setRichOption name (sign == '-')) rest
                  else s.refuse "set" (name ++ ": invalid option name") 2
        | _ => { s with positional := a :: rest, status := 0 }

/-! ## Other settings -/

/-- The settings by their names. -/
def settingNames : List Raw :=
  ["autocd", "assoc_expand_once", "cdable_vars", "cdspell", "checkhash", "checkjobs", "checkwinsize",
    "cmdhist", "compat31", "compat32", "compat40", "compat41", "compat42", "compat43", "compat44",
    "complete_fullquote", "direxpand", "dirspell", "dotglob", "execfail", "expand_aliases", "extdebug",
    "extglob", "extquote", "failglob", "force_fignore", "globasciiranges", "globskipdots", "globstar",
    "gnu_errfmt", "histappend", "histreedit", "histverify", "hostcomplete", "huponexit",
    "inherit_errexit", "interactive_comments", "lastpipe", "lithist", "localvar_inherit",
    "localvar_unset", "login_shell", "mailwarn", "no_empty_cmd_completion", "nocaseglob", "nocasematch",
    "noexpand_translation", "nullglob", "patsub_replacement", "progcomp", "progcomp_alias",
    "promptvars", "restricted_shell", "shift_verbose", "sourcepath", "varredir_close", "xpg_echo"]

/-- The settings that are on from the start. -/
def firstSettings : List Raw :=
  ["checkwinsize", "cmdhist", "complete_fullquote", "extquote", "force_fignore", "globasciiranges",
    "globskipdots", "hostcomplete", "interactive_comments", "patsub_replacement", "progcomp",
    "promptvars", "sourcepath"]

def hasSetting (s : State) (name : Raw) : Bool := s.riches.settings.contains name

def changeSetting (s : State) (name : Raw) (on : Bool) : State :=
  let others := s.riches.settings.filter (· != name)
  { s with riches := { s.riches with settings := if on then name :: others else others } }.withOptionNames

/-- Shows or changes settings, or options. -/
def shopt (s : State) (args : List Raw) : State :=
  s.withOptions "shopt" "psuoq" "" false args fun g =>
    let options := g.has 'o'
    let names := if options then richOptions.map (·.1) else settingNames
    let isOn (s : State) (n : Raw) : Bool := if options then s.isRichOn n else s.hasSetting n
    let line (s : State) (n : Raw) : Raw :=
      let on := isOn s n
      if g.has 'p' then
        (if options then (if on then "set -o " else "set +o ")
          else if on then "shopt -s " else "shopt -u ") ++ n ++ "\n"
      else onOff n on
    let unknown (s : State) (n : Raw) : State :=
      s.refuse "shopt" (n ++ (if options then ": invalid option name" else ": invalid shell option name")) 1
    if g.has 's' && g.has 'u' then s.refuse "shopt" "cannot set and unset shell options simultaneously" 1
    else if g.words.isEmpty then
      let shown := names.filter fun n => if g.has 's' then isOn s n else !(g.has 'u' && isOn s n)
      (if g.has 'q' then s else s.say (String.join (shown.map (line s)))).withStatus 0
    else
      let step (acc : State × Nat) (n : Raw) : State × Nat :=
        let (s, status) := acc
        if !names.contains n then (unknown s n, 1)
        else if g.has 's' || g.has 'u' then
          (if options then s.setRichOption n (g.has 's') else s.changeSetting n (g.has 's'), status)
        else
          (if g.has 'q' then s else s.say (line s n), if isOn s n then status else 1)
      let (t, status) := g.words.foldl step (s, 0)
      t.withStatus status

/-! ## Masks, limits and names -/

def richMask (s : State) (args : List Raw) : State :=
  s.withOptions "umask" "pS" "" false args fun g =>
    match g.words with
    | [] =>
      let shown := if g.has 'S' then maskLetters s.mask else Tool.octal 4 s.mask
      let lead : Raw := if g.has 'p' then (if g.has 'S' then "umask -S " else "umask ") else ""
      (s.say (lead ++ shown ++ "\n")).withStatus 0
    | a :: _ =>
      let cs := a.toList
      if cs.head?.any Char.isDigit then
        if cs.all fun c => '0' ≤ c && c ≤ '7' then
          { s with mask := cs.foldl (fun (v : Nat) c => v * 8 + (c.toNat - 48)) 0 % 512, status := 0 }
        else s.refuse "umask" (a ++ ": octal number out of range") 1
      else
        match Tool.modeFunction? 0 a with
        | some f => { s with mask := 0o777 &&& (0o777 ^^^ f false (0o777 ^^^ s.mask)), status := 0 }
        | none => s.refuse "umask" ("\x60" ++ (a.take 1).toString ++ "': invalid symbolic mode operator") 1

def richLimit (s : State) (args : List Raw) : State :=
  s.withOptions "ulimit" "SHabcdefiklmnpqrstuvxPRT" "" false args fun g =>
    match g.words with
    | [] =>
      let letter := ((g.options.filter fun o => o.2.1 != 'S' && o.2.1 != 'H').getLast?.map (·.2.1)).getD 'f'
      let value : Raw := match letter with
        | 'n' => "1048576"
        | 's' => if g.has 'H' then "unlimited" else "8192"
        | 'c' => "0"
        | 'l' => "8192"
        | 'p' => "8"
        | 'e' | 'r' => "0"
        | 'q' => "819200"
        | _ => "unlimited"
      (s.say (value ++ "\n")).withStatus 0
    | a :: _ =>
      if Tool.isNumeral a || ["unlimited", "hard", "soft"].contains a then s.withStatus 0
      else s.refuse "ulimit" (a ++ ": invalid number") 1

def richAlias (s : State) (args : List Raw) : State :=
  s.withOptions "alias" "p" "" false args fun g =>
    let shown (n v : Raw) : Raw := "alias " ++ n ++ "=" ++ Quote.single v ++ "\n"
    let sorted := s.aliases.mergeSort fun a b => a.1 ≤ b.1
    let s := if g.has 'p' || args.isEmpty then s.say (String.join (sorted.map fun (n, v) => shown n v))
      else s
    g.words.foldl (fun s a =>
      let name := String.ofList (a.toList.takeWhile (· != '='))
      if !name.isEmpty && name.length < a.length then
        let text := String.ofList (a.toList.drop (name.length + 1))
        { s with aliases := (name, text) :: s.aliases.filter (·.1 != name) }
      else
        match s.aliases.lookup a with
        | some v => s.say (shown a v)
        | none => s.refuse "alias" (a ++ ": not found") 1) (s.withStatus 0)

def richUnalias (s : State) (args : List Raw) : State :=
  s.withOptions "unalias" "a" "" false args fun g =>
    if g.has 'a' then { s with aliases := [], status := 0 }
    else if g.words.isEmpty then s.showUsage "unalias"
    else
      g.words.foldl (fun s a =>
        if (s.aliases.lookup a).isSome then { s with aliases := s.aliases.filter (·.1 != a) }
        else s.refuse "unalias" (a ++ ": not found") 1) (s.withStatus 0)

end State

end Host.Shell

end PolicyGate
