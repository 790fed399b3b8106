/-!
# Accounts

The accounts and groups that every host has, and the lines that tell of them.
-/

namespace PolicyGate

namespace Host

structure Account where
  name : String
  number : Nat
  group : Nat
  fullName : String
  home : String
  shell : String := "/usr/sbin/nologin"
  deriving DecidableEq, Repr

structure Group where
  name : String
  number : Nat
  deriving DecidableEq, Repr

namespace Account

def all : List Account :=
  [⟨"root", 0, 0, "root", "/root", "/bin/bash"⟩,
    { name := "daemon", number := 1, group := 1, fullName := "daemon", home := "/usr/sbin" },
    { name := "bin", number := 2, group := 2, fullName := "bin", home := "/bin" },
    { name := "sys", number := 3, group := 3, fullName := "sys", home := "/dev" },
    ⟨"sync", 4, 65534, "sync", "/bin", "/bin/sync"⟩,
    { name := "games", number := 5, group := 60, fullName := "games", home := "/usr/games" },
    { name := "man", number := 6, group := 12, fullName := "man", home := "/var/cache/man" },
    { name := "lp", number := 7, group := 7, fullName := "lp", home := "/var/spool/lpd" },
    { name := "mail", number := 8, group := 8, fullName := "mail", home := "/var/mail" },
    { name := "news", number := 9, group := 9, fullName := "news", home := "/var/spool/news" },
    { name := "uucp", number := 10, group := 10, fullName := "uucp", home := "/var/spool/uucp" },
    { name := "proxy", number := 13, group := 13, fullName := "proxy", home := "/bin" },
    { name := "www-data", number := 33, group := 33, fullName := "www-data", home := "/var/www" },
    { name := "backup", number := 34, group := 34, fullName := "backup", home := "/var/backups" },
    { name := "list", number := 38, group := 38, fullName := "Mailing List Manager"
      home := "/var/list" },
    { name := "irc", number := 39, group := 39, fullName := "ircd", home := "/run/ircd" },
    { name := "_apt", number := 42, group := 65534, fullName := "", home := "/nonexistent" },
    { name := "nobody", number := 65534, group := 65534, fullName := "nobody"
      home := "/nonexistent" }]

/-- The line of an account. -/
def line (a : Account) : String :=
  ":".intercalate [a.name, "x", toString a.number, toString a.group, a.fullName, a.home, a.shell]

/-- The account of a name or of a number. -/
def named? (word : String) : Option Account :=
  match all.find? fun a => a.name == word with
  | some a => some a
  | none => all.find? fun a => toString a.number == word

end Account

namespace Group

def all : List Group :=
  [⟨"root", 0⟩, ⟨"daemon", 1⟩, ⟨"bin", 2⟩, ⟨"sys", 3⟩, ⟨"adm", 4⟩, ⟨"tty", 5⟩, ⟨"disk", 6⟩, ⟨"lp", 7⟩,
    ⟨"mail", 8⟩, ⟨"news", 9⟩, ⟨"uucp", 10⟩, ⟨"man", 12⟩, ⟨"proxy", 13⟩, ⟨"kmem", 15⟩, ⟨"dialout", 20⟩,
    ⟨"fax", 21⟩, ⟨"voice", 22⟩, ⟨"cdrom", 24⟩, ⟨"floppy", 25⟩, ⟨"tape", 26⟩, ⟨"sudo", 27⟩, ⟨"audio", 29⟩,
    ⟨"dip", 30⟩, ⟨"www-data", 33⟩, ⟨"backup", 34⟩, ⟨"operator", 37⟩, ⟨"list", 38⟩, ⟨"irc", 39⟩, ⟨"src", 40⟩,
    ⟨"shadow", 42⟩, ⟨"utmp", 43⟩, ⟨"video", 44⟩, ⟨"sasl", 45⟩, ⟨"plugdev", 46⟩, ⟨"staff", 50⟩,
    ⟨"games", 60⟩, ⟨"users", 100⟩, ⟨"nogroup", 65534⟩]

def line (g : Group) : String := ":".intercalate [g.name, "x", toString g.number, ""]

/-- The name of a group, which is its number where it has none. -/
def nameOf (number : Nat) : String :=
  match all.find? fun g => g.number == number with
  | some g => g.name
  | none => toString number

end Group

/-- Lines as the content of a file. -/
def linesContent (lines : List String) : List UInt8 :=
  (String.join (lines.map (· ++ "\n"))).toUTF8.toList

end Host

end PolicyGate
