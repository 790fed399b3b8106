import PolicyGate.Host.Account
import PolicyGate.Text.Lines
import PolicyGate.Text.Utf8

/-!
# Files

A host is known by the files and directories it has. A path is a list of names from the root, and
each stands for the number of a *node*, so that one node can have several names. Looking a path up
can fail in a few ways, whose texts are the operating system's.
-/

namespace PolicyGate

namespace Host

/-!
## Programs that come with a host

The names of the programs, and other names for some of them.
-/

/-- The programs in the usual directory. -/
def installed : List String :=
  ["dash", "bash", "mawk", "perl",
    "env", "printenv", "xargs", "timeout", "nohup", "nice", "setsid", "stdbuf", "which", "test", "[",
    "kill", "find", "sed", "grep", "cat", "head", "tail", "wc", "cut", "rev", "tac", "nl", "paste",
    "fold", "fmt", "pr", "join", "comm", "tee", "tr", "sort", "uniq", "ls", "dir", "dirname",
    "basename", "mkdir", "rmdir", "rm", "unlink", "touch", "cp", "mv", "ln", "link", "install",
    "mktemp", "mkfifo", "mknod", "stat", "chmod", "chown", "chgrp", "pwd", "realpath", "readlink",
    "echo", "printf", "yes", "sleep", "seq", "expr", "od", "base64", "base32", "basenc", "true",
    "false", "sync", "uname", "date", "id", "whoami", "hostname", "hostid", "nproc", "tty", "arch", "logname",
    "groups", "who", "users", "dd", "truncate", "split", "csplit", "shuf", "tsort", "factor",
    "numfmt", "expand", "unexpand", "md5sum", "sha1sum", "sha224sum", "sha256sum", "sha384sum",
    "sha512sum", "b2sum", "cksum", "sum", "diff", "cmp", "du", "df", "pathchk", "ptx", "getopt",
    "egrep", "fgrep", "rgrep", "more", "vdir", "ps", "tar", "gzip", "mount", "su"]

/-- Other names for programs. -/
def aliases : List (String × String) :=
  [("sh", "dash"), ("awk", "mawk"), ("rbash", "bash"), ("nawk", "mawk"),
    ("pager", "more")]

/-! ## Nodes -/

/-- What is behind a name of a device. -/
inductive Device where
  | null
  | zero
  | full
  | random
  | terminal
  /-- A descriptor of the process that opens it. -/
  | descriptor (number : Nat)
  deriving DecidableEq, Repr

/-- What a node is. -/
inductive Content where
  | directory
  | file (bytes : List UInt8)
  /-- A program that comes with the host, by its name. -/
  | program (name : String)
  | link (target : String)
  /-- What is written at one end is read at the other. -/
  | channel
  | device (d : Device)
  deriving DecidableEq, Repr

structure Node where
  content : Content
  /-- What may be done with it, in the usual twelve bits. -/
  mode : Nat
  /-- When it was changed, in microseconds from the start. -/
  modified : Int := 0
  deriving DecidableEq, Repr

namespace Node

def isDirectory (n : Node) : Bool := n.content == .directory

def isLink (n : Node) : Bool :=
  match n.content with
  | .link _ => true
  | _ => false

/-- Whether it is a file, of bytes or of a program. -/
def isFile (n : Node) : Bool :=
  match n.content with
  | .file _ | .program _ => true
  | _ => false

/-- Whether some may run it. -/
def isExecutable (n : Node) : Bool := n.mode % 2 == 1 || n.mode / 8 % 2 == 1 || n.mode / 64 % 2 == 1

/-- Whether it is a program of the host, or names in its first line what runs it. -/
def isRunnable (n : Node) : Bool :=
  match n.content with
  | .program _ => true
  | .file bytes => bytes.take 2 == [0x23, 0x21]
  | _ => false

/-- What there is to read in it. -/
def bytes (n : Node) : List UInt8 :=
  match n.content with
  | .file bytes => bytes
  | .program _ => [0x7F, 0x45, 0x4C, 0x46, 0]
  | _ => []

/-- The number of bytes that it is said to have. -/
def size (n : Node) : Nat :=
  match n.content with
  | .directory => 4096
  | .link target => target.utf8ByteSize
  | _ => n.bytes.length

end Node

/-- Why a path leads nowhere, or why what it leads to cannot be used. -/
inductive PathFault where
  | notFound
  | notADirectory
  | isADirectory
  | nameTooLong
  | tooManyLinks
  | holdsNul
  | notText
  deriving DecidableEq, Repr

def PathFault.message : PathFault → String
  | .notFound => "No such file or directory (os error 2)"
  | .notADirectory => "Not a directory (os error 20)"
  | .isADirectory => "Is a directory (os error 21)"
  | .nameTooLong => "File name too long (os error 36)"
  | .tooManyLinks => "Too many levels of symbolic links (os error 40)"
  | .holdsNul => "file name contained an unexpected NUL byte"
  | .notText => "stream did not contain valid UTF-8"

structure Files where
  /-- The paths with the numbers of their nodes. -/
  entries : List (List String × Nat) := []
  nodes : List (Nat × Node) := []
  /-- The number that the next node gets. -/
  next : Nat := 0
  /-- The moment at which changes are made. -/
  now : Int := 0

/-- Where a path leads. -/
structure Reached where
  loc : List String
  number : Nat
  node : Node

namespace Files

def node? (files : Files) (loc : List String) : Option (Nat × Node) :=
  match files.entries.lookup loc with
  | some n => (files.nodes.lookup n).map (n, ·)
  | none => none

/-- Adds a new node at a place. -/
def create (files : Files) (loc : List String) (content : Content) (mode : Nat) : Files :=
  { files with
    entries := (loc, files.next) :: files.entries.filter (·.1 != loc)
    nodes := (files.next, { content, mode, modified := files.now }) :: files.nodes
    next := files.next + 1 }

/-- Changes a node. -/
def change (files : Files) (number : Nat) (f : Node → Node) : Files :=
  { files with nodes := files.nodes.map fun (n, node) => if n = number then (n, f node) else (n, node) }

/-- Puts bytes into a node that is a file. -/
def fill (files : Files) (number : Nat) (bytes : List UInt8) : Files :=
  files.change number fun node => { node with content := .file bytes, modified := files.now }

/-- Puts bytes into the file at a place, which need not be there yet. -/
def putFile (files : Files) (loc : List String) (bytes : List UInt8) (mode : Nat) : Files :=
  match files.node? loc with
  | some (number, _) => files.fill number bytes
  | none => files.create loc (.file bytes) mode

/-- Gives a node another name. -/
def addName (files : Files) (loc : List String) (number : Nat) : Files :=
  { files with entries := (loc, number) :: files.entries.filter (·.1 != loc) }

/-- Takes away what is at a place and below it. -/
def remove (files : Files) (loc : List String) : Files :=
  { files with entries := files.entries.filter fun e => !(loc.isPrefixOf e.1) }

/-- Puts what is at a place and below it at another place. -/
def move (files : Files) (loc dest : List String) : Files :=
  let files' := files.remove dest
  { files' with
    entries := files'.entries.map fun (p, n) =>
      if loc.isPrefixOf p then (dest ++ p.drop loc.length, n) else (p, n) }

/-- Copies what is at a place and below it to another place. Files that are there keep their modes. -/
def copy (files : Files) (loc dest : List String) : Files :=
  (files.entries.filter fun e => loc.isPrefixOf e.1).foldl
    (fun fs (p, n) =>
      match fs.nodes.lookup n with
      | none => fs
      | some node =>
        let target := dest ++ p.drop loc.length
        match fs.node? target with
        | some (m, _) => fs.change m fun old => { old with content := node.content, modified := fs.now }
        | none => fs.create target node.content node.mode) files

/-- How many names a node has. A directory has one more for itself and one in each directory in it. -/
def nameCount (files : Files) (loc : List String) (number : Nat) (node : Node) : Nat :=
  if node.isDirectory then
    2 + (files.entries.filter fun e =>
      e.1.length = loc.length + 1 && loc.isPrefixOf e.1 &&
        (files.nodes.lookup e.2).any Node.isDirectory).length
  else (files.entries.filter (·.2 == number)).length

/-- What is at a place and below it, a directory before what is in it, each with its place. -/
def below (files : Files) (loc : List String) : List Reached :=
  let found := (files.entries.filter fun e => loc.isPrefixOf e.1).mergeSort fun a b => !(b.1 < a.1)
  found.filterMap fun (p, n) => (files.nodes.lookup n).map (⟨p, n, ·⟩)

/-- The names in a directory, in order. -/
def namesIn (files : Files) (dir : List String) : List String :=
  let inside := files.entries.filterMap fun e =>
    if e.1.length = dir.length + 1 && dir.isPrefixOf e.1 then e.1.getLast? else none
  inside.mergeSort fun a b => !(b < a)

end Files

/-! ## What every host has -/

def standardDirectories : List (List String) :=
  [[], ["boot"], ["dev"], ["dev", "shm"], ["etc"], ["home"], ["media"], ["mnt"], ["opt"], ["proc"],
    ["root"], ["run"], ["srv"], ["sys"], ["tmp"], ["usr"], ["usr", "bin"], ["usr", "lib"],
    ["usr", "local"], ["usr", "local", "bin"], ["usr", "local", "sbin"], ["usr", "sbin"],
    ["usr", "share"], ["var"], ["var", "log"], ["var", "tmp"]]

def standardEntries : List (List String × Content × Nat) :=
  let link (path : List String) (target : String) : List String × Content × Nat :=
    (path, .link target, 0o777)
  let device (name : String) (d : Device) : List String × Content × Nat :=
    (["dev", name], .device d, 0o666)
  let text (path : List String) (lines : List String) : List String × Content × Nat :=
    (path, .file (linesContent lines), 0o644)
  standardDirectories.map (fun d =>
    (d, .directory, if d.getLast? == some "tmp" || d.getLast? == some "shm" then 0o1777 else 0o755)) ++
  [link ["bin"] "usr/bin", link ["lib"] "usr/lib", link ["sbin"] "usr/sbin",
    device "null" .null, device "zero" .zero, device "full" .full, device "random" .random,
    device "urandom" .random, device "tty" .terminal, device "stdin" (.descriptor 0),
    device "stdout" (.descriptor 1), device "stderr" (.descriptor 2),
    (["dev", "fd"], .directory, 0o755), text ["etc", "passwd"] (Account.all.map Account.line),
    text ["etc", "group"] (Group.all.map Group.line), text ["etc", "hosts"] ["127.0.0.1 localhost"]] ++
  (List.range 64).map (fun n => (["dev", "fd", toString n], Content.device (.descriptor n), 0o666)) ++
  installed.map (fun name => (["usr", "bin", name], .program name, 0o755)) ++
  aliases.map (fun (name, other) => link ["usr", "bin", name] other)

/-- The files that every host has. -/
def standardFiles : Files :=
  standardEntries.foldl (fun files (loc, content, mode) => files.create loc content mode) { now := -1000000 }

/-! ## Looking up -/

/-- The names in a path. -/
def names (path : String) : List String := (Text.pieces '/' path.toList).map String.ofList

/-- The largest number of bytes in a name, and in a path. -/
def nameLimit : Nat := 255
def pathLimit : Nat := 4096

/-- The largest number of links on the way of a path. -/
def linkLimit : Nat := 40

/-- Follows names from a directory on, given how many links may lie on the way and whether one at the
end is followed. Nothing need be where the way ends. -/
def follow (files : Files) (last : Bool) (links : Nat) (loc : List String) (path : List String) :
    Except PathFault (List String × Option Reached) :=
  match files.node? loc, path with
  | none, path => if path.all (·.isEmpty) then .ok (loc, none) else .error .notFound
  | some (number, node), [] => .ok (loc, some ⟨loc, number, node⟩)
  | some (_, node), name :: rest =>
    if !node.isDirectory then .error .notADirectory
    else if name.isEmpty || name == "." then follow files last links loc rest
    else if name == ".." then follow files last links loc.dropLast rest
    else if nameLimit < name.utf8ByteSize then .error .nameTooLong
    else
      match files.node? (loc ++ [name]), links with
      | some (n, ⟨.link target, mode, modified⟩), links =>
        if rest.isEmpty && !last then
          .ok (loc ++ [name], some ⟨loc ++ [name], n, ⟨.link target, mode, modified⟩⟩)
        else
          match links with
          | 0 => .error .tooManyLinks
          | links + 1 =>
            follow files last links (if target.startsWith "/" then [] else loc) (names target ++ rest)
      | _, links => follow files last links (loc ++ [name]) rest
termination_by (links, path.length)

/-- Where a path leads from a directory on, or would lead if its last name were there. -/
def seek (files : Files) (home : List String) (path : String) (last : Bool) :
    Except PathFault (List String × Option Reached) :=
  if path.toList.contains '\x00' then .error .holdsNul
  else if path.isEmpty then .error .notFound
  else if pathLimit ≤ path.utf8ByteSize then .error .nameTooLong
  else follow files last linkLimit (if path.startsWith "/" then [] else home) (names path)

/-- What a path leads to from a directory on. -/
def reach (files : Files) (home : List String) (path : String) : Except PathFault Reached :=
  match seek files home path true with
  | .ok (_, some r) => .ok r
  | .ok (_, none) => .error .notFound
  | .error e => .error e

/-- What a path leads to, without following a link at its end. -/
def reachName (files : Files) (home : List String) (path : String) : Except PathFault Reached :=
  match seek files home path false with
  | .ok (_, some r) => .ok r
  | .ok (_, none) => .error .notFound
  | .error e => .error e

/-- Where a path leads or would lead if its last name were there. -/
def place (files : Files) (home : List String) (path : String) : Except PathFault (List String) :=
  (seek files home path true).map (·.1)

/-- What a path leads to. A path that does not start at the root starts at the root all the same. -/
def find (files : Files) (path : String) : Except PathFault Node :=
  (reach files [] path).map (·.node)

/-- The text in a file. -/
def readText (files : Files) (path : String) : Except PathFault String :=
  match find files path with
  | .error e => .error e
  | .ok node =>
    if node.isDirectory then .error .isADirectory
    else
      match Utf8.strict? node.bytes with
      | some cs => .ok (String.ofList cs)
      | none => .error .notText

end Host

end PolicyGate
