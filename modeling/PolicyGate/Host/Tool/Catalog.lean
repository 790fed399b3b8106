import PolicyGate.Host.Tool.Arguments
import PolicyGate.Host.Tool.Clock
import PolicyGate.Host.Tool.Columns
import PolicyGate.Host.Tool.Difference
import PolicyGate.Host.Tool.Digest
import PolicyGate.Host.Tool.Dump
import PolicyGate.Host.Tool.Editor
import PolicyGate.Host.Tool.Encoded
import PolicyGate.Host.Tool.Extractor
import PolicyGate.Host.Tool.Identity
import PolicyGate.Host.Tool.Letters
import PolicyGate.Host.Tool.Lines
import PolicyGate.Host.Tool.List
import PolicyGate.Host.Tool.Numbers
import PolicyGate.Host.Tool.Order
import PolicyGate.Host.Tool.Pages
import PolicyGate.Host.Tool.Paragraph
import PolicyGate.Host.Tool.Parts
import PolicyGate.Host.Tool.Say
import PolicyGate.Host.Tool.Scanner
import PolicyGate.Host.Tool.Search
import PolicyGate.Host.Tool.Sum
import PolicyGate.Host.Tool.Transfer
import PolicyGate.Host.Tool.Usage
import PolicyGate.Host.Walk.Run

/-!
# All tools

Every tool by its name. Tools that run other programs are not among them.
-/

namespace PolicyGate

namespace Host.Tool

/-- A tool: what it does in a scene with its arguments. -/
abbrev Body := Scene → List Raw → Ran

/-- Whether the tool of a name finds lines, which has names of its own for two of its styles. -/
def searching (option : Raw) : Body := fun s args => grep s (option :: args)

def catalog : List (String × Body) :=
  [("cat", cat), ("head", head), ("tail", tail), ("wc", wc), ("cut", cut), ("rev", rev), ("tac", tac),
    ("nl", nl), ("paste", paste), ("fold", fold), ("fmt", fmt), ("pr", pr), ("expand", expand), ("unexpand", unexpand),
    ("comm", comm), ("join", join), ("tee", tee), ("tr", tr), ("sort", sort), ("uniq", uniq),
    ("shuf", shuf), ("tsort", tsort), ("factor", factor), ("numfmt", numfmt), ("grep", grep), ("egrep", searching "-E"), ("fgrep", searching "-F"), ("rgrep", searching "-r"),
    ("sed", sed), ("getopt", getopt), ("pathchk", pathchk), ("more", more), ("dir", listing "dir" ["-C", "-b"]),
    ("vdir", listing "vdir" ["-l", "-b"]),
    ("ls", ls), ("dirname", fun _ => dirname), ("basename", fun _ => basename), ("mkdir", mkdir),
    ("rmdir", rmdir), ("rm", rm), ("touch", touch),("cp", cp),
    ("mv", mv), ("mktemp", mktemp), ("stat", stat), ("pwd", fun s _ => pwd s),
    ("realpath", realpath), ("readlink", readlink), ("ln", ln), ("link", link), ("unlink", unlink),
    ("mkfifo", mkfifo), ("mknod", mknod), ("chmod", chmod), ("truncate", truncate), ("dd", dd),
    ("split", split), ("csplit", csplit), ("du", du), ("install", install),
    ("chown", fun s => own s "chown" "user"), ("chgrp", fun s => own s "chgrp" "group"),
    ("echo", fun _ => plainEcho), ("printf", fun _ => plainPrintf), ("yes", fun _ => yes),
    ("sleep", fun _ => sleep), ("seq", fun _ => seq), ("expr", fun _ => expr), ("od", od),
    ("base64", base64), ("base32", base32),
    ("basenc", basenc), ("true", fun _ _ => silent 0), ("false", fun _ _ => silent 1),
    ("sync", fun _ _ => silent 0), ("sum", sum), ("date", date),
    ("id", fun _ => identity), ("groups", fun _ => groups), ("whoami", fun _ => whoami),
    ("logname", fun _ => logname), ("tty", fun _ => tty), ("users", fun _ => users),
    ("who", fun _ => who), ("uname", fun _ => uname), ("arch", fun _ => arch),
    ("hostid", fun _ => hostid), ("nproc", fun _ => nproc), ("hostname", fun _ => hostname),
    ("cksum", cksum), ("perl", perl), ("find", find), ("mawk", awk), ("diff", diff), ("cmp", cmp)] ++
  digestKinds.map fun k => (k.tool, digestTool k)

/-- The tool of a name. -/
def named? (name : String) : Option Body := catalog.lookup name

end Host.Tool

end PolicyGate
