import PolicyGate.Host.Files
import PolicyGate.Startup

/-!
# The command line

Starts a gateway with the settings of the environment and writes what it logs. A gateway that
listens goes on until its standard input ends.
-/

namespace PolicyGate

namespace Main

/-- The variables that the program looks at. -/
def variableNames : List String :=
  Startup.filterVariable :: Config.fileVariable :: Config.Variable.all.map Config.Variable.name

/-- A record on one line. -/
def line (r : Log.Record) : String :=
  r.severity.name ++ " " ++ r.target ++ ": " ++ r.message ++
    match r.error with
    | some e => " error=" ++ e
    | none => ""

def lookupEnvironment : IO Config.Lookup := do
  let found ← variableNames.mapM fun name => do return (name, ← IO.getEnv name)
  return fun name => (found.lookup name).join

/-- The text in a file, or why there is none. -/
def readText (path : String) : IO (Except String String) := do
  try
    let bytes ← IO.FS.readBinFile path
    match Utf8.strict? bytes.data.toList with
    | some cs => return .ok (String.ofList cs)
    | none => return .error Host.PathFault.notText.message
  catch
    | .noFileOrDirectory .. => return .error Host.PathFault.notFound.message
    | e => return .error (toString e)

/-- The text in the file of settings, if one is named. -/
def readSettings (lookup : Config.Lookup) : IO (Except String String) :=
  match Config.filePath? lookup with
  | some path => readText path
  | none => return .error Host.PathFault.notFound.message

def write (filter : Log.Filter) (records : List Log.Record) : IO Unit :=
  (records.filter filter.shows).forM fun r => IO.println (line r)

/-- Waits for the end of the standard input. -/
partial def wait (stdin : IO.FS.Stream) : IO Unit := do
  if (← stdin.getLine).isEmpty then return
  wait stdin

end Main

end PolicyGate

open PolicyGate in
def main : IO UInt32 := do
  let lookup ← Main.lookupEnvironment
  match Startup.filter? lookup with
  | none => return Startup.tornStatus.toUInt32
  | some filter =>
    let settings ← Main.readSettings lookup
    let a := Startup.attempt lookup fun _ => settings
    Main.write filter a.log
    match a.result with
    | .error _ => return 1
    | .ok _ =>
      Main.wait (← IO.getStdin)
      Main.write filter Startup.stopping
      return 0
