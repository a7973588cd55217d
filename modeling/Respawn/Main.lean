import Respawn.Rehearsal.Play

/-!
# The command line

A session is rehearsed under the environment and the files of the working directory. The server it
starts is a scripted one, nothing happens to it, and the user interrupts at once: what is printed is
what a session would log, no process is started, and no file is written. The exit code is that of the
session.
-/

namespace Respawn.CommandLine

open Rehearsal

/-- The variables that settings are taken from. -/
def variableNames : List String :=
  ["WATCH_BASE_DIR", "OVERRIDES", "BUILD_COMMAND", "ARGS_SEPARATOR", "PRIMARY_HOST",
    "PRIMARY_PORT", "REPLICA_PORT", "WATCH_GLOB", "DEBOUNCE_SECONDS", "STARTUP_CHECK_SECONDS",
    "GRACEFUL_SHUTDOWN_TIMEOUT", "CAPTURE_CHILD_OUTPUT", "LOG_LEVEL", "LOG_FILE"].map
    ("DEVLOOP_" ++ ·)

def environment : IO EnvFile.Bindings := do
  let found ← variableNames.mapM fun name => do
    return (← IO.getEnv name).map fun value => (name, value)
  return found.filterMap id

/-- How deep the working directory is looked into. -/
def depthLimit : Nat := 4

/-- The size up to which files are read. Longer ones count as empty. -/
def sizeLimit : UInt64 := 65536

/-- A directory's entry, looked into down to a depth. What cannot be read counts as a link that leads
    nowhere. -/
def node (depth : Nat) (e : IO.FS.DirEntry) : IO Node :=
  try
    let data ← e.path.metadata
    match data.type, depth with
    | .dir, 0 => return .dir []
    | .dir, depth + 1 =>
      let below ← e.path.readDir
      return .dir (← below.toList.mapM fun e => return (e.fileName, ← node depth e))
    | _, _ =>
      if data.byteSize ≤ sizeLimit then return .file (← IO.FS.readBinFile e.path).toList
      else return .file []
  catch _ => return .link ""

/-- The tree of the working directory. -/
def workingTree (cwd : Path) : IO FileTree := do
  let below ← (← IO.currentDir).readDir
  let entries ← below.toList.mapM fun e => return (e.fileName, ← node depthLimit e)
  let above := (FileTree.empty.makeDirs cwd cwd).toOption.getD .empty
  return above.set cwd.parts (some (.dir entries))

/-- No time passes in a rehearsal. -/
def time : Log.Stamp := ⟨0, 0⟩

def opening (cwd : Path) (t : FileTree) : Stage Cue :=
  .opening cwd (.preliminary time t) (.waiting [] none) (.waiting [] false) []

/-- The exit code where a fault ends the session. -/
def faultCode : UInt32 := 1

def run (args : List String) : IO UInt32 := do
  let cwd := Path.ofText (← IO.currentDir).toString
  let (ended, s) := Play.perform (← environment) args (opening cwd (← workingTree cwd))
  IO.print s.journal.console
  IO.eprint s.journal.errors
  match ended with
  | .done ending => return ending.exitCode.toUInt32
  | .raised f =>
    IO.eprintln f.message
    return faultCode
  | .unfinished => return faultCode

end Respawn.CommandLine

def main (args : List String) : IO UInt32 := Respawn.CommandLine.run args
