import Respawn.EnvFile
import Respawn.FileTree.Canonical
import Respawn.Settings.Conversion
import Respawn.Text.LineBreak

/-!
# Default settings

The defaults come from the environment, with the bindings of the file `.env` over it. How that file is
read is left open; `envFile` is the reader of the command line and of the rehearsals. A setting that
neither of them names has a value of its own.

* `environment_get?`: a binding of the file counts before the surroundings;
* `modifiable_isUpper`: what may be overridden is a setting.
-/

namespace Respawn.Settings

open EnvFile (Bindings)

/-! ## 1. The environment -/

/-- The logger for the file `.env`. -/
def envFileLogger : String := "dotenv.main"

/-- The text of a file: a mark at its start is dropped and line breaks are unified. -/
def fileText (bytes : List UInt8) : Except Fault (List Char) :=
  match Text.Utf8.strict bytes with
  | .ok s => .ok (Text.unified s)
  | .error u => .error (.undecodable u)

def dropMark : List Char → List Char
  | '\ufeff' :: rest => rest
  | s => s

/-- How the file `.env` of a working directory is read under given surroundings: what is logged of it,
    and what it gives each name, which may be nothing. -/
abbrev EnvReader : Type := Bindings → Path → FileTree → Loading (Table (Option String))

def malformedRecord (line : Nat) : Log.Record :=
  ⟨.warning, envFileLogger,
    s!"python-dotenv could not parse statement starting at line {line}"⟩

/-- The reader of files as `EnvFile` describes them. Where there is no such file it says nothing. -/
def envFile : EnvReader := fun surroundings cwd t =>
  match t.bytes (cwd.child ".env") with
  | .error _ => ⟨[], .ok []⟩
  | .ok bytes =>
    match fileText bytes with
    | .error f => ⟨[], .error f⟩
    | .ok s =>
      let file := EnvFile.contents surroundings (dropMark s)
      ⟨file.malformed.map malformedRecord, .ok file.bindings⟩

/-- The names that a file gives a value, with that value. -/
def given (file : Table (Option String)) : Bindings :=
  file.filterMap fun (name, value) => value.map (name, ·)

/-- The surroundings with the bindings of a file over them. -/
def environment (surroundings : Bindings) (file : Table (Option String)) : Bindings :=
  Table.above (given file) surroundings

theorem environment_get? (surroundings : Bindings) (file : Table (Option String)) (name : String) :
    (environment surroundings file).get? name =
      ((given file).get? name).or (surroundings.get? name) := Table.get?_above ..

/-! ## 2. The settings -/

/-- The settings that a file of overrides may change. -/
def modifiable : List String :=
  ["BUILD_COMMAND", "ARGS_SEPARATOR", "PRIMARY_HOST", "PRIMARY_PORT", "REPLICA_PORT",
    "WATCH_GLOB", "DEBOUNCE_SECONDS", "STARTUP_CHECK_SECONDS", "GRACEFUL_SHUTDOWN_TIMEOUT",
    "CAPTURE_CHILD_OUTPUT"]

theorem modifiable_isUpper : modifiable.all Text.isUpperName = true := by decide

def half : Binary64 := .ofDecimal false 5 (-1)

/-- The settings that an environment gives. -/
def ofEnvironment (env : Bindings) (cwd : Path) (t : FileTree) : Except Fault Settings := do
  let text (name fallback : String) : String := (env.get? name).getD fallback
  let base ← t.canonical cwd (Path.ofText (text "DEVLOOP_WATCH_BASE_DIR" cwd.text))
  let state := base.child ".devloop"
  let overrides := Path.ofText (text "DEVLOOP_OVERRIDES" (state.child "overrides.json").text)
  let command ← readWords (text "DEVLOOP_BUILD_COMMAND" "cargo run")
  let primaryPort ← readWhole (text "DEVLOOP_PRIMARY_PORT" "6379")
  let replicaPort ← readWhole (text "DEVLOOP_REPLICA_PORT" "6380")
  let debounce ← readReal (text "DEVLOOP_DEBOUNCE_SECONDS" "0.2")
  let startup ← readReal (text "DEVLOOP_STARTUP_CHECK_SECONDS" "0.5")
  let grace ← readReal (text "DEVLOOP_GRACEFUL_SHUTDOWN_TIMEOUT" "0")
  let logFile := text "DEVLOOP_LOG_FILE" ""
  pure [
    ("_ENV", .dict (env.map fun (name, value) => (name, .text value))),
    ("WATCH_BASE_DIR", .path base),
    ("STATE_DIR", .path state),
    ("OVERRIDES_JSON_PATH", .path overrides),
    ("BUILD_COMMAND", listOfWords command),
    ("ARGS_SEPARATOR", .text (text "DEVLOOP_ARGS_SEPARATOR" "--")),
    ("CHILD_PROCESS_NAME", .text "server"),
    ("PRIMARY_ROLE_NAME", .text "master"),
    ("PRIMARY_HOST", .text (text "DEVLOOP_PRIMARY_HOST" "127.0.0.1")),
    ("PRIMARY_PORT", .int primaryPort),
    ("REPLICA_PORT", .int replicaPort),
    ("WATCH_GLOB", .text (text "DEVLOOP_WATCH_GLOB" "src/*")),
    ("DEBOUNCE_SECONDS", .real debounce),
    ("SUPERVISOR_SLEEP_INTERVAL", .real half),
    ("STARTUP_CHECK_SECONDS", .real startup),
    ("GRACEFUL_SHUTDOWN_TIMEOUT", .real grace),
    ("KILL_TIMEOUT", .int 5),
    ("CAPTURE_CHILD_OUTPUT", .bool (readYes (text "DEVLOOP_CAPTURE_CHILD_OUTPUT" "True"))),
    ("LOG_LEVEL",
      .text (String.ofList (Text.toUpper (text "DEVLOOP_LOG_LEVEL" "INFO").toList))),
    ("LOG_FILE_PATH", if logFile = "" then .null else .path (Path.ofText logFile)),
    ("MODIFIABLE_SETTINGS", .set modifiable)]

/-- Loads the default settings, given how the file `.env` is read. -/
def defaults (surroundings : Bindings) (cwd : Path) (t : FileTree)
    (reader : EnvReader := envFile) : Loading Settings :=
  let file := reader surroundings cwd t
  match file.result with
  | .error f => ⟨file.records, .error f⟩
  | .ok bound => ⟨file.records, ofEnvironment (environment surroundings bound) cwd t⟩

end Respawn.Settings
