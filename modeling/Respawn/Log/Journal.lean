import Respawn.Action
import Respawn.FileTree
import Respawn.Log.Layout
import Respawn.Text.CaseMap

/-!
# The journal

Records go to sinks: the console, and a log file if one is wanted and can be opened. A sink takes the
records from its threshold up. Without any sink, warnings and what is graver go to the error output
as bare messages.

* `setUp_sinks_of_none`: without a log file the console is the only sink;
* `setUp_forgets`: what was set up before does not matter;
* `emit_below`: a record below the level of its logger goes nowhere.
-/

namespace Respawn.Log

/-! ## 1. Sinks -/

/-- Where lines go: to the console, or to the file at a place of the tree. -/
inductive Target where
  | console
  | file (place : List String)
  deriving DecidableEq, Repr

/-- A sink: where it writes, from which level up, and in which layout. -/
structure Sink where
  target : Target
  threshold : Level
  layout : Layout
  deriving DecidableEq, Repr

/-- The log of a program: its sinks, the level of all loggers, the level of the loggers of the file
    watching library, and what has been written so far. -/
structure Journal where
  time : Stamp
  sinks : List Sink
  level : Level
  libraryLevel : Level
  console : String
  errors : String
  files : FileTree
  deriving Repr

namespace Journal

/-- The loggers of the file watching library. -/
def libraryGroup : String := "watchdog"

/-- The level from which a logger lets records pass. -/
def levelOf (j : Journal) (logger : String) : Level :=
  if isWithin libraryGroup logger && j.libraryLevel ≠ .unset then j.libraryLevel else j.level

/-- One line more at a sink. A file takes no line that holds half of a surrogate pair. -/
def write (j : Journal) (target : Target) (line : String) : Journal :=
  match target with
  | .console => { j with console := j.console ++ line }
  | .file place =>
    match j.files.get? place, Text.isWhole line.toList with
    | some (.file bytes), true =>
      { j with files := j.files.set place (some (.file (bytes ++ line.toUTF8.toList))) }
    | _, _ => j

def deliver (r : Record) (j : Journal) (k : Sink) : Journal :=
  if k.threshold.number ≤ r.level.number then
    j.write k.target (k.layout.line j.time r .none ++ "\n")
  else j

/-- The level from which records are shown where there is no sink. -/
def lastResort : Level := .warning

/-- One record more. -/
def emit (r : Record) (j : Journal) : Journal :=
  if r.level.number < (j.levelOf r.logger).number then j
  else if j.sinks.isEmpty then
    if lastResort.number ≤ r.level.number then { j with errors := j.errors ++ r.message ++ "\n" }
    else j
  else j.sinks.foldl (deliver r) j

instance : Logbook Journal := ⟨emit⟩

/-- A record below the level of its logger goes nowhere. -/
theorem emit_below {r : Record} {j : Journal}
    (h : r.level.number < (j.levelOf r.logger).number) : emit r j = j := by simp [emit, h]

/-- The journal before anything is known: a console for all but details. -/
def preliminary (time : Stamp) (files : FileTree) : Journal :=
  ⟨time, [⟨.console, .unset, .preliminary⟩], .info, .unset, "", "", files⟩

/-- A journal without sinks. -/
def bare (time : Stamp) (files : FileTree) : Journal := ⟨time, [], .debug, .unset, "", "", files⟩

/-! ## 2. Levels by name -/

/-- The names of levels. -/
def levelNames : List (String × Level) :=
  [("CRITICAL", .critical), ("FATAL", .critical), ("ERROR", .error), ("WARN", .warning),
    ("WARNING", .warning), ("INFO", .info), ("DEBUG", .debug), ("NOTSET", .unset)]

/-- Names that mean something else than a level where levels are looked up, with what the lookup
    then complains of. -/
def strayNames : List (String × Fault) :=
  [("BASIC_FORMAT", .unknownLevel "%(levelname)s:%(name)s:%(message)s"),
    ("_STYLES", .levelNotInteger
      ("\x7b'%': (<class 'logging.PercentStyle'>, '%(levelname)s:%(name)s:%(message)s'), " ++
        "'\x7b': (<class 'logging.StrFormatStyle'>, " ++
        "'\x7blevelname\x7d:\x7bname\x7d:\x7bmessage\x7d'), " ++
        "'$': (<class 'logging.StringTemplateStyle'>, " ++
        "'$\x7blevelname\x7d:$\x7bname\x7d:$\x7bmessage\x7d')\x7d"))]

/-- The level with the given name in any case, and the level for information where there is none. -/
def levelNamed (name : String) : Except Fault Level :=
  let name := String.ofList (Text.toUpper name.toList)
  match levelNames.find? (·.1 = name), strayNames.find? (·.1 = name) with
  | some (_, level), _ => .ok level
  | none, some (_, fault) => .error fault
  | none, none => .ok .info

/-- The level that a setting gives: a number, or a name. -/
def resolveLevel : Value → Except Fault Level
  | .int i => .ok ⟨i⟩
  | .bool b => .ok ⟨if b then 1 else 0⟩
  | v => levelNamed v.shown

/-! ## 3. Setting up -/

/-- Opens a log file: the directories that it needs are made, and the file if it is not there. -/
def openFile (cwd p : Path) : Action Journal (List String) := fun j =>
  if !p.parent.isAskable then (.raised .nulInPath, j)
  else
    match j.files.makeDirs cwd p.parent with
    | .error (e, spot) => (.raised (.os ⟨some e.number, e.text, some spot.text⟩), j)
    | .ok files =>
      let j := { j with files := files }
      let full := cwd.absolute p
      if !full.isAskable then (.raised .nulInPath, j)
      else
        match files.write full id, files.locate .opening .top full with
        | .ok files, .ok place => (.done place, { j with files := files })
        | .error e, _ | _, .error e =>
          (.raised (.os ⟨some e.number, e.text, some full.text⟩), j)

/-- The logger above all others. -/
def rootLogger : String := "root"

/-- The logger that is meant by a name; an empty one means the one above all others. -/
def loggerNamed (name : String) : String := if name = "" then rootLogger else name

def addSink (k : Sink) : Action Journal Unit :=
  .modify fun j => { j with sinks := j.sinks ++ [k] }

/-- A log file that cannot be opened costs one record and nothing else. -/
def addFile (cwd p : Path) : Action Journal Unit :=
  (do addSink ⟨.file (← openFile cwd p), .debug, .regular⟩ : Action Journal Unit).recover fun
    | .os e => some (.log .error rootLogger
        (s!"Failed to initialize file logging handler for '{p}': {e.message}. " ++
          "Logging to file will be disabled."))
    | _ => none

/-- Sets the log up anew: a console from the given level up, and a file for everything if one is
    wanted. -/
def setUp (cwd : Path) (level : Value) (file : Option Path) : Action Journal Unit := do
  .modify fun j => { j with level := .debug, sinks := [] }
  let threshold ← .ofExcept (resolveLevel level)
  addSink ⟨.console, threshold, .regular⟩
  match file with
  | some p => addFile cwd p
  | none => pure ()
  .modify fun j => { j with libraryLevel := .info }

/-- Without a log file the console is the only sink. -/
theorem setUp_sinks_of_none {cwd : Path} {v : Value} {l : Level} (h : resolveLevel v = .ok l)
    (j : Journal) :
    (setUp cwd v none j).2.sinks = [⟨.console, l, .regular⟩] ∧
      (setUp cwd v none j).2.level = .debug := by
  simp [setUp, h, Action.after, Action.ofExcept, addSink]

/-- What was set up before does not matter. -/
theorem setUp_forgets (cwd : Path) (v : Value) (file : Option Path) (j : Journal)
    (sinks : List Sink) (level : Level) :
    setUp cwd v file { j with sinks := sinks, level := level } = setUp cwd v file j := rfl

end Journal

end Respawn.Log
