import Respawn.Log.Journal
import Respawn.Child.Plans
import Respawn.Settings.Overrides
import Respawn.Supervisor
import Respawn.Watch.Watcher

/-!
# The session

A session is one run of the whole program. It sets the log up, settles its role and the command line
of the server, starts the watcher, and then supervises until it is told to end. On every way out of
the supervision, what is held is stopped and so is the watcher.

* `supervise_closes`: however the supervision ends, what comes after it is the closing;
* `invocationOf_invalid`: invalid settings cost one record and give no command line.
-/

namespace Respawn

/-- What a session needs of its surroundings. `readEnv` is how the file `.env` is read, and `mayRead`
    tells of which paths the user may read what they lead to. -/
structure Surroundings (O σ : Type) where
  cwd : Path
  tree : σ → FileTree
  mayRead : σ → Path → Bool
  readEnv : Settings.EnvReader
  processes : Child.Host Seconds σ
  observers : Watch.Host Seconds O σ
  isolation : Child.Isolation
  setUpLog : Value → Option Path → Action σ Unit
  setTitle : String → Action σ Unit

namespace Session

def logger : String := "console"

/-- How a session ends. -/
inductive Ending where
  | finished
  | nothingToWatch
  | invalidSettings
  deriving DecidableEq, Repr

def Ending.exitCode : Ending → Nat
  | .finished => 0
  | .nothingToWatch => 1
  | .invalidSettings => 2

/-- How many rounds a session may take, and how many polls of processes each of its waits. -/
structure Budget where
  rounds : Nat
  polls : Nat
  deriving DecidableEq, Repr

variable {O σ α : Type} [Log.Logbook σ] [Watch.Mailboxed σ] [Stoppable σ]

/-! ## 1. Preparation -/

/-- The level of the console: the one of the settings unless more detail is asked for. -/
def consoleLevel (request : Request) (s : Settings) : Except Fault Value :=
  if request.verbose then .ok (.int Log.Level.debug.number) else s.get "LOG_LEVEL"

/-- The log file that the settings ask for. -/
def logFile (s : Settings) : Except Fault (Option Path) := do
  match ← s.get "LOG_FILE_PATH" with
  | .null => pure none
  | v => (Settings.toPath v).map some

/-- The command line of the server, or nothing if the settings are invalid. -/
def invocationOf (r : Role) (s : Settings) : Action σ (Option Invocation) :=
  (do pure (some (← Invocation.prepare r s)) : Action σ (Option Invocation)).recover fun f =>
    if f.isValueFault then some (do
      .log .critical logger s!"Invalid configuration: {f}"
      pure none)
    else none

omit [Watch.Mailboxed σ] [Stoppable σ] in
theorem invocationOf_invalid {r : Role} {s : Settings} {f : Fault}
    (h : Invocation.build r s = .error f) (hf : f.isValueFault = true) (t : σ) :
    invocationOf r s t = (.done none, Log.Logbook.note
      ⟨.critical, logger, s!"Invalid configuration: {f}"⟩ t) := by
  simp [invocationOf, Invocation.prepare, h, hf, Action.recover, Action.after, Action.ofExcept]

/-- A watcher for the watch set of the settings. -/
def watcherOf (w : Surroundings O σ) (s : Settings) : Action σ (Watch.Watcher Seconds O) := do
  let pattern ← .ofExcept (s.get "WATCH_GLOB")
  let base ← .ofExcept ((s.get "WATCH_BASE_DIR").bind Settings.toPath)
  let debounce ← .ofExcept (s.getSeconds "DEBOUNCE_SECONDS")
  let tree ← .read w.tree
  let mayRead ← .read w.mayRead
  Watch.Watcher.ofPattern w.cwd tree pattern base debounce mayRead

/-- An action on a state of its own, from a given one; the answer is the state it leaves. -/
def carrying {τ : Type} (t : τ) (x : Action (τ × σ) Unit) : Action σ τ := fun s =>
  match x (t, s) with
  | (.done _, t, s) => (.done t, s)
  | (.raised f, _, s) => (.raised f, s)
  | (.unfinished, _, s) => (.unfinished, s)

/-- A watcher that observes, or nothing if there is nothing that can be watched. -/
def startedWatcher (w : Surroundings O σ) (s : Settings) :
    Action σ (Option (Watch.Watcher Seconds O)) :=
  (do
    let watcher ← watcherOf w s
    let watcher ← carrying watcher (Watch.Watcher.start w.observers w.cwd)
    pure (some watcher) : Action σ (Option (Watch.Watcher Seconds O))).recover fun
  | .complaint (.watchSetup path reason) => some (do
    .log .critical logger
      s!"{Fault.complaint (.watchSetup path reason)}. Nothing to supervise, exiting."
    pure none)
  | _ => none

/-! ## 2. Supervision -/

/-- The crew of a session: the system's processes, and the watcher for the triggers. -/
def crew (w : Surroundings O σ) (launch : Child.LaunchPlan Seconds)
    (stop : Child.StopPlan Seconds) (polls : Nat) :
    Supervisor.Crew Seconds (Watch.Watcher Seconds O × σ) where
  launch i := (Child.launch w.processes stop launch polls i).inner
  stop c := (Child.stop w.processes stop polls c).inner
  poll c := (w.processes.poll c.pid).inner
  wait _ interval := Watch.Watcher.wait w.observers w.cwd (some interval)

/-- Stops what is held, and then the watcher. -/
def close (w : Surroundings O σ)
    (crew : Supervisor.Crew Seconds (Watch.Watcher Seconds O × σ)) :
    Action (Supervisor × (Watch.Watcher Seconds O × σ)) Unit := do
  Supervisor.shutdown crew
  (Watch.Watcher.stop w.observers).inner
  let s ← Supervisor.own
  .log .info logger s!"Supervisor stopped after {s.restarts} restart(s)."

/-- Supervises until a shutdown is asked for or the user interrupts. -/
def untilInterrupted (crew : Supervisor.Crew Seconds (Watch.Watcher Seconds O × σ))
    (interval : Seconds) (rounds : Nat) :
    Action (Supervisor × (Watch.Watcher Seconds O × σ)) Unit :=
  (Supervisor.run crew interval rounds).recover fun
    | .interrupted => some (.log .warning logger "Supervisor loop interrupted by user.")
    | _ => none

/-- Supervises and closes. -/
def supervise (w : Surroundings O σ)
    (crew : Supervisor.Crew Seconds (Watch.Watcher Seconds O × σ)) (interval : Seconds)
    (rounds : Nat) : Action (Supervisor × (Watch.Watcher Seconds O × σ)) Unit :=
  (untilInterrupted crew interval rounds).ensuring (close w crew)

/-- **However the supervision ends, what comes after it is the closing.** -/
theorem supervise_closes (w : Surroundings O σ)
    (crew : Supervisor.Crew Seconds (Watch.Watcher Seconds O × σ)) (interval : Seconds)
    (rounds : Nat) (s : Supervisor × (Watch.Watcher Seconds O × σ))
    (h : (untilInterrupted crew interval rounds s).1 ≠ .unfinished) :
    (supervise w crew interval rounds s).2 =
      (close w crew (untilInterrupted crew interval rounds s).2).2 :=
  Action.snd_ensuring h _

/-- A session with a watcher that observes. -/
def superviseWith (w : Surroundings O σ) (s : Settings) (budget : Budget) (i : Invocation)
    (watcher : Watch.Watcher Seconds O) : Action σ Unit := do
  let launch ← .ofExcept (Child.launchPlan s w.isolation none none none)
  let stop ← .ofExcept (Child.stopPlan s none none)
  let interval ← .ofExcept (s.getSeconds "SUPERVISOR_SLEEP_INTERVAL")
  let crew := crew w launch stop budget.polls
  let _ ← carrying watcher (do
    let _ ← carrying (Supervisor.ofInvocation i) (supervise w crew interval budget.rounds)
    pure ())

/-! ## 3. The whole -/

def title (r : Role) : String := s!"devloop - Supervisor ({r})"

/-- What a session does once its command line is known. -/
def proceed (w : Surroundings O σ) (s : Settings) (budget : Budget) (r : Role) (i : Invocation) :
    Action σ Ending := do
  w.setTitle (title r)
  .log .info logger s!"Role: {r}"
  match ← startedWatcher w s with
  | none => pure .nothingToWatch
  | some watcher =>
    superviseWith w s budget i watcher
    pure .finished

/-- A session under settings that are loaded. -/
def conduct (w : Surroundings O σ) (s : Settings) (budget : Budget) (args : List String) :
    Action σ Ending := do
  let request := Request.parse args
  let level ← .ofExcept (consoleLevel request s)
  let file ← .ofExcept (logFile s)
  w.setUpLog level file
  let role ← .ofExcept (Role.derive request.selector s)
  match ← invocationOf role s with
  | none => pure .invalidSettings
  | some i => proceed w s budget role i

/-- A whole session, from the loading of the settings on. -/
def run (w : Surroundings O σ) (environment : EnvFile.Bindings) (budget : Budget)
    (args : List String) : Action σ Ending := do
  let tree ← .read w.tree
  let loaded := Settings.effective environment w.cwd tree w.readEnv
  Child.noteAll loaded.records
  let s ← .ofExcept loaded.result
  conduct w s budget args

end Session

end Respawn
