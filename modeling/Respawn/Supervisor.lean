import Respawn.Child.Launch
import Respawn.Watch.Watcher

/-!
# The supervisor

The supervisor holds at most one instance of the program and restarts it on every trigger. Restarts
are strictly sequential: the old instance has ended before the new one is launched. A failed start
leaves nothing held and waits for the next trigger; a failed stop keeps the old instance.

* `start_held`: nothing is launched while an instance is held;
* `stop_none`: without an instance there is nothing to stop;
* `rounds_of_asked`: once shutdown is asked for, the loop asks for no further trigger.
-/

namespace Respawn

/-- A state in which a shutdown can be asked for. -/
class Stoppable (σ : Type) where
  asked : σ → Bool
  ask : σ → σ
  asked_ask (s : σ) : asked (ask s) = true

attribute [simp] Stoppable.asked_ask

instance {α σ : Type} [Stoppable σ] : Stoppable (α × σ) where
  asked s := Stoppable.asked s.2
  ask s := (s.1, Stoppable.ask s.2)
  asked_ask s := Stoppable.asked_ask s.2

@[simp] theorem asked_mk {α σ : Type} [Stoppable σ] (a : α) (s : σ) :
    Stoppable.asked (a, s) = Stoppable.asked s := rfl

@[simp] theorem ask_mk {α σ : Type} [Stoppable σ] (a : α) (s : σ) :
    Stoppable.ask (a, s) = (a, Stoppable.ask s) := rfl

namespace Supervisor

def logger : String := "devloop.local.supervisor.supervisor"

/-- What the supervisor is about: nothing, keeping an instance, or stopping one. -/
inductive Phase where
  | idle
  | running
  | stopping
  deriving DecidableEq, Repr

/-- A phase as it is named in messages. -/
def Phase.name : Phase → String
  | .idle => "IDLE"
  | .running => "RUNNING"
  | .stopping => "STOPPING"

/-- A phase as a value. -/
def Phase.word : Phase → String
  | .idle => "idle"
  | .running => "running"
  | .stopping => "stopping"

/-- Who does the work: launching, stopping and polling an instance, and waiting for a trigger. -/
structure Crew (T σ : Type) where
  launch : Invocation → Action σ Child.Handle
  stop : Child.Handle → Action σ Unit
  poll : Child.Handle → Action σ (Option Int)
  wait : Phase → T → Action σ (Option Watch.Trigger)

end Supervisor

/-- The command line of every start, the instance that is held, and how often it was restarted. -/
structure Supervisor where
  invocation : Invocation
  child : Option Child.Handle
  phase : Supervisor.Phase
  restarts : Nat
  deriving Repr

namespace Supervisor

variable {T σ : Type} [Log.Logbook σ]

def ofInvocation (i : Invocation) : Supervisor := ⟨i, none, .idle, 0⟩

def own : Action (Supervisor × σ) Supervisor := .read Prod.fst

def change (f : Supervisor → Supervisor) : Action (Supervisor × σ) Unit :=
  .modify fun s => (f s.1, s.2)

/-! ## 1. Starting and stopping -/

/-- What is said of a program that did not start. -/
def unstartedRecord (f : Fault) : Log.Record :=
  ⟨.error, logger, s!"{f}. Waiting for the next change to retry."⟩

/-- The instance that a launch gives, or nothing if the program did not start. -/
def tryLaunch (crew : Crew T σ) (i : Invocation) : Action σ (Option Child.Handle) :=
  (do pure (some (← crew.launch i)) : Action σ (Option Child.Handle)).recover fun
    | .complaint (.childStart argv reason code) => some (do
      .modify (Log.Logbook.note (unstartedRecord (.complaint (.childStart argv reason code))))
      pure none)
    | _ => none

/-- Launches an instance; the answer tells whether it runs. -/
def start (crew : Crew T σ) : Action (Supervisor × σ) Bool := do
  let s ← own
  match s.child with
  | some held => .raise (.alreadyHeld held.pid)
  | none =>
    match ← (tryLaunch crew s.invocation).inner with
    | none =>
      change fun s => { s with phase := .idle }
      pure false
    | some c =>
      change fun s => { s with child := some c, phase := .running }
      pure true

/-- What is said of an instance that outlived its stop. -/
def survivedRecord (f : Fault) : Log.Record :=
  ⟨.critical, logger, s!"{f} Keeping the old instance; the next change will retry."⟩

/-- Whether stopping an instance succeeds; it does not if a process of its tree survives. -/
def tryStop (crew : Crew T σ) (c : Child.Handle) : Action σ Bool :=
  (do crew.stop c; pure true : Action σ Bool).recover fun
    | .complaint (.childSurvived pid) => some (do
      .modify (Log.Logbook.note (survivedRecord (.complaint (.childSurvived pid))))
      pure false)
    | _ => none

/-- Stops the instance that is held; the answer tells whether none is left. -/
def stop (crew : Crew T σ) : Action (Supervisor × σ) Bool := do
  match (← own).child with
  | none =>
    change fun s => { s with phase := .idle }
    pure true
  | some c =>
    change fun s => { s with phase := .stopping }
    if ← (tryStop crew c).inner then
      change fun s => { s with child := none, phase := .idle }
      pure true
    else
      change fun s => { s with phase := .running }
      pure false

/-- Stops the instance that is held, if any, and starts a new one. -/
def restart (crew : Crew T σ) : Action (Supervisor × σ) Bool := do
  change fun s => { s with restarts := s.restarts + 1 }
  if ← stop crew then start crew else pure false

/-! ## 2. The loop -/

/-- What is said of an instance that ended by itself. -/
def endedRecord (c : Child.Handle) (code : Int) : Log.Record :=
  if code = 0 then
    ⟨.warning, logger, s!"{Child.capitalized c.name} (PID {c.pid}) exited. " ++
      "Waiting for the next change to start it again."⟩
  else
    ⟨.error, logger, s!"{Child.capitalized c.name} (PID {c.pid}) exited with code {code}. " ++
      "Waiting for the next change to retry."⟩

/-- Lets go of an instance that ended by itself. -/
def check (crew : Crew T σ) : Action (Supervisor × σ) Unit := do
  match (← own).child with
  | none => pure ()
  | some c =>
    match ← (crew.poll c).inner with
    | none => pure ()
    | some code =>
      .modify (Log.Logbook.note (endedRecord c code))
      change fun s => { s with child := none, phase := .idle }

/-- What is said before a restart. -/
def restartRecord (t : Watch.Trigger) (s : Supervisor) : Log.Record :=
  ⟨.info, logger, s!"Restarting (trigger #{t.seq}, state {s.phase.name})..."⟩

/-- One round of the loop: a restart on a trigger, and otherwise a look at the instance. -/
def round (crew : Crew T σ) (interval : T) : Action (Supervisor × σ) Unit := do
  let s ← own
  match ← (crew.wait s.phase interval).inner with
  | none => check crew
  | some trigger =>
    let s ← own
    .modify (Log.Logbook.note (restartRecord trigger s))
    let _ ← restart crew

variable [Stoppable σ]

/-- Rounds until a shutdown is asked for, at most `patience` of them. -/
def rounds (crew : Crew T σ) (interval : T) : Nat → Action (Supervisor × σ) Unit
  | 0 => .exhausted
  | patience + 1 => do
    if ← .read Stoppable.asked then pure ()
    else
      round crew interval
      rounds crew interval patience

/-- What is said when a run begins. -/
def runRecord (s : Supervisor) : Log.Record :=
  ⟨.info, logger, s!"Supervisor started: {s.invocation}"⟩

/-- Starts the program and restarts it on every trigger until a shutdown is asked for. The instance
    is left running. -/
def run (crew : Crew T σ) (interval : T) (patience : Nat) : Action (Supervisor × σ) Unit := do
  let s ← own
  .modify (Log.Logbook.note (runRecord s))
  let _ ← start crew
  rounds crew interval patience

/-- What is said before the last stop. -/
def shutdownRecord : Log.Record :=
  ⟨.info, logger, "Stopping supervised process before exit..."⟩

/-- Asks for a shutdown and stops the instance that is held. -/
def shutdown (crew : Crew T σ) : Action (Supervisor × σ) Unit := do
  .modify Stoppable.ask
  if (← own).child.isSome then .modify (Log.Logbook.note shutdownRecord)
  let _ ← stop crew

/-! ## 3. Rules -/

omit [Stoppable σ] in
/-- Nothing is launched while an instance is held. -/
theorem start_held (crew : Crew T σ) {s : Supervisor × σ} {held : Child.Handle}
    (h : s.1.child = some held) : start crew s = (.raised (.alreadyHeld held.pid), s) := by
  simp [start, own, Action.after, h]

omit [Stoppable σ] in
/-- Without an instance there is nothing to stop. -/
theorem stop_none (crew : Crew T σ) {s : Supervisor × σ} (h : s.1.child = none) :
    stop crew s = (.done true, { s.1 with phase := .idle }, s.2) := by
  simp [stop, own, change, Action.after, h]

/-- Once a shutdown is asked for, the loop ends. -/
theorem rounds_of_asked (crew : Crew T σ) (interval : T) (patience : Nat) {s : Supervisor × σ}
    (h : Stoppable.asked s = true) : rounds crew interval (patience + 1) s = (.done (), s) := by
  simp [rounds, Action.after, h]

end Supervisor

end Respawn
