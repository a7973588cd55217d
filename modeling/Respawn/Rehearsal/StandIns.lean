import Respawn.Supervisor
import Respawn.Seconds

/-!
# Rehearsing the supervisor

The supervisor alone is rehearsed with stand-ins for launching, stopping and waiting. How each launch
and each stop comes out is laid down beforehand, and so is what every wait yields.

* `poll_held`: the instance launched last reports the exit code that was laid down for it;
* `wait_of_end`: where the script has ended, a wait asks for a shutdown.
-/

namespace Respawn.Rehearsal

open Child (Handle Pid)

/-- How a launch comes out. -/
inductive LaunchResult where
  | success
  | failure (reason : String) (code : Option Int)
  | refused (e : OsError)
  deriving DecidableEq, Repr

/-- How a stop comes out. -/
inductive StopResult where
  | success
  | survived
  | fault (text : String)
  deriving DecidableEq, Repr

/-- What happens during one wait. -/
inductive Turn where
  | interrupt
  | turn (exit : Option Int) (shutdown : Bool) (trigger : Option Nat)
  deriving DecidableEq, Repr

/-- What the stand-ins note. -/
inductive Deed where
  | started (pid : Pid) (argv : List String)
  | startFailed
  | stopped (pid : Pid)
  | stopFailed (pid : Pid)
  | waited (interval : Seconds) (phase : Supervisor.Phase)
  deriving Repr

/-- What the stand-ins work from: the results and turns to come, the name of every instance, how many
    were launched, the exit code of the last one, the shutdown flag, the records and the notes. -/
structure StandIns where
  name : String
  launches : List LaunchResult
  stops : List StopResult
  turns : List Turn
  launched : Nat
  exitCode : Option Int
  asked : Bool
  records : List Log.Record
  deeds : List Deed
  deriving Repr

namespace StandIns

def waiting (name : String) (launches : List LaunchResult) (stops : List StopResult) : StandIns :=
  ⟨name, launches, stops, [], 0, none, false, [], []⟩

instance : Log.Logbook StandIns where
  note r s := { s with records := s.records ++ [r] }

instance : Stoppable StandIns where
  asked := asked
  ask s := { s with asked := true }
  asked_ask _ := rfl

def note (d : Deed) : Action StandIns Unit := .modify fun s => { s with deeds := s.deeds ++ [d] }

/-- The number before that of the first instance. -/
def basePid : Pid := 100

def launch (i : Invocation) : Action StandIns Handle := do
  let s ← .read id
  .modify fun s => { s with launches := s.launches.drop 1 }
  match s.launches.head?.getD .success with
  | .success =>
    let pid := basePid + s.launched + 1
    .modify fun s => { s with launched := s.launched + 1, exitCode := none }
    note (.started pid i.argv)
    pure ⟨pid, true, i.argv, s.name⟩
  | .failure reason code =>
    note .startFailed
    .raise (.startFailed i.argv reason (code.elim .null .int))
  | .refused e =>
    note .startFailed
    .raise (.os e)

def stop (c : Handle) : Action StandIns Unit := do
  let s ← .read id
  .modify fun s => { s with stops := s.stops.drop 1 }
  match s.stops.head?.getD .success with
  | .success => note (.stopped c.pid)
  | .survived =>
    note (.stopFailed c.pid)
    .raise (.survived c.pid)
  | .fault text =>
    note (.stopFailed c.pid)
    .raise (.foreign .runtime text)

/-- The exit code of an instance, if it is the last one and has ended. -/
def poll (c : Handle) : Action StandIns (Option Int) :=
  .read fun s => if c.pid = basePid + s.launched then s.exitCode else none

/-- The instance launched last ends with a code. -/
def exit (code : Int) : Action StandIns Unit := .modify fun s => { s with exitCode := some code }

/-- One turn of the script. Where none is left a shutdown is asked for. -/
def wait (phase : Supervisor.Phase) (interval : Seconds) :
    Action StandIns (Option Watch.Trigger) := do
  note (.waited interval phase)
  let s ← .read id
  .modify fun s => { s with turns := s.turns.drop 1 }
  match s.turns.head? with
  | none =>
    .modify Stoppable.ask
    pure none
  | some .interrupt => .raise .interrupted
  | some (.turn code shutdown trigger) =>
    match code with
    | some code => exit code
    | none => pure ()
    if shutdown then .modify Stoppable.ask
    pure (trigger.map Watch.Trigger.mk)

def crew : Supervisor.Crew Seconds StandIns := ⟨launch, stop, poll, wait⟩

/-- Lays down the turns of the next run. -/
def lay (turns : List Turn) : Action StandIns Unit := .modify fun s => { s with turns := turns }

/-- Runs the supervisor through a script. -/
def run (interval : Seconds) (turns : List Turn) : Action (Supervisor × StandIns) Unit := do
  (lay turns).inner
  Supervisor.run crew interval (turns.length + 2)

/-- The instance launched last reports the exit code that was laid down for it. -/
theorem poll_held (s : StandIns) (c : Handle) (code : Int) (h : c.pid = basePid + s.launched) :
    poll c (exit code s).2 = (.done (some code), (exit code s).2) := by
  simp [poll, exit, h]

/-- Where the script has ended, a wait asks for a shutdown. -/
theorem wait_of_end {s : StandIns} (h : s.turns = []) (phase : Supervisor.Phase)
    (interval : Seconds) : (wait phase interval s).2.asked = true := by
  simp [wait, note, Action.after, h, Stoppable.ask]

end StandIns

end Respawn.Rehearsal
