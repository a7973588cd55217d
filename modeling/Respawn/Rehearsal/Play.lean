import Respawn.Rehearsal.Stage
import Respawn.Session

/-!
# Rehearsing a whole session

A session is taken through a script: one step happens each time the watcher waits for a change. A step
can bring events, let the observer die, end the server, write files, send a signal or interrupt. Where
the script has ended, the user interrupts.

* `await_of_end`: where the script has ended, a wait is interrupted.
-/

namespace Respawn.Rehearsal

/-- The signals that end a session in order. -/
inductive Signal where
  | terminate
  | hangUp
  deriving DecidableEq, Repr

def Signal.name : Signal → String
  | .terminate => "SIGTERM"
  | .hangUp => "SIGHUP"

/-- One step of a script. `during` is laid down for the next time a burst is let land. -/
inductive Cue where
  | cue (events : List Watch.Event) (observerDies : Bool) (exit : Option Int)
      (writes : List (Path × Stage.Entry)) (signal : Option Signal) (interrupt : Bool)
      (during : Option (List Cue))

namespace Play

open Stage (onTroupe onFleet onJournal)

/-- A signal as it is handled: a shutdown is asked for. -/
def handle (signal : Signal) : Action (Stage Cue) Unit := do
  .log .info Session.logger s!"Received signal {signal.name}. Shutting down..."
  .modify Stoppable.ask

def happen : Cue → Action (Stage Cue) Unit
  | .cue events observerDies exit writes signal interrupt during => do
    Action.each (fun e => do let _ ← Stage.deliver e) events
    if observerDies then onFleet Fleet.killCurrent
    match exit with
    | some code => onTroupe (Troupe.finishLast code)
    | none => pure ()
    Action.each (fun e => Stage.put e.1 e.2) writes
    match during with
    | some cues => .modify fun s => { s with during := cues }
    | none => pure ()
    match signal with
    | some signal => handle signal
    | none => pure ()
    if interrupt then .raise .interrupted else pure ()

/-- One wait for a change: the next step of the script happens. -/
def await (timeout : Option Seconds) : Action (Stage Cue) Unit := do
  onTroupe (Troupe.note (.idle timeout))
  let s ← .read id
  match s.script with
  | [] => .raise .interrupted
  | cue :: rest =>
    .modify fun s => { s with script := rest }
    happen cue

/-- What happens while a burst is let land: what is laid down for it, once. -/
def pause : Action (Stage Cue) Unit := do
  let s ← .read id
  .modify fun s => { s with during := [] }
  Action.each happen s.during

/-- The surroundings of a rehearsed session. Its user may read everything. -/
def surroundings (cwd : Path) : Surroundings Nat (Stage Cue) where
  cwd := cwd
  tree := Stage.tree
  mayRead _ _ := true
  readEnv := Settings.envFile
  processes := Stage.processes
  observers := Stage.observers (fun timeout => (await timeout).inner) pause.inner
  isolation := .session
  setUpLog level file := onJournal (Log.Journal.setUp cwd level file)
  setTitle title := .modify fun s => { s with titles := s.titles ++ [title] }

/-- How many polls each wait for processes may take. -/
def polls : Nat := 1000000

/-- A session before a script. Its rounds are the steps of the script and one more. -/
def perform (environment : EnvFile.Bindings) (args : List String) :
    Action (Stage Cue) Session.Ending := do
  let s ← .read id
  Session.run (surroundings s.cwd) environment ⟨s.script.length + 2, polls⟩ args

/-- Where the script has ended, a wait is interrupted. -/
theorem await_of_end {s : Stage Cue} (h : s.script = []) (timeout : Option Seconds) :
    (await timeout s).1 = .raised .interrupted := by
  simp [await, onTroupe, Troupe.note, Action.after, h]

end Play

end Respawn.Rehearsal
