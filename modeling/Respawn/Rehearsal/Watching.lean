import Respawn.Rehearsal.Stage

/-!
# Rehearsing the watcher

A watcher is taken through a list of moves: changes and events arrive, files come and go, observers
die, and the watcher is started, stopped and asked for triggers. Moves can also be laid down for the
time in which the watcher lets a burst land.

* `pull_blocked`: where nothing can come, nothing is asked for.
-/

namespace Respawn.Rehearsal

open Watch (Watcher Event)

/-- One move. -/
inductive Move where
  | change (path : String)
  | event (e : Event)
  | wait (timeout : Option Seconds) (during : Option (List Move))
  | start
  | stop
  | enter
  | killObserver
  | remove (p : Path)
  | put (p : Path) (e : Stage.Entry)
  | directories
  | during (moves : List Move)
  | triggers (poll : Seconds) (steps : List (List Move))

/-- What is got from asking for one more trigger. -/
inductive Pull where
  | trigger (seq : Nat)
  | ended
  | blocked
  deriving DecidableEq, Repr

/-- The answer to a move. -/
inductive Reply where
  | nothing
  | entered
  | delivered (received : Bool)
  | trigger (seq : Nat)
  | directories (paths : List Path)
  | pulls (results : List Pull)
  deriving DecidableEq, Repr

/-- A watcher in a rehearsal. -/
abbrev Scene : Type := Watcher Seconds Nat × Stage Move

namespace Scene

variable {α : Type}

/-- What is laid down for the next burst. -/
def lay (moves : List Move) : Action Scene Unit :=
  .modify fun s => (s.1, { s.2 with during := moves })

/-- The surroundings of the watcher, given how a move is made. Waiting for a change takes no time;
    while a burst lands, what is laid down is done, once. -/
def surroundings (act : Move → Action Scene Unit) : Watch.Host Seconds Nat (Stage Move) :=
  Stage.observers (fun _ => pure ()) do
    let s ← .read id
    lay []
    Action.each act s.2.during

/-- The time between two looks if none is given. -/
def defaultPoll : Seconds := .real (.ofInt 1)

/-- Whether one more trigger can be asked for without waiting forever. -/
def isReady (s : Scene) : Bool := s.2.mailbox.pending.isSome || s.2.mailbox.stopped

/-- How often the watcher waits for one trigger. -/
def patience : Nat := 1000

/-- Asks for one more trigger, unless the triggers have ended already. -/
def pull (h : Watch.Host Seconds Nat (Stage Move)) (poll : Seconds) (ended : Bool) :
    Action Scene Pull := do
  let s ← .read id
  if !isReady s then pure .blocked
  else if ended then pure .ended
  else
    match ← Watcher.next h s.2.cwd poll patience with
    | some t => pure (.trigger t.seq)
    | none => pure .ended

/-- Makes the moves of each step and asks for one more trigger after it. -/
def pulls (h : Watch.Host Seconds Nat (Stage Move)) (act : Move → Action Scene Unit)
    (poll : Seconds) (ended : Bool) : List (List Move) → Action Scene (List Pull)
  | [] => pure []
  | step :: rest => do
    Action.each act step
    let p ← pull h poll ended
    let later ← pulls h act poll (ended || p = .ended) rest
    pure (p :: later)

/-- One move, given how moves within it are made. -/
def perform (act : Move → Action Scene Unit) : Move → Action Scene Reply
  | .change path => do
    (Stage.bring path).inner
    pure .nothing
  | .event e => do pure (.delivered (← (Stage.deliver e).inner))
  | .wait timeout moves => do
    match moves with
    | some moves => lay moves
    | none => pure ()
    let s ← .read id
    let found ← (Watcher.wait (surroundings act) s.2.cwd timeout).ensuring (lay [])
    pure (found.elim .nothing fun t => .trigger t.seq)
  | .start => do
    let s ← .read id
    Watcher.start (surroundings act) s.2.cwd
    pure .nothing
  | .stop => do
    Watcher.stop (surroundings act)
    pure .nothing
  | .enter => do
    let s ← .read id
    Watcher.start (surroundings act) s.2.cwd
    pure .entered
  | .killObserver => do
    (Stage.onFleet Fleet.killCurrent).inner
    pure .nothing
  | .remove p => do
    (Stage.remove p).inner
    pure .nothing
  | .put p e => do
    (Stage.put p e).inner
    pure .nothing
  | .directories => .read fun s => .directories s.1.directories
  | .during moves => do
    lay moves
    pure .nothing
  | .triggers poll steps => do
    pure (.pulls (← pulls (surroundings act) act poll false steps))

/-- A move; moves within moves are made down to the given depth. -/
def act : Nat → Move → Action Scene Reply
  | 0 => fun _ => .exhausted
  | depth + 1 => perform fun m => do
    let _ ← act depth m

/-- Where nothing can come, nothing is asked for. -/
theorem pull_blocked {s : Scene} (hr : isReady s = false)
    (h : Watch.Host Seconds Nat (Stage Move)) (poll : Seconds) (ended : Bool) :
    pull h poll ended s = (.done .blocked, s) := by
  simp [pull, Action.after, hr]

end Scene

end Respawn.Rehearsal
