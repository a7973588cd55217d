import Respawn.Seconds
import Respawn.Watch.Watcher

/-!
# Scripted observers

A fleet is the list of all observers that were built. The one built last is the current one: events
reach the filter that it was given first, as long as it is alive. Which calls on which observer fail
is laid down beforehand, and everything asked of an observer is noted.

* `current_build`: an observer that was built is the current one;
* `receiver_of_dead`: an observer that is not alive receives nothing.
-/

namespace Respawn.Rehearsal

open Watch (Filter)

/-- The calls on an observer that can fail. -/
inductive Site where
  | schedule
  | start
  deriving DecidableEq, Repr

/-- An observer: whether it is alive, the filter it was given first, and what fails on it. -/
structure Observer where
  alive : Bool
  filter : Option Filter
  failure : Option (Site × OsError)
  deriving Repr

/-- What was asked of an observer, as it is noted. -/
inductive Watching where
  | built
  | scheduled (directory : Path)
  | started
  | stopped
  | joined (limit : Nat)
  | debounced (time : Seconds)
  deriving Repr

/-- All observers, latest last; the failures to come; whether observers live on until they are
    joined; and the notes. -/
structure Fleet where
  observers : List Observer
  failures : List (Option (Site × OsError))
  slowStop : Bool
  notes : List Watching
  deriving Repr

namespace Fleet

/-- A fleet before any observer was built. -/
def waiting (failures : List (Option (Site × OsError))) (slowStop : Bool) : Fleet :=
  ⟨[], failures, slowStop, []⟩

def note (n : Watching) : Action Fleet Unit := .modify fun f => { f with notes := f.notes ++ [n] }

def current (f : Fleet) : Option Observer := f.observers.getLast?

/-- The filter that events reach. -/
def receiver (f : Fleet) : Option Filter :=
  match f.current with
  | some o => if o.alive then o.filter else none
  | none => none

/-- The fleet with one observer changed. -/
def change (f : Fleet) (o : Nat) (g : Observer → Observer) : Fleet :=
  { f with observers := f.observers.modify o g }

/-- Builds an observer; the answer is its place in the fleet. -/
def build : Action Fleet Nat := do
  note .built
  let f ← .read id
  .modify fun f =>
    { f with observers := f.observers ++ [⟨false, none, f.failures.head?.join⟩],
             failures := f.failures.drop 1 }
  pure f.observers.length

/-- Raises what is laid down for a call on an observer. -/
def failAt (o : Nat) (site : Site) : Action Fleet Unit := do
  let f ← .read id
  match f.observers[o]?.bind Observer.failure with
  | some (place, e) => if place = site then .raise (.os e) else pure ()
  | none => pure ()

def schedule (o : Nat) (filter : Filter) (directory : Path) : Action Fleet Unit := do
  note (.scheduled directory)
  .modify (·.change o fun x => { x with filter := x.filter.or (some filter) })
  failAt o .schedule

def start (o : Nat) : Action Fleet Unit := do
  note .started
  failAt o .start
  .modify (·.change o fun x => { x with alive := true })

def stop (o : Nat) : Action Fleet Unit := do
  note .stopped
  .modify fun f => f.change o fun x => { x with alive := x.alive && f.slowStop }

def alive (o : Nat) : Action Fleet Bool := .read fun f => f.observers[o]?.any Observer.alive

def join (o : Nat) (limit : Nat) : Action Fleet Unit := do
  note (.joined limit)
  .modify (·.change o fun x => { x with alive := false })

/-- The current observer dies. -/
def killCurrent : Action Fleet Unit :=
  .modify fun f => f.change (f.observers.length - 1) fun x => { x with alive := false }

/-- An observer that was built is the current one. -/
theorem current_build (f : Fleet) :
    (build f).2.current = some ⟨false, none, f.failures.head?.join⟩ := by
  simp [build, note, current, Action.after]

/-- An observer that is not alive receives nothing. -/
theorem receiver_of_dead {f : Fleet} {o : Observer} (h : f.current = some o)
    (hd : o.alive = false) : f.receiver = none := by simp [receiver, h, hd]

end Fleet

end Respawn.Rehearsal
