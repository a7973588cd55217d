import Respawn.Child.Host
import Respawn.Seconds

/-!
# Scripted processes

A troupe is a set of processes whose reactions are laid down beforehand: what each of them does on a
signal, and whether it lives through its startup window. Everything asked of a process is noted.

* `react_ignore`: a process that ignores a signal stays as it is;
* `settle_settled`: an exit code that was reported once is reported again;
* `elapse_of_gone`: where everything is gone no time passes.
-/

namespace Respawn.Rehearsal

open Child (Pid Status Channel)

/-! ## 1. One process -/

/-- How a process takes a signal. After a number of polls, it is gone. -/
inductive Reaction where
  | exit
  | ignore
  | vanish
  | zombie
  | denied
  | after (polls : Int)
  deriving DecidableEq, Repr

inductive Condition where
  | running
  | zombie
  | gone
  deriving DecidableEq, Repr

/-- What happens in the startup window. -/
inductive Startup where
  | alive
  | interrupt
  | exit (code : Int)
  deriving DecidableEq, Repr

/-- A process: how it is, how it reacts, and with which code it ends. `settled` is the exit code once
    it has been reported. -/
structure Actor where
  pid : Pid
  condition : Condition
  onTerminate : Reaction
  onKill : Reaction
  countdown : Option Int
  children : List Pid
  statusFails : Bool
  hidden : Bool
  startup : Startup
  code : Int
  settled : Option Int
  output : List UInt8
  errors : List UInt8
  deriving DecidableEq, Repr

namespace Actor

/-- The exit code of a process that was killed. -/
def killedCode : Int := -9

/-- A process that runs, obeys signals and prints nothing. -/
def ordinary (pid : Pid) : Actor :=
  ⟨pid, .running, .exit, .exit, none, [], false, false, .alive, killedCode, none, [], []⟩

/-- A process after a signal that it takes in the given way. -/
def react (a : Actor) : Reaction → Except Fault Unit × Actor
  | .exit => (.ok (), { a with condition := .gone })
  | .ignore => (.ok (), a)
  | .vanish => (.error (.noSuchProcess a.pid), { a with condition := .gone })
  | .zombie => (.ok (), { a with condition := .zombie })
  | .denied => (.error (.accessDenied a.pid), a)
  | .after polls => (.ok (), { a with countdown := some polls })

/-- A process after a signal. One that is gone already cannot be found. -/
def signal (a : Actor) (r : Reaction) : Except Fault Unit × Actor :=
  if a.condition = .gone then (.error (.noSuchProcess a.pid), a) else a.react r

/-- A process after one poll. -/
def tick (a : Actor) : Actor :=
  match a.countdown with
  | none => a
  | some left =>
    { a with countdown := some (left - 1),
             condition := if left - 1 ≤ 0 then .gone else a.condition }

/-- A process that ended by itself. -/
def finish (a : Actor) (code : Int) : Actor := { a with condition := .gone, code := code }

/-- A process that is asked for its exit code: once it does not run, the code is settled. -/
def settle (a : Actor) : Actor :=
  if a.condition = .running then a else { a with settled := a.settled.or (some a.code) }

/-- What happens when a process is first waited for. -/
def startUp (a : Actor) : Except Fault Unit × Actor :=
  let started := { a with startup := .alive }
  match a.startup with
  | .alive => (.ok (), started)
  | .interrupt => (.error .interrupted, started)
  | .exit code => (.ok (), started.finish code)

theorem react_ignore (a : Actor) : a.react .ignore = (.ok (), a) := rfl

theorem settle_settled {a : Actor} {code : Int} (h : a.settled = some code) : a.settle = a := by
  unfold settle
  split
  · rfl
  · cases a; simp_all

end Actor

/-! ## 2. What is noted -/

/-- What was asked of the operating system, as it is noted. -/
inductive Note where
  | spawned (s : Child.Spawn)
  | terminated (pid : Pid)
  | killed (pid : Pid)
  | listed (pid : Pid)
  | awaited (pids : List Pid) (time : Seconds)
  | reaped (pid : Pid) (time : Seconds)
  | reading (name : String)
  | pipeClosed
  | idle (time : Option Seconds)
  deriving Repr

/-! ## 3. The troupe -/

/-- What a spawn comes to: a refusal, or a process with the descendants it brings along. -/
inductive Entrance where
  | refused (e : OsError)
  | admitted (lead : Actor) (tree : List Actor)
  deriving Repr

/-- All processes, latest first; the spawns to come; how many processes there were and which spawn
    was the last; how often processes were waited for, and which of these waits fails; the clock; and
    the notes. -/
structure Troupe where
  actors : List Actor
  entrances : List Entrance
  spawned : Nat
  last : Option Pid
  waits : Nat
  failingWait : Option Nat
  clock : Seconds
  notes : List Note
  deriving Repr

namespace Troupe

/-- A troupe before anything was started. -/
def waiting (entrances : List Entrance) (failingWait : Option Nat) : Troupe :=
  ⟨[], entrances, 0, none, 0, failingWait, .real .zero, []⟩

def note (n : Note) : Action Troupe Unit := .modify fun t => { t with notes := t.notes ++ [n] }

def get? (t : Troupe) (pid : Pid) : Option Actor := t.actors.find? (·.pid = pid)

/-- The troupe with every process of a number changed. -/
def change (t : Troupe) (pid : Pid) (f : Actor → Actor) : Troupe :=
  { t with actors := t.actors.map fun a => if a.pid = pid then f a else a }

/-- The troupe with processes added; a number that is taken is taken over. -/
def enter (t : Troupe) (newcomers : List Actor) : Troupe :=
  let gone (a : Actor) : Bool := newcomers.any (·.pid = a.pid)
  { t with actors := newcomers ++ t.actors.filter fun a => !gone a }

/-- The process with a number, which must be there. -/
def require (pid : Pid) : Action Troupe Actor := fun t =>
  match t.get? pid with
  | some a => (.done a, t)
  | none => (.raised (.noSuchProcess pid), t)

/-- A change to the process with a number that comes to an answer or a fault. -/
def act {α : Type} (pid : Pid) (f : Actor → Except Fault α × Actor) : Action Troupe α := do
  let a ← require pid
  .modify fun t => t.change pid fun _ => (f a).2
  .ofExcept (f a).1

/-- The number of the first process that no entrance is laid down for. -/
def firstPid : Pid := 9000

/-- The next spawn. One that nothing is laid down for gives an ordinary process. -/
def spawn (s : Child.Spawn) : Action Troupe Pid := do
  note (.spawned s)
  let t ← .read id
  let next := t.entrances.head?.getD (.admitted (.ordinary (firstPid + t.spawned)) [])
  .modify fun t => { t with entrances := t.entrances.drop 1 }
  match next with
  | .refused e => .raise (.os e)
  | .admitted lead tree =>
    .modify fun t =>
      { t.enter (lead :: tree) with spawned := t.spawned + 1, last := some lead.pid }
    pure lead.pid

/-- Looks a process up by its number. -/
def find (pid : Pid) : Action Troupe Unit := do
  let a ← require pid
  if a.hidden || a.condition = .gone then .raise (.noSuchProcess pid) else pure ()

def terminate (pid : Pid) : Action Troupe Unit := do
  note (.terminated pid)
  act pid fun a => a.signal a.onTerminate

def kill (pid : Pid) : Action Troupe Unit := do
  note (.killed pid)
  act pid fun a => a.signal a.onKill

def descendants (pid : Pid) : Action Troupe (List Pid) := do
  note (.listed pid)
  let a ← require pid
  if a.condition = .gone then .raise (.noSuchProcess pid) else pure a.children

def status (pid : Pid) : Action Troupe Status := do
  let a ← require pid
  if a.statusFails then .raise (.noSuchProcess pid)
  else
    match a.condition with
    | .gone => .raise (.noSuchProcess pid)
    | .zombie => pure .zombie
    | .running => pure .running

/-- Which of the processes are still there. -/
def remaining (t : Troupe) (pids : List Pid) : List Pid :=
  pids.filter fun pid => (t.get? pid).any (·.condition ≠ .gone)

/-- The troupe after a poll of some processes. Time passes only if one of them is still there. -/
def elapse (t : Troupe) (pids : List Pid) (time : Seconds) : Troupe :=
  let t := pids.foldl (fun t pid => t.change pid Actor.tick) t
  if (t.remaining pids).isEmpty then t else { t with clock := t.clock + time }

def waitAll (pids : List Pid) (time : Seconds) : Action Troupe (List Pid) := do
  note (.awaited pids time)
  .modify fun t => { t with waits := t.waits + 1 }
  let t ← .read id
  if t.failingWait = some t.waits then .raise (.noSuchProcess (pids.headD 0))
  else
    .modify fun t => t.elapse pids time
    .read fun t => t.remaining pids

def poll (pid : Pid) : Action Troupe (Option Int) :=
  act pid fun a => (.ok a.settle.settled, a.settle)

def reap (pid : Pid) (time : Seconds) : Action Troupe (Option Int) := do
  note (.reaped pid time)
  act pid Actor.startUp
  poll pid

/-- Lets the process that was started last end with a code. -/
def finishLast (code : Int) : Action Troupe Unit :=
  .modify fun t =>
    match t.last with
    | some pid => t.change pid (·.finish code)
    | none => t

/-- What a process prints. -/
def printed (pid : Pid) : Channel → Action Troupe (List UInt8)
  | .output => .read fun t => (t.get? pid).elim [] Actor.output
  | .errors => .read fun t => (t.get? pid).elim [] Actor.errors

/-- Where everything is gone no time passes. -/
theorem elapse_of_gone (t : Troupe) (time : Seconds) : t.elapse [] time = t := by
  simp [elapse, remaining]

end Troupe

end Respawn.Rehearsal
