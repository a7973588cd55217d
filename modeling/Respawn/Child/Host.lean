import Respawn.Invocation
import Respawn.Child.Output

/-!
# Processes

What the supervisor asks of the operating system, and the handle that it holds on the program it
started.
-/

namespace Respawn.Child

/-- The number of a process. -/
abbrev Pid := Int

/-- Whether a process that is still listed runs or has only not been reaped yet. -/
inductive Status where
  | running
  | zombie
  deriving DecidableEq, Repr

/-- How a program is kept apart from the supervisor, so that its whole tree can be stopped alone: in
    a session of its own, or in a process group of its own where there are no sessions. -/
inductive Isolation where
  | session
  | group
  deriving DecidableEq, Repr

/-- What is to be started: the command line, whether its output is to be piped, and how it is kept
    apart. -/
structure Spawn where
  invocation : Invocation
  piped : Bool
  isolation : Isolation
  deriving DecidableEq, Repr

/-- What the system is asked for: signals to processes and questions about them, and the time. A
    process that is gone answers most of it with a fault. -/
structure Host (T σ : Type) where
  spawn : Spawn → Action σ Pid
  find : Pid → Action σ Unit
  terminate : Pid → Action σ Unit
  kill : Pid → Action σ Unit
  descendants : Pid → Action σ (List Pid)
  status : Pid → Action σ Status
  waitAll : List Pid → T → Action σ (List Pid)
  now : Action σ T
  reap : Pid → T → Action σ (Option Int)
  poll : Pid → Action σ (Option Int)
  pipe : Pid → Channel → Action σ (Option Pipe)
  closePipe : Pid → Channel → Action σ Unit
  inBackground : String → Action σ Unit → Action σ Unit

/-- The one running instance of the supervised program. `found` tells whether the process could be
    found by its number when it was launched. -/
structure Handle where
  pid : Pid
  found : Bool
  argv : List String
  name : String
  deriving DecidableEq, Repr

/-- The name at the start of a sentence. -/
def capitalized (name : String) : String := String.ofList (Text.capitalize name.toList)

namespace Handle

variable {T σ : Type}

/-- Whether the program runs. -/
def isRunning (h : Host T σ) (c : Handle) : Action σ Bool := do
  pure (← h.poll c.pid).isNone

/-- Reads a program's output in the background, one reader for each pipe that it has. -/
def readOutput [Log.Logbook σ] (h : Host T σ) (pid : Pid) (name : String) : Action σ Unit :=
  Action.each (fun channel => do
    match ← h.pipe pid channel with
    | none => pure ()
    | some p =>
      h.inBackground s!"{name}-{channel.word}"
        (readPipe (h.closePipe pid channel) name channel.level p))
    [.output, .errors]

end Handle

end Respawn.Child
