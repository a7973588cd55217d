import Respawn.Child.Stop

/-!
# Launching the program

A launch gives a handle on exactly the process it started. A program that ends with a failure within
the startup window has not started. Until the handle is handed out nobody else can stop the process,
so every fault in between stops it first.

* `verdict_of_zero`: a program that ends without a failure has started;
* `verdict_of_failure`: one that ends with a failure has not.
-/

namespace Respawn.Child

def launchLogger : String := "devloop.local.supervisor.process_utils"

/-- How a program is launched: the name it goes by, whether its output is logged, the window in which
    a failure counts as a failed start, and how it is kept apart. -/
structure LaunchPlan (T : Type) where
  name : String
  capture : Bool
  window : T
  isolation : Isolation
  deriving Repr

variable {T σ : Type} [Log.Logbook σ]

def launchLog (level : Log.Level) (message : String) : Action σ Unit :=
  .log level launchLogger message

/-- What an exit code within the startup window means. -/
def verdict (i : Invocation) : Option Int → Except Fault Unit
  | none => .ok ()
  | some code =>
    if code = 0 then .ok ()
    else .error (.startFailed i.argv s!"exited with code {code}" (.int code))

theorem verdict_of_zero (i : Invocation) : verdict i (some 0) = .ok () := rfl

theorem verdict_of_failure (i : Invocation) {code : Int} (h : code ≠ 0) :
    verdict i (some code) =
      .error (.startFailed i.argv s!"exited with code {code}" (.int code)) := by
  simp [verdict, h]

/-- What is said before a launch. -/
def hail (plan : LaunchPlan T) (i : Invocation) : Action σ Unit :=
  launchLog .info s!"Starting {plan.name}: {i}"

/-- Starts the process. What the system refuses is a failed start. -/
def spawn (h : Host T σ) (plan : LaunchPlan T) (i : Invocation) : Action σ Pid :=
  (h.spawn ⟨i, plan.capture, plan.isolation⟩).recover fun
    | .os e => some (.raise (.startFailed i.argv e.message .null))
    | _ => none

/-- Starts the process and takes hold of it. -/
def takeHold (h : Host T σ) (plan : LaunchPlan T) (i : Invocation) : Action σ Handle := do
  let pid ← spawn h plan i
  let found ← unlessGone (do h.find pid; pure true) (pure false)
  pure ⟨pid, found, i.argv, plan.name⟩

variable [Deferrable T] [LT T] [DecidableLT T] [LE T] [DecidableLE T] [Zero T]

/-- Stops a child whose launch did not come to its end. A survivor is told to the log alone. -/
def discard (h : Host T σ) (plan : StopPlan T) (polls : Nat) (c : Handle) : Action σ Unit :=
  (stop h plan polls c).recover fun
    | .complaint (.childSurvived pid) => some (launchLog .critical
        s!"Could not clean up {c.name} after an aborted start: {Fault.complaint (.childSurvived pid)}")
    | _ => none

/-- Attaches the readers of the output and watches the program through its startup window. -/
def seeThrough (h : Host T σ) (plan : LaunchPlan T) (i : Invocation) (pid : Pid) :
    Action σ Unit := do
  if plan.capture then Handle.readOutput h pid plan.name
  if 0 < plan.window then
    let code ← h.reap pid plan.window
    .ofExcept (verdict i code)

/-- Launches the program. -/
def launch (h : Host T σ) (stopPlan : StopPlan T) (plan : LaunchPlan T) (polls : Nat)
    (i : Invocation) : Action σ Handle := do
  hail plan i
  let c ← takeHold h plan i
  (seeThrough h plan i c.pid).onFault (discard h stopPlan polls c)
  launchLog .info s!"{capitalized plan.name} started with PID: {c.pid}"
  pure c

end Respawn.Child
