import Respawn.Child.Host

/-!
# Stopping a process tree

The child and all of its descendants are listed before anything is signalled. With a grace period
they are asked to end first; whatever is left then is killed. The stop has succeeded once the child
is reaped and nothing of the tree is alive.

* `pollUntil_nil`: where nothing is left to wait for, nothing is polled;
* `unlessGone_of_done`: an answer of a process that is there is taken as it is.
-/

namespace Respawn.Child

def stopLogger : String := "devloop.local.supervisor.shutdown"

/-- How a tree is stopped: the time between asking and killing, none of which means to kill at once;
    the time for the tree to be gone after that; and how long one poll takes. -/
structure StopPlan (T : Type) where
  grace : T
  patience : T
  tick : T
  deriving Repr

variable {T σ : Type} [Log.Logbook σ]

def stopLog (level : Log.Level) (message : String) : Action σ Unit := .log level stopLogger message

/-- A process that is gone is passed over. -/
def unlessGone {α : Type} (x : Action σ α) (otherwise : Action σ α) : Action σ α :=
  x.recover fun
    | .noSuchProcess _ => some otherwise
    | _ => none

theorem unlessGone_of_done {α σ : Type} {x : Action σ α} {s t : σ} {a : α}
    (h : x s = (.done a, t)) (otherwise : Action σ α) : unlessGone x otherwise s = (.done a, t) :=
  Action.recover_of_done h _

/-! ## 1. The tree -/

/-- The process that a handle is on, if there still is one to be found. -/
def rootOf (h : Host T σ) (c : Handle) : Action σ (Option Pid) := do
  if c.found then pure (some c.pid)
  else if ← c.isRunning h then
    unlessGone (do h.find c.pid; pure (some c.pid)) (pure none)
  else pure none

/-- The processes of the tree, the child first. -/
def treeOf (h : Host T σ) (c : Handle) : Action σ (List Pid) := do
  match ← rootOf h c with
  | none => pure []
  | some root =>
    let below ← unlessGone (h.descendants root) (do
      stopLog .debug
        s!"Process {c.pid} no longer exists, skipping children retrieval."
      pure [])
    pure (root :: below)

/-- Asks all processes to end. -/
def terminateAll (h : Host T σ) (ps : List Pid) : Action σ Unit :=
  Action.each (fun p => unlessGone (do
    stopLog .debug s!"Sending SIGTERM to PID {p}"
    h.terminate p) (pure ())) ps

/-- Kills all processes. -/
def killAll (h : Host T σ) (ps : List Pid) : Action σ Unit :=
  Action.each (fun p => unlessGone (do
    stopLog .debug s!"Killing PID {p}"
    h.kill p) (pure ())) ps

/-- Whether a process is still alive: one that only waits to be reaped is not. -/
def lives (h : Host T σ) (p : Pid) : Action σ Bool :=
  unlessGone (do pure ((← h.status p) ≠ .zombie)) (pure false)

/-! ## 2. Waiting -/

variable [Deferrable T] [LT T] [DecidableLT T] [LE T] [DecidableLE T] [Zero T]

/-- Polls until no process is left or the deadline has passed, at most `polls` times. -/
def pollUntil (h : Host T σ) (tick deadline : T) : Nat → List Pid → Action σ (List Pid)
  | _, [] => pure []
  | 0, _ :: _ => .exhausted
  | polls + 1, alive => do
    match ← unlessGone (do pure (some (← h.waitAll alive tick))) (pure none) with
    | none => pure []
    | some left =>
      let left ← Action.select (lives h) left
      if deadline ≤ (← h.now) then pure left else pollUntil h tick deadline polls left

/-- The processes that are still alive after the given time. -/
def waitFor (h : Host T σ) (polls : Nat) (tick time : T) (ps : List Pid) :
    Action σ (List Pid) := do
  let deadline ← .ofExcept (Deferrable.later (← h.now) time)
  pollUntil h tick deadline polls ps

omit [Log.Logbook σ] [Deferrable T] [LT T] [DecidableLT T] [Zero T] in
/-- Where nothing is left to wait for, nothing is polled. -/
theorem pollUntil_nil (h : Host T σ) (tick deadline : T) (polls : Nat) :
    pollUntil h tick deadline polls [] = pure [] := by cases polls <;> rfl

/-! ## 3. The stop -/

/-- What is said before a stop. -/
def announce (c : Handle) : Action σ Unit := stopLog .info s!"Stopping {c.name} (PID {c.pid})..."

/-- Asks the tree to end where there is a grace period; what is left of it is to be killed. -/
def askToEnd (h : Host T σ) (plan : StopPlan T) (polls : Nat) (ps : List Pid) :
    Action σ (List Pid) :=
  if 0 < plan.grace then do
    terminateAll h ps
    let left ← waitFor h polls plan.tick plan.grace ps
    if left.isEmpty then pure left
    else
      stopLog .warning
        s!"{left.length} process(es) did not terminate gracefully. Forcing shutdown..."
      pure left
  else pure ps

/-- Ends the processes of a tree, and reaps the child. -/
def bringDown (h : Host T σ) (plan : StopPlan T) (polls : Nat) (c : Handle) (tree : List Pid) :
    Action σ Unit := do
  let left ← askToEnd h plan polls tree
  killAll h left
  let left ← waitFor h polls plan.tick plan.patience left
  match ← h.reap c.pid plan.patience, left with
  | none, _ => .raise (.survived c.pid)
  | some _, p :: _ => .raise (.survived p)
  | some _, [] => stopLog .info s!"{capitalized c.name} (PID {c.pid}) stopped."

/-- Stops the tree of a child and waits until it is gone. -/
def stop (h : Host T σ) (plan : StopPlan T) (polls : Nat) (c : Handle) : Action σ Unit := do
  announce c
  bringDown h plan polls c (← treeOf h c)

end Respawn.Child
