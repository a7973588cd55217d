import Respawn.Child.Launch
import Respawn.Settings.Basic

/-!
# Plans from the settings

How the program is launched and stopped follows from the settings, apart from what is given instead.

* `stopPlan_given`: what is given counts before the settings;
* `launchPlan_unnamed`: an empty name is none.
-/

namespace Respawn.Child

/-- How long one poll takes: a tenth of a second. -/
def pollTick : Seconds := .real (.ofDecimal false 1 (-1))

/-- What is given, or else what the settings say. -/
def orSetting (given : Option Seconds) (s : Settings) (name : String) : Except Fault Seconds :=
  match given with
  | some t => .ok t
  | none => s.getSeconds name

/-- How a tree is stopped. -/
def stopPlan (s : Settings) (grace patience : Option Seconds) :
    Except Fault (StopPlan Seconds) := do
  let grace ← orSetting grace s "GRACEFUL_SHUTDOWN_TIMEOUT"
  let patience ← orSetting patience s "KILL_TIMEOUT"
  pure ⟨grace, patience, pollTick⟩

/-- The name that the program goes by; an empty one is none. -/
def chosenName (s : Settings) : Option String → Except Fault String
  | none | some "" => (s.get "CHILD_PROCESS_NAME").map Value.shown
  | some name => .ok name

/-- Whether output is logged. -/
def chosenCapture (s : Settings) : Option Bool → Except Fault Bool
  | none => (s.get "CAPTURE_CHILD_OUTPUT").map Value.isTrue
  | some capture => .ok capture

/-- How the program is launched. -/
def launchPlan (s : Settings) (isolation : Isolation) (name : Option String)
    (capture : Option Bool) (window : Option Seconds) : Except Fault (LaunchPlan Seconds) := do
  let name ← chosenName s name
  let capture ← chosenCapture s capture
  let window ← orSetting window s "STARTUP_CHECK_SECONDS"
  pure ⟨name, capture, window, isolation⟩

/-- What is given counts before the settings. -/
theorem stopPlan_given (s : Settings) (grace patience : Seconds) :
    stopPlan s (some grace) (some patience) = .ok ⟨grace, patience, pollTick⟩ := rfl

theorem launchPlan_unnamed (s : Settings) (isolation : Isolation) (capture : Option Bool)
    (window : Option Seconds) :
    launchPlan s isolation (some "") capture window =
      launchPlan s isolation none capture window := rfl

end Respawn.Child
