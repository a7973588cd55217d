import Respawn.Action
import Respawn.Fault.Arguments
import Respawn.Role

/-!
# Invocations

The command line and the working directory of the supervised program. It is built once and used for
every start.

* `build_ok_ne_nil`: a command line that was built is not empty;
* `assemble_primary`: the primary runs the build command alone;
* `assemble_replica`: a replica's flags follow the build command and the separator.
-/

namespace Respawn

/-- A command line and the directory it runs in. -/
structure Invocation where
  argv : List String
  cwd : Path
  deriving DecidableEq, Repr

namespace Invocation

def logger : String := "devloop.local.invocation"

def text (i : Invocation) : String := " ".intercalate i.argv

instance : ToString Invocation := ⟨text⟩

/-- The words of a command line: the build command, and, if there are flags, the separator and then
    the flags. An empty separator is left out. -/
def assemble (command : List Value) (separator : Value) (flags : List Value) : List Value :=
  if flags.isEmpty then command
  else command ++ (if separator.isTrue then [separator] else []) ++ flags

/-- The invocation for a role. -/
def build (r : Role) (s : Settings) : Except Fault Invocation := do
  let command ← (← Settings.get s "BUILD_COMMAND").items
  if command.isEmpty then throw .emptyCommand
  else
    let flags ← r.flags s
    let separator ← Settings.get s "ARGS_SEPARATOR"
    let cwd ← Settings.toPath (← Settings.get s "WATCH_BASE_DIR")
    let argv ← Value.texts (assemble command separator flags)
    pure ⟨argv, cwd⟩

def builtRecord (r : Role) (i : Invocation) : Log.Record :=
  ⟨.debug, logger, s!"Invocation for {r}: {i}"⟩

/-- Builds the invocation for a role and tells the log. -/
def prepare {σ : Type} [Log.Logbook σ] (r : Role) (s : Settings) : Action σ Invocation := do
  let i ← Action.ofExcept (build r s)
  Action.modify (Log.Logbook.note (builtRecord r i))
  pure i

theorem assemble_primary (command : List Value) (separator : Value) :
    assemble command separator [] = command := rfl

theorem assemble_replica (command flags : List Value) (separator : Value) (h : flags ≠ [])
    (hs : separator.isTrue = true) :
    assemble command separator flags = command ++ separator :: flags := by
  cases flags with
  | nil => exact absurd rfl h
  | cons f fs => simp [assemble, hs]

theorem assemble_ne_nil {command : List Value} (h : command ≠ []) (separator : Value)
    (flags : List Value) : assemble command separator flags ≠ [] := by
  unfold assemble
  split
  · exact h
  · cases command with
    | nil => exact absurd rfl h
    | cons c cs => simp

/-- A command line that was built is not empty. -/
theorem build_ok_ne_nil {r : Role} {s : Settings} {i : Invocation} (h : build r s = .ok i) :
    i.argv ≠ [] := by
  unfold build at h
  obtain ⟨_, _, h⟩ := bind_eq_ok.1 h
  obtain ⟨command, _, h⟩ := bind_eq_ok.1 h
  split at h
  · cases h
  · rename_i hc
    obtain ⟨flags, _, h⟩ := bind_eq_ok.1 h
    obtain ⟨separator, _, h⟩ := bind_eq_ok.1 h
    obtain ⟨_, _, h⟩ := bind_eq_ok.1 h
    obtain ⟨_, _, h⟩ := bind_eq_ok.1 h
    obtain ⟨argv, hargv, h⟩ := bind_eq_ok.1 h
    cases h
    rintro (rfl : argv = [])
    exact assemble_ne_nil (by simpa using hc) separator flags (Value.texts_eq_ok hargv)

end Invocation

end Respawn
