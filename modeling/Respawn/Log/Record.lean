/-!
# Log records

A record is a message, the logger it was given to, and how grave it is. A logger is below another
one if its name goes on after that name and a dot.

* `isWithin_self`: every logger is within itself;
* `name_of_not_standard`: a level without a name is shown by its number.
-/

namespace Respawn.Log

/-- How grave a record is. -/
structure Level where
  number : Int
  deriving DecidableEq, Repr

namespace Level

def unset : Level := ⟨0⟩
def debug : Level := ⟨10⟩
def info : Level := ⟨20⟩
def warning : Level := ⟨30⟩
def error : Level := ⟨40⟩
def critical : Level := ⟨50⟩

/-- The levels that have names. -/
def standard : List (Level × String) :=
  [(unset, "NOTSET"), (debug, "DEBUG"), (info, "INFO"), (warning, "WARNING"), (error, "ERROR"),
    (critical, "CRITICAL")]

def name (l : Level) : String :=
  match standard.find? (·.1 = l) with
  | some (_, name) => name
  | none => s!"Level {l.number}"

theorem name_of_not_standard {l : Level} (h : l ∉ standard.map (·.1)) :
    l.name = s!"Level {l.number}" := by
  have : standard.find? (·.1 = l) = none := by
    rw [List.find?_eq_none]
    intro x hx hl
    exact h (List.mem_map.2 ⟨x, hx, by simpa using hl⟩)
  rw [name, this]

end Level

/-- One message for the log. -/
structure Record where
  level : Level
  logger : String
  message : String
  deriving DecidableEq, Repr

/-- Whether a logger is the one named `group` or below it. -/
def isWithin (group logger : String) : Bool :=
  logger = group || (group ++ ".").toList.isPrefixOf logger.toList

theorem isWithin_self (logger : String) : isWithin logger logger = true := by simp [isWithin]

/-- What keeps records: a state with a log. -/
class Logbook (σ : Type) where
  note : Record → σ → σ

instance {α σ : Type} [Logbook σ] : Logbook (α × σ) where
  note r s := (s.1, Logbook.note r s.2)

@[simp] theorem note_mk {α σ : Type} [Logbook σ] (r : Record) (a : α) (s : σ) :
    Logbook.note r (a, s) = (a, Logbook.note r s) := rfl

/-- A list of records keeps them in order. -/
instance : Logbook (List Record) where
  note r rs := rs ++ [r]

end Respawn.Log
