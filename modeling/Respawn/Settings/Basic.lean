import Respawn.Action
import Respawn.Seconds
import Respawn.Table
import Respawn.Text.Letter

/-!
# Settings

Settings are values by name. Reading a name without a value is a fault. Only names in capitals are
settings; the rest of what a module of defaults holds is not.

* `get_eq_ok_iff`: reading a name gives its value;
* `get?_ofModule`: a module of defaults gives its names in capitals and no others.
-/

namespace Respawn

/-- Values by name. -/
abbrev Settings := Table Value

namespace Settings

/-- The settings among the values of a module of defaults: those with a name in capitals. -/
def ofModule (values : Table Value) : Settings := values.filter fun e => Text.isUpperName e.1

/-- The value of a name that has to be there. -/
def get (s : Settings) (name : String) : Except Fault Value :=
  match Table.get? s name with
  | some v => .ok v
  | none => .error (.missingSetting name)

/-- The amount of time that a name stands for. -/
def getSeconds (s : Settings) (name : String) : Except Fault Seconds :=
  match get s name with
  | .ok v => Seconds.ofValue v
  | .error f => .error f

theorem get_eq_ok_iff (s : Settings) (name : String) (v : Value) :
    get s name = .ok v ↔ Table.get? s name = some v := by
  unfold get
  cases Table.get? s name <;> simp

/-- A module of defaults gives its names in capitals and no others. -/
theorem get?_ofModule (values : Table Value) (name : String) :
    Table.get? (ofModule values) name =
      if Text.isUpperName name then Table.get? values name else none :=
  Table.get?_filter Text.isUpperName values name

end Settings

/-- What loading settings comes to: the records it made, and the settings or a fault. -/
structure Loading (α : Type) where
  records : List Log.Record
  result : Except Fault α

end Respawn
