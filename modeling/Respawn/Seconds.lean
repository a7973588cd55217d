import Respawn.Fault

/-!
# Seconds

An amount of time as a setting gives it: a whole number, a real one, or a truth value, which counts
as one second or none. Amounts are compared and added by value. A real amount and a whole one have a
sum only if the whole one is not beyond all real numbers.

* `zero_lt_whole`: a whole number of seconds is positive as a number;
* `later_real`: two real amounts have a sum;
* `ofValue_real`: a real setting is an amount.
-/

namespace Respawn

/-- A kind of time in which a moment can be put off. -/
class Deferrable (T : Type) where
  later : T → T → Except Fault T

/-- An amount of time. -/
inductive Seconds where
  | flag (b : Bool)
  | whole (i : Int)
  | real (x : Binary64)
  deriving DecidableEq, Repr

namespace Seconds

/-- The amount as a real number. -/
def value : Seconds → Binary64
  | .flag b => .ofInt (if b then 1 else 0)
  | .whole i => .ofInt i
  | .real x => x

/-- The amount as a whole number, if it is given as one. -/
def whole? : Seconds → Option Int
  | .flag b => some (if b then 1 else 0)
  | .whole i => some i
  | .real _ => none

instance : Zero Seconds := ⟨.whole 0⟩

/-- Whole numbers are compared as such. -/
def lt (x y : Seconds) : Bool :=
  match x.whole?, y.whole? with
  | some i, some j => i < j
  | _, _ => x.value.lt y.value

def le (x y : Seconds) : Bool :=
  match x.whole?, y.whole? with
  | some i, some j => i ≤ j
  | _, _ => x.value.le y.value

def add (x y : Seconds) : Seconds :=
  match x.whole?, y.whole? with
  | some i, some j => .whole (i + j)
  | _, _ => .real (x.value.add y.value)

/-- The amount as a real number, if it is near enough to one. -/
def toReal (x : Seconds) : Except Fault Binary64 :=
  match x, x.value with
  | .real r, _ => .ok r
  | _, .infinite _ => .error .tooLargeReal
  | _, r => .ok r

/-- The sum of two amounts, if it can be told. -/
def later (x y : Seconds) : Except Fault Seconds :=
  match x.whole?, y.whole? with
  | some i, some j => .ok (.whole (i + j))
  | _, _ => do
    let r ← x.toReal
    let s ← y.toReal
    pure (.real (r.add s))

instance : Deferrable Seconds := ⟨later⟩

instance : LT Seconds := ⟨fun x y => x.lt y = true⟩
instance : LE Seconds := ⟨fun x y => x.le y = true⟩
instance : Add Seconds := ⟨add⟩
instance : DecidableLT Seconds := fun x y => inferInstanceAs (Decidable (x.lt y = true))
instance : DecidableLE Seconds := fun x y => inferInstanceAs (Decidable (x.le y = true))

/-- The amount that a setting gives. -/
def ofValue : Value → Except Fault Seconds
  | .bool b => .ok (.flag b)
  | .int i => .ok (.whole i)
  | .real x => .ok (.real x)
  | v => .error (.notComparable v.kind)

def toValue : Seconds → Value
  | .flag b => .bool b
  | .whole i => .int i
  | .real x => .real x

theorem zero_lt_whole (i : Int) : (0 : Seconds) < .whole i ↔ 0 < i := by
  show lt (.whole 0) (.whole i) = true ↔ _
  simp [lt, whole?]

/-- Two real amounts have a sum. -/
theorem later_real (x y : Binary64) : later (.real x) (.real y) = .ok (.real (x.add y)) := rfl

@[simp] theorem ofValue_toValue (x : Seconds) : ofValue x.toValue = .ok x := by
  cases x <;> rfl

theorem ofValue_real (x : Binary64) : ofValue (.real x) = .ok (.real x) := rfl

end Seconds

end Respawn
