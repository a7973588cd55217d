/-!
# Binary floating-point numbers of 64 bits

A finite number is a significand below `2 ^ 53` times a power of two, the power at least `-1074` and
the significand full unless the power is the least one. All arithmetic is exact arithmetic on
naturals followed by one rounding to nearest, a tie going to the even significand.

* `scaleDown_den_pos`: a quotient stays a quotient when it is scaled;
* `truncate_of_nonneg_exponent`: a number without a fraction truncates to itself;
* `lt_irrefl`, `not_nan_lt`, `not_lt_nan`: comparison, in which an undefined number takes no part;
* `add_comm`: addition does not depend on the order of its terms.
-/

namespace Respawn

/-- A binary floating-point number: undefined, infinite, or `significand * 2 ^ exponent`. -/
inductive Binary64 where
  | nan
  | infinite (negative : Bool)
  | finite (negative : Bool) (significand : Nat) (exponent : Int)
  deriving DecidableEq, Repr

namespace Binary64

/-! ## 1. Rounding -/

def leastExponent : Int := -1074

def greatestExponent : Int := 971

/-- Zero, with its sign. -/
def signedZero (negative : Bool) : Binary64 := .finite negative 0 leastExponent

def zero : Binary64 := signedZero false

/-- The quotient rounded to the nearest natural number, a tie going to the even one. -/
def roundQuotient (num den : Nat) : Nat :=
  let quotient := num / den
  let twice := 2 * (num % den)
  if den < twice ∨ (twice = den ∧ quotient % 2 = 1) then quotient + 1 else quotient

/-- The power of a natural number. -/
def power (base k : Nat) : Nat := Nat.pow base k

theorem power_zero (base : Nat) : power base 0 = 1 := rfl

theorem power_succ (base k : Nat) : power base (k + 1) = power base k * base := rfl

theorem power_pos {base : Nat} (h : 0 < base) (k : Nat) : 0 < power base k := by
  induction k with
  | zero => rw [power_zero]; exact Nat.one_pos
  | succ k ih => rw [power_succ]; exact Nat.mul_pos ih h

/-- The quotient `num / den` divided by the power of a base, as a pair of naturals. -/
def scaleDown (base num den : Nat) (e : Int) : Nat × Nat :=
  if 0 ≤ e then (num, den * power base e.toNat) else (num * power base (-e).toNat, den)

/-- A quotient stays a quotient when it is scaled. -/
theorem scaleDown_den_pos {base den : Nat} (hb : 0 < base) (hd : 0 < den) (num : Nat) (e : Int) :
    0 < (scaleDown base num den e).2 := by
  unfold scaleDown
  split
  · exact Nat.mul_pos hd (power_pos hb _)
  · exact hd

/-- The power of two at which `num / den` has a full significand, or the least power. -/
def exponentFor (num den : Nat) : Int :=
  let guess : Int := (num.log2 : Int) - den.log2 - 52
  let (n, d) := scaleDown 2 num den guess
  max leastExponent (if n < d * power 2 52 then guess - 1 else guess)

/-- The number nearest to `num / den`; past the greatest finite number it is infinite. -/
def round (negative : Bool) (num den : Nat) : Binary64 :=
  if num = 0 then signedZero negative
  else
    let e := exponentFor num den
    let (n, d) := scaleDown 2 num den e
    let significand := roundQuotient n d
    let (significand, e) := if significand = power 2 53 then (power 2 52, e + 1) else (significand, e)
    if greatestExponent < e then .infinite negative else .finite negative significand e

/-- The number nearest to an integer. -/
def ofInt (i : Int) : Binary64 := round (i < 0) i.natAbs 1

/-! ## 2. Order -/

/-- A finite number in units of the least positive one. -/
def inUnits (negative : Bool) (significand : Nat) (exponent : Int) : Int :=
  let magnitude : Int := (significand * power 2 (exponent - leastExponent).toNat : Nat)
  if negative then -magnitude else magnitude

/-- Comparison; an undefined number is neither above nor below anything. -/
def lt : Binary64 → Binary64 → Bool
  | .nan, _ | _, .nan => false
  | .infinite a, .infinite b => a && !b
  | .infinite a, .finite .. => a
  | .finite .., .infinite b => !b
  | .finite a m e, .finite b n f => inUnits a m e < inUnits b n f

/-- Equality of values: the two zeros are equal and an undefined number differs from itself. -/
def eq : Binary64 → Binary64 → Bool
  | .nan, _ | _, .nan => false
  | .infinite a, .infinite b => a == b
  | .infinite _, .finite .. | .finite .., .infinite _ => false
  | .finite a m e, .finite b n f => inUnits a m e == inUnits b n f

def le (x y : Binary64) : Bool := lt x y || eq x y

@[simp] theorem not_nan_lt (x : Binary64) : lt .nan x = false := by cases x <;> rfl

@[simp] theorem not_lt_nan (x : Binary64) : lt x .nan = false := by cases x <;> rfl

@[simp] theorem lt_irrefl (x : Binary64) : lt x x = false := by
  cases x with
  | nan => rfl
  | infinite a => cases a <;> rfl
  | finite a m e => simp [lt]

/-! ## 3. Sums and whole numbers -/

/-- The sum, rounded once. -/
def add : Binary64 → Binary64 → Binary64
  | .nan, _ | _, .nan => .nan
  | .infinite a, .infinite b => if a = b then .infinite a else .nan
  | .infinite a, .finite .. => .infinite a
  | .finite .., .infinite b => .infinite b
  | .finite a m e, .finite b n f =>
    let sum := inUnits a m e + inUnits b n f
    if sum = 0 then signedZero (a && b)
    else round (sum < 0) sum.natAbs (power 2 (-leastExponent).toNat)

theorem add_comm (x y : Binary64) : add x y = add y x := by
  cases x <;> cases y <;> simp only [add]
  case infinite.infinite a b => cases a <;> cases b <;> rfl
  case finite.finite a m e b n f => simp only [Int.add_comm, Bool.and_comm]

/-- Why a number has no whole part. -/
inductive NoWholePart where
  | infinite
  | undefined
  deriving DecidableEq, Repr

/-- The whole part: the number without its fraction. -/
def truncate : Binary64 → Except NoWholePart Int
  | .nan => .error .undefined
  | .infinite _ => .error .infinite
  | .finite negative significand exponent =>
    let magnitude : Nat :=
      if 0 ≤ exponent then significand * power 2 exponent.toNat
      else significand / power 2 (-exponent).toNat
    .ok (if negative then -(magnitude : Int) else magnitude)

/-- A number without a fraction truncates to itself. -/
theorem truncate_of_nonneg_exponent (significand : Nat) {exponent : Int} (h : 0 ≤ exponent) :
    truncate (.finite false significand exponent) =
      .ok ((significand * power 2 exponent.toNat : Nat) : Int) := by
  simp [truncate, h]

end Binary64

end Respawn
