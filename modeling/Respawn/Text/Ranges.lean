/-!
# Sets of characters as sorted code point ranges

A property of characters is a list of closed ranges of code points, in increasing order.

* `inRanges_iff`: a code point is in the set exactly when one of the ranges encloses it;
* `CaseRun.image?_eq_some`: what a run of a case mapping sends where.
-/

namespace Respawn.Text

/-- Whether one of the closed ranges encloses the code point. -/
def inRanges : List (Nat × Nat) → Nat → Bool
  | [], _ => false
  | (first, last) :: rest, c => (first ≤ c && c ≤ last) || inRanges rest c

theorem inRanges_iff (rs : List (Nat × Nat)) (c : Nat) :
    inRanges rs c = true ↔ ∃ r ∈ rs, r.1 ≤ c ∧ c ≤ r.2 := by
  induction rs with
  | nil => simp [inRanges]
  | cons r rest ih => simp [inRanges, ih]

/-- A run of a case mapping: every `step`th code point from `first` to `last` moves by `shift`. -/
structure CaseRun where
  first : Nat
  last : Nat
  step : Nat
  shift : Int

/-- Where the run sends a code point, if the run covers it. -/
def CaseRun.image? (r : CaseRun) (c : Nat) : Option Nat :=
  if r.first ≤ c ∧ c ≤ r.last ∧ (c - r.first) % r.step = 0 then
    some ((c : Int) + r.shift).toNat
  else none

theorem CaseRun.image?_eq_some {r : CaseRun} {c d : Nat} :
    r.image? c = some d ↔
      (r.first ≤ c ∧ c ≤ r.last ∧ (c - r.first) % r.step = 0) ∧ ((c : Int) + r.shift).toNat = d := by
  unfold CaseRun.image?
  split <;> simp_all

/-- Where a case mapping sends a code point: to a listed expansion, or where the first run that
    covers it says, or nowhere else. -/
def mapCase (expansions : List (Nat × List Nat)) (runs : List CaseRun) (c : Char) : List Char :=
  match expansions.lookup c.toNat with
  | some cs => cs.map Char.ofNat
  | none =>
    match runs.findSome? (·.image? c.toNat) with
    | some d => [Char.ofNat d]
    | none => [c]

end Respawn.Text
