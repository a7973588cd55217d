/-!
# Surrogates

Code units that come in pairs, two for one character beyond the first plane. Half of a pair is no
character, yet a text may hold one. Such a half is carried by a character of the last plane, which is
for private use, and keeps its own number.

* `carried?_carrier`: what carries a half gives it back;
* `codePoint_carrier`: and has its number;
* `codePoints_inj`: a text is told by its numbers;
* `precedes_append`: what texts begin with does not count for their order;
* `hasBytes_of_isWhole`: a text of characters alone has bytes.
-/

namespace Respawn.Text

/-- Whether a code unit is the first half of a pair. -/
def isHigh (unit : Nat) : Bool := 0xd800 ≤ unit && unit < 0xdc00

/-- Whether a code unit is the second half of a pair. -/
def isLow (unit : Nat) : Bool := 0xdc00 ≤ unit && unit < 0xe000

/-- The character that two halves stand for. -/
def paired (high low : Nat) : Char := Char.ofNat (0x10000 + (high - 0xd800) * 0x400 + (low - 0xdc00))

/-- The first code point of the last plane. -/
def lastPlane : Nat := 0x100000

/-- The character that carries half of a pair. -/
def carrier (unit : Nat) : Char := Char.ofNat (lastPlane + unit)

/-- The half of a pair that a character carries. -/
def carried? (c : Char) : Option Nat :=
  let unit := c.toNat - lastPlane
  if isHigh unit || isLow unit then some unit else none

/-- The number of what a character stands for. -/
def codePoint (c : Char) : Nat := (carried? c).getD c.toNat

/-- The numbers of what a text consists of. -/
def codePoints (s : String) : List Nat := s.toList.map codePoint

/-- Whether a text comes no later than another one, in the order of their numbers. -/
def precedes (s t : String) : Bool := !decide (codePoints t < codePoints s)

/-- Whether a text consists of characters alone. -/
def isWhole (s : List Char) : Bool := s.all fun c => (carried? c).isNone

/-- Whether half of a pair stands for a byte that no character has. -/
def standsForByte (unit : Nat) : Bool := 0xdc80 ≤ unit && unit < 0xdd00

/-- Whether a text can be written as bytes: every half in it stands for one. -/
def hasBytes (s : List Char) : Bool := s.all fun c => (carried? c).all standsForByte

/-- Halves of pairs that stand together in a text and have no bytes, and the place of the first. -/
structure Unencodable where
  position : Nat
  units : List Nat
  deriving DecidableEq, Repr

/-- What keeps a text from being written as bytes: its first half that stands for no byte, with the
    halves right after it. -/
def unencodable (s : List Char) : Unencodable :=
  let halves := s.map carried?
  let refused := halves.dropWhile (Option.all standsForByte)
  ⟨(halves.takeWhile (Option.all standsForByte)).length,
    (refused.takeWhile Option.isSome).filterMap id⟩

theorem toNat_carrier {unit : Nat} (h : (isHigh unit || isLow unit) = true) :
    (carrier unit).toNat = lastPlane + unit := by
  simp only [isHigh, isLow, Bool.or_eq_true, Bool.and_eq_true, decide_eq_true_eq] at h
  have hv : (lastPlane + unit).isValidChar := Or.inr (by simp only [lastPlane]; omega)
  rw [carrier, Char.ofNat, dif_pos hv]
  rfl

/-- What carries half of a pair gives it back. -/
theorem carried?_carrier {unit : Nat} (h : (isHigh unit || isLow unit) = true) :
    carried? (carrier unit) = some unit := by
  simp [carried?, toNat_carrier h, h]

theorem codePoint_carrier {unit : Nat} (h : (isHigh unit || isLow unit) = true) :
    codePoint (carrier unit) = unit := by
  simp [codePoint, carried?_carrier h]

/-- What carries half of a pair. -/
theorem carried?_eq_some {c : Char} {unit : Nat} (h : carried? c = some unit) :
    c.toNat = lastPlane + unit ∧ 0xd800 ≤ unit ∧ unit < 0xe000 := by
  simp only [carried?, isHigh, isLow, Bool.or_eq_true, Bool.and_eq_true, decide_eq_true_eq,
    Option.ite_none_right_eq_some, Option.some.injEq] at h
  omega

/-- Different characters stand for different numbers. -/
theorem codePoint_inj {c d : Char} (h : codePoint c = codePoint d) : c = d := by
  -- what stands for itself has no number of a half
  have apart {c d : Char} {unit : Nat} (hc : carried? c = some unit) (hd : carried? d = none)
      (h : codePoint c = codePoint d) : False := by
    obtain ⟨-, low, high⟩ := carried?_eq_some hc
    simp only [codePoint, hc, hd, Option.getD_some, Option.getD_none] at h
    have valid : d.toNat < 0xd800 ∨ 0xdfff < d.toNat ∧ d.toNat < 0x110000 := d.valid
    omega
  refine Char.toNat_inj.1 ?_
  cases hc : carried? c with
  | none => cases hd : carried? d with
    | none => simpa only [codePoint, hc, hd, Option.getD_none] using h
    | some unit => exact (apart hd hc h.symm).elim
  | some unit => cases hd : carried? d with
    | none => exact (apart hc hd h).elim
    | some other =>
      simp only [codePoint, hc, hd, Option.getD_some] at h
      rw [(carried?_eq_some hc).1, (carried?_eq_some hd).1, h]

theorem codePoints_inj {s t : String} (h : codePoints s = codePoints t) : s = t :=
  String.toList_inj.1 ((List.map_inj_right fun _ _ => codePoint_inj).1 h)

theorem precedes_iff {s t : String} : precedes s t = true ↔ ¬ codePoints t < codePoints s := by
  rw [precedes, Bool.not_eq_true', decide_eq_false_iff_not]

theorem precedes_trans {s t u : String} (h : precedes s t = true) (h' : precedes t u = true) :
    precedes s u = true := by
  rw [precedes_iff, List.not_lt] at h h' ⊢
  exact List.le_trans h h'

theorem precedes_refl (s : String) : precedes s s = true := precedes_iff.2 (List.lt_irrefl _)

theorem precedes_total (s t : String) : (precedes s t || precedes t s) = true := by
  rw [Bool.or_eq_true, precedes_iff, precedes_iff, List.not_lt, List.not_lt]
  exact List.le_total _ _

/-- Of two texts one comes strictly first. -/
theorem lt_of_precedes {s t : String} (h : precedes s t = true) (differ : s ≠ t) :
    codePoints s < codePoints t := by
  rw [precedes_iff, List.not_lt] at h
  refine Decidable.not_not.1 fun back => differ (codePoints_inj ?_)
  exact List.le_antisymm h (List.not_lt.1 back)

/-- What two texts begin with does not count for their order. -/
theorem precedes_append (stem s t : String) : precedes (stem ++ s) (stem ++ t) = precedes s t := by
  have shifted (front : List Nat) :
      front ++ codePoints t < front ++ codePoints s ↔ codePoints t < codePoints s := by
    induction front with
    | nil => exact Iff.rfl
    | cons n front ih =>
      rw [List.cons_append, List.cons_append, List.cons_lt_cons_iff, ih]
      simp
  have appended (s : String) : codePoints (stem ++ s) = codePoints stem ++ codePoints s := by
    rw [codePoints, String.toList_append, List.map_append]
    rfl
  rw [Bool.eq_iff_iff, precedes_iff, precedes_iff, appended, appended, shifted]

/-- A text of characters alone has bytes. -/
theorem hasBytes_of_isWhole {s : List Char} (h : isWhole s = true) : hasBytes s = true := by
  simp only [isWhole, hasBytes, List.all_eq_true, Option.isNone_iff_eq_none] at h ⊢
  intro c hc
  rw [h c hc]
  rfl

end Respawn.Text
