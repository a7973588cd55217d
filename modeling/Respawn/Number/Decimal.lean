import Respawn.Number.Binary64

/-!
# Decimal text of binary numbers

A number is written with the fewest digits that read back as the same number; of two such decimals
the nearer one is taken, and on a tie the one whose last digit is even.

* `ofDecimal`: the number nearest to a decimal;
* `shortestFrom_reads_back`: what is written with fewer than the full seventeen digits reads back.
-/

namespace Respawn.Binary64

/-! ## 1. From decimals -/

/-- How many decimal digits a natural number has. -/
def decimalWidth (n : Nat) : Nat := (Nat.toDigits 10 n).length

/-- The number nearest to `digits * 10 ^ exponent`. Decimals far outside the range are decided by
    their width, so that no power of ten beyond the range is ever formed. -/
def ofDecimal (negative : Bool) (digits : Nat) (exponent : Int) : Binary64 :=
  let width : Int := decimalWidth digits
  if digits = 0 then signedZero negative
  else if 310 < width + exponent then .infinite negative
  else if width + exponent < -325 then signedZero negative
  else
    let (num, den) := scaleDown 10 digits 1 (-exponent)
    round negative num den

/-! ## 2. The shortest decimal -/

/-- A positive decimal: `digits * 10 ^ exponent`. -/
structure Decimal where
  digits : Nat
  exponent : Int
  deriving DecidableEq, Repr

/-- A finite number's magnitude as a quotient of naturals. -/
def magnitude (significand : Nat) (exponent : Int) : Nat × Nat :=
  scaleDown 2 significand 1 (-exponent)

/-- The least power of ten above the quotient. -/
def powerAbove (num den : Nat) : Int :=
  let guess : Int := (decimalWidth num : Int) - decimalWidth den
  let (num, den) := scaleDown 10 num den guess
  if num < den then guess else guess + 1

/-- The multiple of `10 ^ exponent` nearest to the quotient, a tie going to the even one. -/
def nearestAt (num den : Nat) (exponent : Int) : Nat :=
  let (num, den) := scaleDown 10 num den exponent
  roundQuotient num den

/-- The nearest decimal with `places` digits. -/
def nearestDecimal (significand : Nat) (exponent : Int) (places : Nat) : Decimal :=
  let (num, den) := magnitude significand exponent
  let place := powerAbove num den - places
  ⟨nearestAt num den place, place⟩

/-- The decimals with `places` digits next to a number that read back as it, the nearest first. -/
def candidates (significand : Nat) (exponent : Int) (places : Nat) : List Decimal :=
  let nearest := nearestDecimal significand exponent places
  [nearest, ⟨nearest.digits + 1, nearest.exponent⟩, ⟨nearest.digits - 1, nearest.exponent⟩].filter
    fun d => ofDecimal false d.digits d.exponent = .finite false significand exponent

/-- The first candidate with `places` digits or up to `more` digits more; seventeen digits always
    suffice, and the last resort is the nearest decimal of the greatest width. -/
def shortestFrom (significand : Nat) (exponent : Int) (places : Nat) : Nat → Decimal
  | 0 => nearestDecimal significand exponent places
  | more + 1 =>
    (candidates significand exponent places).head?.getD
      (shortestFrom significand exponent (places + 1) more)

/-- The shortest decimal that reads back as the positive number. -/
def shortest (significand : Nat) (exponent : Int) : Decimal :=
  shortestFrom significand exponent 1 16

theorem mem_candidates_reads_back {significand : Nat} {exponent : Int} {places : Nat} {d : Decimal}
    (h : d ∈ candidates significand exponent places) :
    ofDecimal false d.digits d.exponent = .finite false significand exponent := by
  simpa using (List.mem_filter.1 h).2

/-- A decimal found before the last resort reads back. -/
theorem shortestFrom_reads_back {significand : Nat} {exponent : Int} {places more : Nat}
    {d : Decimal} {ds : List Decimal} (h : candidates significand exponent places = d :: ds) :
    shortestFrom significand exponent places (more + 1) = d ∧
      ofDecimal false d.digits d.exponent = .finite false significand exponent := by
  have hd : d ∈ candidates significand exponent places := by rw [h]; exact List.mem_cons_self
  refine ⟨?_, mem_candidates_reads_back hd⟩
  rw [shortestFrom, h, List.head?_cons, Option.getD_some]

/-! ## 3. Layout -/

/-- The digits without the zeros at their end. -/
def stripZeros (digits : List Char) : List Char :=
  match (digits.reverse.dropWhile (· = '0')).reverse with
  | [] => ['0']
  | ds => ds

/-- Digits with the point after `point` of them. Positional from `10 ^ -4` up to `10 ^ 16`, and
    otherwise with an exponent of at least two digits. -/
def layOut (digits : List Char) (point : Int) : List Char :=
  if -4 < point ∧ point ≤ 16 then
    if point ≤ 0 then '0' :: '.' :: (List.replicate (-point).toNat '0' ++ digits)
    else if digits.length ≤ point.toNat then
      digits ++ List.replicate (point.toNat - digits.length) '0' ++ ['.', '0']
    else digits.take point.toNat ++ '.' :: digits.drop point.toNat
  else
    let power := point - 1
    let powerDigits := Nat.toDigits 10 power.natAbs
    digits.take 1 ++ (if digits.length = 1 then [] else '.' :: digits.drop 1) ++
      ['e', if power < 0 then '-' else '+'] ++
      List.replicate (2 - powerDigits.length) '0' ++ powerDigits

/-- The decimal text of a number. -/
def toText : Binary64 → List Char
  | .nan => ['n', 'a', 'n']
  | .infinite negative => (if negative then ['-'] else []) ++ ['i', 'n', 'f']
  | .finite negative significand exponent =>
    (if negative then ['-'] else []) ++
      if significand = 0 then ['0', '.', '0']
      else
        let d := shortest significand exponent
        let digits := Nat.toDigits 10 d.digits
        layOut (stripZeros digits) (digits.length + d.exponent)

end Respawn.Binary64
