import Respawn.Number.Decimal
import Respawn.Text.Blank
import Respawn.Text.Digit

/-!
# Numerals

How text reads as a number. Digits of every script count, blanks around the numeral are dropped, and
single underscores may separate digits.

* `readInt`: whole numbers, of at most 4300 digits;
* `readReal`: decimals with an optional exponent, and the words for infinite and undefined numbers.
-/

namespace Respawn.Numeral

open Respawn.Text

/-- The text with the digits and blanks of other scripts replaced by plain ones. Text of plain
    characters stays as it is; in other text a character that is neither becomes a question mark,
    which no numeral holds. -/
def plain (s : List Char) : List Char :=
  if s.all (·.toNat < 128) then s
  else s.map fun c =>
    if c.toNat < 127 then c
    else if isBlank c then ' '
    else match digit? c with
      | some d => Char.ofNat (0x30 + d)
      | none => '?'

theorem plain_of_ascii {s : List Char} (h : s.all (·.toNat < 128) = true) : plain s = s := by
  simp [plain, h]

def isDigit (c : Char) : Bool := '0' ≤ c && c ≤ '9'

/-- The value of a run of plain digits. -/
def value (digits : List Char) : Nat :=
  digits.foldl (fun n c => 10 * n + (c.toNat - 0x30)) 0

/-- Whether every underscore stands between two digits; `before` is the character before the
    text. -/
def separated (before : Char) : List Char → Bool
  | [] => before ≠ '_'
  | c :: rest =>
    (if c = '_' then isDigit before else before ≠ '_' || isDigit c) && separated c rest

/-- The sign of a numeral and what follows it. -/
def sign : List Char → Bool × List Char
  | '+' :: rest => (false, rest)
  | '-' :: rest => (true, rest)
  | s => (false, s)

/-! ## 1. Whole numbers -/

/-- Why a text is no whole number. -/
inductive IntDefect where
  | malformed
  | tooLong (digits : Nat)
  deriving DecidableEq, Repr

/-- The greatest number of digits that is read. -/
def digitLimit : Nat := 4300

/-- A run of digits as a number, unless it is too long. -/
def limited (digits : List Char) : Except IntDefect Nat :=
  if digitLimit < digits.length then .error (.tooLong digits.length) else .ok (value digits)

/-- A whole number. A run of digits that is too long is refused before what follows it is looked
    at. -/
def readInt (s : List Char) : Except IntDefect Int :=
  let (negative, body) := sign (trim isSpace (plain s))
  let run := body.takeWhile fun c => isDigit c || c = '_'
  if run.isEmpty || !separated ' ' run then .error .malformed
  else
    match limited (run.filter isDigit) with
    | .error e => .error e
    | .ok n =>
      if run.length = body.length then .ok (if negative then -(n : Int) else n)
      else .error .malformed

/-! ## 2. Decimals -/

/-- The exponent after a decimal's digits: absent, or a letter, a sign and digits. -/
def readExponent : List Char → Option Int
  | [] => some 0
  | c :: rest =>
    let (negative, digits) := sign rest
    if (c = 'e' || c = 'E') && !digits.isEmpty && digits.all isDigit then
      some (if negative then -(value digits : Int) else value digits)
    else none

/-- An unsigned decimal: digits with at most one point among them, and an exponent. -/
def readDecimal (negative : Bool) (s : List Char) : Option Binary64 :=
  let whole := s.takeWhile isDigit
  let afterWhole := s.dropWhile isDigit
  let (fraction, rest) :=
    match afterWhole with
    | '.' :: t => (t.takeWhile isDigit, t.dropWhile isDigit)
    | t => ([], t)
  if whole.isEmpty && fraction.isEmpty then none
  else (readExponent rest).map fun e =>
    .ofDecimal negative (value (whole ++ fraction)) (e - fraction.length)

/-- A decimal number, or one of the words `inf`, `infinity` and `nan` in any case, with a sign. -/
def readReal (s : List Char) : Option Binary64 :=
  let trimmed := trim isSpace (plain s)
  if !separated ' ' trimmed then none
  else
    let (negative, body) := sign (trimmed.filter (· ≠ '_'))
    let word := String.ofList (body.map Char.toLower)
    if word = "inf" || word = "infinity" then some (.infinite negative)
    else if word = "nan" then some .nan
    else readDecimal negative body

end Respawn.Numeral
