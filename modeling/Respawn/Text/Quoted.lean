import Respawn.Text.Printable
import Respawn.Text.Surrogate

/-!
# Quoted text

Text shown between quotes: single quotes, unless the text holds a single quote and no double one.
The backslash and the quote in use are escaped, the three common controls have short names, and
every other character without a picture is written by its number, as is half of a surrogate pair.

* `quoteFor_eq_double_iff`: when the double quote is chosen;
* `escaped_of_plain`: a printable character other than the quote and the backslash stands for
  itself.
-/

namespace Respawn.Text

/-- The digits of `n` in base sixteen, in lower case, at least `width` of them. -/
def hexDigits (width n : Nat) : List Char :=
  let digits := Nat.toDigits 16 n
  List.replicate (width - digits.length) '0' ++ digits

/-- The quote that surrounds a text. -/
def quoteFor (s : List Char) : Char :=
  if s.contains '\'' && !s.contains '"' then '"' else '\''

theorem quoteFor_eq_double_iff (s : List Char) :
    quoteFor s = '"' ↔ '\'' ∈ s ∧ '"' ∉ s := by
  unfold quoteFor
  split <;> simp_all

/-- How one character is written inside the given quotes. -/
def escaped (quote c : Char) : List Char :=
  if c = quote || c = '\\' then ['\\', c]
  else if c = '\t' then ['\\', 't']
  else if c = '\n' then ['\\', 'n']
  else if c = '\r' then ['\\', 'r']
  else if isPrintable c then [c]
  else if codePoint c < 0x100 then '\\' :: 'x' :: hexDigits 2 (codePoint c)
  else if codePoint c < 0x10000 then '\\' :: 'u' :: hexDigits 4 (codePoint c)
  else '\\' :: 'U' :: hexDigits 8 (codePoint c)

theorem escaped_of_plain {quote c : Char} (hq : c ≠ quote) (hb : c ≠ '\\')
    (hp : isPrintable c = true) : escaped quote c = [c] := by
  have ht : c ≠ '\t' := by rintro rfl; exact absurd hp (by decide)
  have hn : c ≠ '\n' := by rintro rfl; exact absurd hp (by decide)
  have hr : c ≠ '\r' := by rintro rfl; exact absurd hp (by decide)
  simp [escaped, hq, hb, ht, hn, hr, hp]

/-- A text between quotes. -/
def quoted (s : List Char) : List Char :=
  let quote := quoteFor s
  quote :: s.flatMap (escaped quote) ++ [quote]

/-- A text between quotes, as a string. -/
def quotedString (s : String) : String := String.ofList (quoted s.toList)

end Respawn.Text
