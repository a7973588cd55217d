/-!
# White space

Three sets of blank characters are in use.

* `isBlank`: the blanks of every script, the four information separators included;
* `isSpace`: the six blanks that surround a number;
* `trimEnd`, `trim`: text without blanks at its end, or at both ends.
-/

namespace Respawn.Text

/-- The code points of all blank characters. -/
def blanks : List Nat :=
  [0x9, 0xa, 0xb, 0xc, 0xd, 0x1c, 0x1d, 0x1e, 0x1f, 0x20,
   0x85, 0xa0, 0x1680, 0x2000, 0x2001, 0x2002, 0x2003, 0x2004, 0x2005, 0x2006,
   0x2007, 0x2008, 0x2009, 0x200a, 0x2028, 0x2029, 0x202f, 0x205f, 0x3000]

/-- The blanks of every script, the four information separators included. -/
def isBlank (c : Char) : Bool := blanks.contains c.toNat

/-- The six blanks that may surround a number. -/
def isSpace (c : Char) : Bool :=
  c = ' ' || c = '\t' || c = '\n' || c = '\x0b' || c = '\x0c' || c = '\r'

/-- The text without the characters at its end that satisfy `p`. -/
def trimEnd (p : Char → Bool) (s : List Char) : List Char :=
  (s.reverse.dropWhile p).reverse

/-- The text without the characters at both ends that satisfy `p`. -/
def trim (p : Char → Bool) (s : List Char) : List Char :=
  trimEnd p (s.dropWhile p)

theorem isBlank_of_isWhitespace {c : Char} (h : c.isWhitespace = true) : isBlank c = true := by
  simp only [Char.isWhitespace, Bool.or_eq_true, decide_eq_true_eq] at h
  rcases h with ((h | h) | h) | h <;> subst h <;> decide

/-- Trimming leaves the text alone exactly when it does not end in such a character. -/
theorem trimEnd_append_of_not {p : Char → Bool} (s : List Char) {c : Char} (h : p c = false) :
    trimEnd p (s ++ [c]) = s ++ [c] := by
  simp [trimEnd, h]

end Respawn.Text
