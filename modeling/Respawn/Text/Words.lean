/-!
# Words of a command

A command is cut into words at blanks. Single quotes keep everything as it is; inside double quotes a
backslash escapes a double quote or a backslash; outside quotes it escapes any character. Empty
quotes are an empty word.

* `words_plain`: a text of plain characters is one word;
* `words_quoted`: a text in single quotes is one word, whatever it holds.
-/

namespace Respawn.Text

/-- Why a text is not a list of words. -/
inductive WordDefect where
  | unclosedQuote
  | danglingEscape
  deriving DecidableEq, Repr

namespace Words

def isSeparator (c : Char) : Bool := c = ' ' || c = '\t' || c = '\r' || c = '\n'

/-- Where reading stands: between words, inside one, inside quotes, or after a backslash, with the
    quotes it stands in if there are any. -/
inductive Mode where
  | between
  | word
  | quote (mark : Char)
  | escape (inQuotes : Bool)
  deriving DecidableEq, Repr

/-- The words of a text from a mode on; `word` holds the characters of the current word so far, the
    last one first. -/
def readFrom : Mode → List Char → List Char → Except WordDefect (List (List Char))
  | .between, _, [] => .ok []
  | .word, word, [] => .ok [word.reverse]
  | .quote _, _, [] => .error .unclosedQuote
  | .escape _, _, [] => .error .danglingEscape
  | .between, word, c :: rest =>
    if isSeparator c then readFrom .between word rest
    else if c = '\\' then readFrom (.escape false) [] rest
    else if c = '\'' || c = '"' then readFrom (.quote c) [] rest
    else readFrom .word [c] rest
  | .word, word, c :: rest =>
    if isSeparator c then (readFrom .between [] rest).map (word.reverse :: ·)
    else if c = '\\' then readFrom (.escape false) word rest
    else if c = '\'' || c = '"' then readFrom (.quote c) word rest
    else readFrom .word (c :: word) rest
  | .quote mark, word, c :: rest =>
    if c = mark then readFrom .word word rest
    else if c = '\\' && mark = '"' then readFrom (.escape true) word rest
    else readFrom (.quote mark) (c :: word) rest
  | .escape inQuotes, word, c :: rest =>
    if !inQuotes then readFrom .word (c :: word) rest
    else if c = '"' || c = '\\' then readFrom (.quote '"') (c :: word) rest
    else readFrom (.quote '"') (c :: '\\' :: word) rest

/-- A character that stands for itself outside quotes. -/
def isPlain (c : Char) : Bool := !isSeparator c && c ≠ '\\' && c ≠ '\'' && c ≠ '"'

theorem readFrom_word_plain {s : List Char} (h : s.all isPlain = true) (word : List Char) :
    readFrom .word word s = .ok [word.reverse ++ s] := by
  induction s generalizing word with
  | nil => simp [readFrom]
  | cons c rest ih =>
    simp only [List.all_cons, Bool.and_eq_true] at h
    have hc := h.1
    simp only [isPlain, Bool.and_eq_true, Bool.not_eq_true', decide_eq_true_eq] at hc
    obtain ⟨⟨⟨hs, hb⟩, hq⟩, hd⟩ := hc
    simp [readFrom, hs, hb, hq, hd, ih h.2]

theorem readFrom_quote {s : List Char} (h : '\'' ∉ s) (word : List Char) :
    readFrom (.quote '\'') word (s ++ ['\'']) = .ok [word.reverse ++ s] := by
  induction s generalizing word with
  | nil => simp [readFrom]
  | cons c rest ih =>
    simp only [List.mem_cons, not_or] at h
    have hc : ¬c = '\'' := fun e => h.1 e.symm
    simp [readFrom, hc, ih h.2]

end Words

open Words

/-- The words of a command. -/
def words (s : List Char) : Except WordDefect (List (List Char)) := readFrom .between [] s

/-- A text of plain characters is one word. -/
theorem words_plain {c : Char} {s : List Char} (h : (c :: s).all isPlain = true) :
    words (c :: s) = .ok [c :: s] := by
  have hs := h
  simp only [List.all_cons, Bool.and_eq_true, isPlain, Bool.not_eq_true', decide_eq_true_eq] at h
  obtain ⟨⟨⟨⟨h1, h2⟩, h3⟩, h4⟩, -⟩ := h
  simp only [List.all_cons, Bool.and_eq_true] at hs
  simp [words, readFrom, h1, h2, h3, h4, readFrom_word_plain hs.2]

/-- A text in single quotes is one word, whatever it holds. -/
theorem words_quoted {s : List Char} (h : '\'' ∉ s) :
    words ('\'' :: (s ++ ['\''])) = .ok [s] := by
  have := readFrom_quote h []
  simpa [words, readFrom, isSeparator] using this

end Respawn.Text
