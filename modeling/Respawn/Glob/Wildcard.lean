import Respawn.Text.Surrogate

/-!
# Wildcards

A pattern is a list of tokens: a character, any character, one character of a class, or any run of
characters. Nothing is escaped, and a bracket that is not closed stands for itself.

* `accepts_iff`: the matcher decides the relation `Matches`;
* `matches_literal`: a pattern without wildcards accepts itself alone;
* `reversed_range`: a range whose ends are in the wrong order holds nothing.
-/

namespace Respawn.Glob

/-! ## 1. Patterns -/

/-- A class of characters: those within one of the ranges, or those within none. -/
structure CharClass where
  negated : Bool
  ranges : List (Char × Char)
  deriving DecidableEq, Repr

/-- Whether a class holds a character. Characters are in the order of their code points. -/
def CharClass.holds (k : CharClass) (c : Char) : Bool :=
  k.negated ^^ k.ranges.any fun (low, high) =>
    Text.codePoint low ≤ Text.codePoint c && Text.codePoint c ≤ Text.codePoint high

theorem reversed_range {low high : Char} (h : Text.codePoint high < Text.codePoint low) (c : Char) :
    (CharClass.mk false [(low, high)]).holds c = false := by
  simp only [CharClass.holds, List.any_cons, List.any_nil, Bool.or_false, Bool.false_xor,
    Bool.and_eq_false_imp, decide_eq_true_eq, decide_eq_false_iff_not]
  omega

/-- One token of a pattern. -/
inductive Token where
  | literal (c : Char)
  | any
  | oneOf (k : CharClass)
  | many
  deriving DecidableEq, Repr

/-- Whether a token other than `many` accepts a character. -/
def Token.takes : Token → Char → Bool
  | .literal d, c => c = d
  | .any, _ => true
  | .oneOf k, c => k.holds c
  | .many, _ => false

/-! ## 2. Matching -/

/-- A pattern matches a text: every token takes one character, except that `many` takes any run. -/
inductive Matches : List Token → List Char → Prop where
  | nil : Matches [] []
  | one {t : Token} {c : Char} {ts : List Token} {s : List Char} (h : t.takes c = true)
      (hs : Matches ts s) : Matches (t :: ts) (c :: s)
  | skip {ts : List Token} {s : List Char} (hs : Matches ts s) : Matches (.many :: ts) s
  | more {ts : List Token} {c : Char} {s : List Char} (hs : Matches (.many :: ts) s) :
      Matches (.many :: ts) (c :: s)

/-- For the text and each of its ends, longest first, whether a token and the tokens after it match,
    given the same for the tokens after it. -/
def row (t : Token) : List Char → List Bool → List Bool
  | c :: s, b :: bs =>
    let below := row t s bs
    (match t with
      | .many => b || below.headD false
      | t => t.takes c && bs.headD false) :: below
  | [], b :: _ => [t = .many && b]
  | _, [] => []

/-- For the text and each of its ends, longest first, whether nothing is left. -/
def lastRow : List Char → List Bool
  | [] => [true]
  | _ :: s => false :: lastRow s

/-- For the text and each of its ends, longest first, whether the tokens match. -/
def table : List Token → List Char → List Bool
  | [], s => lastRow s
  | t :: ts, s => row t s (table ts s)

/-- Whether a pattern matches a text. -/
def accepts (ts : List Token) (s : List Char) : Bool := (table ts s).headD false

theorem lastRow_length (s : List Char) : (lastRow s).length = s.length + 1 := by
  induction s with
  | nil => rfl
  | cons c rest ih => simp [lastRow, ih]

theorem row_length (t : Token) (s : List Char) (bs : List Bool) (h : bs.length = s.length + 1) :
    (row t s bs).length = s.length + 1 := by
  induction s generalizing bs with
  | nil =>
    match bs, h with
    | [b], _ => rfl
  | cons c rest ih =>
    match bs, h with
    | b :: bs, h => simp [row, ih bs (by simpa using h)]

theorem table_length (ts : List Token) (s : List Char) : (table ts s).length = s.length + 1 := by
  induction ts with
  | nil => exact lastRow_length s
  | cons t ts ih => exact row_length t s _ ih

/-- The table of a shorter text is what follows the first entry. -/
theorem table_tail (ts : List Token) (c : Char) (s : List Char) :
    (table ts (c :: s)).tail = table ts s := by
  induction ts with
  | nil => rfl
  | cons t ts ih =>
    have hl := table_length ts (c :: s)
    rw [table]
    cases h : table ts (c :: s) with
    | nil => simp [h] at hl
    | cons b bs =>
      rw [h, List.tail_cons] at ih
      simp [row, table, ih]

@[simp] theorem accepts_nil_nil : accepts [] [] = true := rfl

@[simp] theorem accepts_nil_cons (c : Char) (s : List Char) : accepts [] (c :: s) = false := rfl

theorem accepts_cons_nil (t : Token) (ts : List Token) :
    accepts (t :: ts) [] = (t = .many && accepts ts []) := by
  have hl := table_length ts []
  unfold accepts
  rw [table]
  cases h : table ts [] with
  | nil => simp [h] at hl
  | cons b bs => simp [row]

theorem accepts_many_cons (ts : List Token) (c : Char) (s : List Char) :
    accepts (.many :: ts) (c :: s) = (accepts ts (c :: s) || accepts (.many :: ts) s) := by
  have hl := table_length ts (c :: s)
  have ht := table_tail ts c s
  unfold accepts
  rw [table, table]
  cases h : table ts (c :: s) with
  | nil => simp [h] at hl
  | cons b bs =>
    rw [h, List.tail_cons] at ht
    simp [row, ht]

theorem accepts_one_cons {t : Token} (hm : t ≠ .many) (ts : List Token) (c : Char)
    (s : List Char) : accepts (t :: ts) (c :: s) = (t.takes c && accepts ts s) := by
  have hl := table_length ts (c :: s)
  have ht := table_tail ts c s
  unfold accepts
  rw [table]
  cases h : table ts (c :: s) with
  | nil => simp [h] at hl
  | cons b bs =>
    rw [h, List.tail_cons] at ht
    cases t <;> simp_all [row]

theorem accepts_of_matches {ts : List Token} {s : List Char} (h : Matches ts s) :
    accepts ts s = true := by
  induction h with
  | nil => rfl
  | @one t c ts s h hs ih =>
    have hm : t ≠ .many := by rintro rfl; simp [Token.takes] at h
    rw [accepts_one_cons hm, h, ih]
    rfl
  | @skip ts s hs ih =>
    cases s with
    | nil => simpa [accepts_cons_nil] using ih
    | cons c s => simp [accepts_many_cons, ih]
  | more hs ih => simp [accepts_many_cons, ih]

theorem matches_of_accepts {ts : List Token} {s : List Char} (h : accepts ts s = true) :
    Matches ts s := by
  induction ts generalizing s with
  | nil =>
    cases s with
    | nil => exact .nil
    | cons c s => simp at h
  | cons t ts ih =>
    induction s with
    | nil =>
      rw [accepts_cons_nil] at h
      simp only [Bool.and_eq_true, decide_eq_true_eq] at h
      obtain ⟨rfl, h⟩ := h
      exact .skip (ih h)
    | cons c s ihs =>
      by_cases hm : t = .many
      · subst hm
        rw [accepts_many_cons, Bool.or_eq_true] at h
        rcases h with h | h
        · exact .skip (ih h)
        · exact .more (ihs h)
      · rw [accepts_one_cons hm, Bool.and_eq_true] at h
        exact .one h.1 (ih h.2)

/-- **The matcher decides the relation.** -/
theorem accepts_iff (ts : List Token) (s : List Char) : accepts ts s = true ↔ Matches ts s :=
  ⟨matches_of_accepts, accepts_of_matches⟩

/-- A pattern of plain characters accepts those characters alone. -/
theorem matches_literal (s t : List Char) : Matches (s.map .literal) t ↔ t = s := by
  induction s generalizing t with
  | nil =>
    constructor
    · intro h; cases h; rfl
    · rintro rfl; exact .nil
  | cons c s ih =>
    constructor
    · intro h
      rw [List.map_cons] at h
      cases h with
      | one h hs =>
        simp only [Token.takes, decide_eq_true_eq] at h
        rw [h, (ih _).1 hs]
    · rintro rfl
      exact .one (by simp [Token.takes]) ((ih s).2 rfl)

/-! ## 3. Reading -/

/-- The chunks of a bracket's body between the hyphens that make ranges. A hyphen counts from the
    position `skip` on, and after one that counts the next two characters are passed over. -/
def chunks (skip : Nat) (chunk : List Char) : List Char → List (List Char)
  | [] => [chunk.reverse]
  | c :: rest =>
    match skip with
    | skip + 1 => chunks skip (c :: chunk) rest
    | 0 => if c = '-' then chunk.reverse :: chunks 2 [] rest else chunks 0 (c :: chunk) rest

/-- A hyphen at the end of the body makes no range and belongs to the chunk before it. -/
def closeChunks : List (List Char) → List (List Char)
  | [chunk, []] => [chunk ++ ['-']]
  | chunk :: rest => chunk :: closeChunks rest
  | [] => []

/-- The chunks without the ranges whose ends are in the wrong order, from the last one to the
    first. -/
def dropReversed : List (List Char) → List (List Char)
  | [] => []
  | chunk :: rest =>
    match dropReversed rest with
    | next :: more =>
      match chunk.getLast?, next.head? with
      | some low, some high =>
        if high < low then (chunk.dropLast ++ next.drop 1) :: more else chunk :: next :: more
      | _, _ => chunk :: next :: more
    | [] => [chunk]

/-- The ranges that chunks describe: one from the end of each chunk to the start of the next, and
    every other character by itself. -/
def rangesOf : List (List Char) → List (Char × Char)
  | [] => []
  | [chunk] => chunk.map fun c => (c, c)
  | chunk :: next :: more =>
    match chunk.getLast?, next with
    | some low, high :: rest =>
      chunk.dropLast.map (fun c => (c, c)) ++ (low, high) :: rangesOf (rest :: more)
    | _, _ => chunk.map (fun c => (c, c)) ++ ('-', '-') :: rangesOf (next :: more)
termination_by chunks => chunks.length

/-- The class that chunks describe; an exclamation mark in front negates it. -/
def classOfChunks : List (List Char) → CharClass
  | ('!' :: chunk) :: rest => ⟨true, rangesOf (chunk :: rest)⟩
  | cs => ⟨false, rangesOf cs⟩

/-- The class that a bracket's body describes. -/
def classOf (body : List Char) : CharClass :=
  classOfChunks
    (dropReversed (closeChunks (chunks (if body.head? = some '!' then 2 else 1) [] body)))

/-- The body of a bracket and what follows its end. An exclamation mark and then a closing bracket
    at the start belong to the body. -/
def bracket? (s : List Char) : Option (List Char × List Char) :=
  let mark := if s.head? = some '!' then 1 else 0
  let start := if (s.drop mark).head? = some ']' then mark + 1 else mark
  match (s.drop start).dropWhile (· ≠ ']') with
  | _ :: rest => some (s.take start ++ (s.drop start).takeWhile (· ≠ ']'), rest)
  | [] => none

/-- The tokens of a pattern. Every token takes at least one character, so `bound` is the length of
    the pattern. -/
def tokensFrom : Nat → List Char → List Token
  | 0, _ => []
  | _ + 1, [] => []
  | bound + 1, '*' :: rest => .many :: tokensFrom bound rest
  | bound + 1, '?' :: rest => .any :: tokensFrom bound rest
  | bound + 1, '[' :: rest =>
    match bracket? rest with
    | some (body, after) => .oneOf (classOf body) :: tokensFrom bound after
    | none => .literal '[' :: tokensFrom bound rest
  | bound + 1, c :: rest => .literal c :: tokensFrom bound rest

def tokens (pattern : List Char) : List Token := tokensFrom pattern.length pattern

/-- Whether a pattern matches a text as a whole. -/
def fits (pattern text : String) : Bool := accepts (tokens pattern.toList) text.toList

end Respawn.Glob
