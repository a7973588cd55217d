import Respawn.Number.Numeral
import Respawn.Table
import Respawn.Text.Surrogate
import Respawn.Value

/-!
# Structured text

Values written as JSON text. Besides the standard's grammar the words for infinite and undefined
numbers are read; of two members with one name the later value stands at the earlier place.

* `SyntaxError.message`: what is wrong, with line, column and offset;
* `skipGap_idem`: blanks are skipped once.
-/

namespace Respawn.Json

/-! ## 1. What can be wrong -/

/-- What a text lacks, or holds in the wrong place. -/
inductive Defect where
  | noValue
  | noName
  | noColon
  | noComma
  | unterminated
  | control
  | badEscape
  | badCodeUnit
  | byteOrderMark
  | extra
  deriving DecidableEq, Repr

def Defect.text : Defect → String
  | .noValue => "Expecting value"
  | .noName => "Expecting property name enclosed in double quotes"
  | .noColon => "Expecting ':' delimiter"
  | .noComma => "Expecting ',' delimiter"
  | .unterminated => "Unterminated string starting at"
  | .control => "Invalid control character at"
  | .badEscape => "Invalid \\escape"
  | .badCodeUnit => "Invalid \\uXXXX escape"
  | .byteOrderMark => "Unexpected UTF-8 BOM (decode using utf-8-sig)"
  | .extra => "Extra data"

/-- A defect and where it is. -/
structure SyntaxError where
  defect : Defect
  line : Nat
  column : Nat
  offset : Nat
  deriving DecidableEq, Repr

def SyntaxError.message (e : SyntaxError) : String :=
  s!"{e.defect.text}: line {e.line} column {e.column} (char {e.offset})"

/-- Why a text is not read: a defect of its grammar, with what is left of the text there; a whole
    number with too many digits; or more brackets inside each other than are followed. -/
inductive Failure where
  | defect (d : Defect) (rest : List Char)
  | overlong (digits : Nat)
  | tooDeep (isObject : Bool)
  deriving DecidableEq, Repr

/-- The place where `rest` is left of the text `s`. -/
def locate (d : Defect) (s rest : List Char) : SyntaxError :=
  let before := s.take (s.length - rest.length)
  ⟨d, before.count '\n' + 1, (before.reverse.takeWhile (· ≠ '\n')).length + 1, before.length⟩

/-- How many brackets inside each other are followed. -/
def nestingLimit : Nat := 980

/-! ## 2. Leaves -/

def isGap (c : Char) : Bool := c = ' ' || c = '\t' || c = '\n' || c = '\r'

def skipGap (s : List Char) : List Char := s.dropWhile isGap

theorem skipGap_idem (s : List Char) : skipGap (skipGap s) = skipGap s := by
  induction s with
  | nil => rfl
  | cons c rest ih =>
    by_cases h : isGap c = true
    · simpa [skipGap, List.dropWhile_cons, h] using ih
    · simp [skipGap, h]

/-- The character that a short escape stands for. -/
def shortEscape? : Char → Option Char
  | '"' => some '"'
  | '\\' => some '\\'
  | '/' => some '/'
  | 'b' => some '\x08'
  | 'f' => some '\x0c'
  | 'n' => some '\n'
  | 'r' => some '\r'
  | 't' => some '\t'
  | _ => none

def hexValue? (c : Char) : Option Nat :=
  if '0' ≤ c ∧ c ≤ '9' then some (c.toNat - 48)
  else if 'a' ≤ c ∧ c ≤ 'f' then some (c.toNat - 87)
  else if 'A' ≤ c ∧ c ≤ 'F' then some (c.toNat - 55)
  else none

/-- The code unit that four hexadecimal digits write. At least one character has to follow them. -/
def codeUnit? : List Char → Option (Nat × List Char)
  | a :: b :: c :: d :: next :: rest => do
    let a ← hexValue? a
    let b ← hexValue? b
    let c ← hexValue? c
    let d ← hexValue? d
    pure (((a * 16 + b) * 16 + c) * 16 + d, next :: rest)
  | _ => none

/-- The character of a code unit that stands alone, or the one that carries half of a pair. -/
def loneUnit (unit : Nat) : Char :=
  if Text.isHigh unit || Text.isLow unit then Text.carrier unit else Char.ofNat unit

/-- The character after a backslash and the letter `u`. Two halves of a pair are one character; a
    half that stands alone is kept. `here` is the text from that letter on. -/
def longEscape (here digits : List Char) : Except Failure (Char × List Char) :=
  match codeUnit? digits with
  | none => .error (.defect .badCodeUnit here)
  | some (unit, rest) =>
    match rest with
    | '\\' :: 'u' :: more =>
      if Text.isHigh unit && 4 < more.length then
        match codeUnit? more with
        | none => .error (.defect .badCodeUnit ('u' :: more))
        | some (second, after) =>
          if Text.isLow second then .ok (Text.paired unit second, after)
          else .ok (loneUnit unit, rest)
      else .ok (loneUnit unit, rest)
    | _ => .ok (loneUnit unit, rest)

/-- The rest of a text in quotes, which starts at `start`. Every step takes at least one character,
    so `bound` is the length of what is left. -/
def textFrom (start : List Char) : Nat → List Char → Except Failure (List Char × List Char)
  | 0, _ => .error (.defect .unterminated start)
  | bound + 1, s =>
    match s with
    | [] => .error (.defect .unterminated start)
    | '"' :: rest => .ok ([], rest)
    | ['\\'] => .error (.defect .unterminated start)
    | '\\' :: 'u' :: digits => do
      let (c, rest) ← longEscape ('u' :: digits) digits
      let (text, after) ← textFrom start bound rest
      pure (c :: text, after)
    | '\\' :: c :: rest =>
      match shortEscape? c with
      | none => .error (.defect .badEscape s)
      | some d => do
        let (text, after) ← textFrom start bound rest
        pure (d :: text, after)
    | c :: rest =>
      if c.toNat < 32 then .error (.defect .control s)
      else do
        let (text, after) ← textFrom start bound rest
        pure (c :: text, after)

/-- The digits of a fraction after its point. -/
def fraction (s : List Char) : List Char × List Char :=
  match s with
  | '.' :: rest =>
    match rest.takeWhile Numeral.isDigit with
    | [] => ([], s)
    | digits => ('.' :: digits, rest.dropWhile Numeral.isDigit)
  | _ => ([], s)

/-- An exponent: a letter, a sign and at least one digit. -/
def exponent (s : List Char) : List Char × List Char :=
  match s with
  | e :: rest =>
    if e = 'e' || e = 'E' then
      let (mark, digits) :=
        match rest with
        | '+' :: t => ([e, '+'], t)
        | '-' :: t => ([e, '-'], t)
        | t => ([e], t)
      match digits.takeWhile Numeral.isDigit with
      | [] => ([], s)
      | found => (mark ++ found, digits.dropWhile Numeral.isDigit)
    else ([], s)
  | [] => ([], s)

/-- The digits before a number's point: a zero alone, or digits that start with none. -/
def wholeDigits (s : List Char) : List Char × List Char :=
  match s with
  | '0' :: rest => (['0'], rest)
  | _ => (s.takeWhile Numeral.isDigit, s.dropWhile Numeral.isDigit)

/-- A number: whole unless it has a fraction or an exponent. -/
def number (s : List Char) : Except Failure (Value × List Char) :=
  let (sign, unsigned) :=
    match s with
    | '-' :: rest => (['-'], rest)
    | _ => ([], s)
  let (whole, rest) := wholeDigits unsigned
  if whole.isEmpty then .error (.defect .noValue s)
  else
    let (fractional, rest) := fraction rest
    let (scale, rest) := exponent rest
    let numeral := sign ++ whole ++ fractional ++ scale
    if fractional.isEmpty && scale.isEmpty then
      match Numeral.readInt numeral with
      | .ok i => .ok (.int i, rest)
      | .error (.tooLong digits) => .error (.overlong digits)
      | .error .malformed => .error (.defect .noValue s)
    else
      match Numeral.readReal numeral with
      | some x => .ok (.real x, rest)
      | none => .error (.defect .noValue s)

/-- The words that stand for values. -/
def words : List (String × Value) :=
  [("null", .null), ("true", .bool true), ("false", .bool false), ("NaN", .real .nan),
    ("Infinity", .real (.infinite false)), ("-Infinity", .real (.infinite true))]

/-- A word at the start of a text, and what follows it. -/
def word? (s : List Char) : Option (Value × List Char) :=
  words.findSome? fun (word, v) =>
    if word.toList.isPrefixOf s then some (v, s.drop word.length) else none

/-! ## 3. Lists and objects -/

/-- The items of a list up to its bracket. -/
def items (value : List Char → Except Failure (Value × List Char)) :
    Nat → List Char → Except Failure (List Value × List Char)
  | 0, s => .error (.defect .noValue s)
  | bound + 1, s => do
    let (v, rest) ← value s
    match skipGap rest with
    | ']' :: after => pure ([v], after)
    | ',' :: after =>
      let (vs, after) ← items value bound (skipGap after)
      pure (v :: vs, after)
    | rest => .error (.defect .noComma rest)

/-- The members of an object up to its brace. -/
def members (value : List Char → Except Failure (Value × List Char)) :
    Nat → Table Value → List Char → Except Failure (Table Value × List Char)
  | 0, _, s => .error (.defect .noName s)
  | bound + 1, before, s =>
    match s with
    | '"' :: rest => do
      let (name, rest) ← textFrom s rest.length.succ rest
      match skipGap rest with
      | ':' :: rest =>
        let (v, rest) ← value (skipGap rest)
        let found := Table.put before (String.ofList name) v
        match skipGap rest with
        | '\x7d' :: after => pure (found, after)
        | ',' :: after => members value bound found (skipGap after)
        | rest => .error (.defect .noComma rest)
      | rest => .error (.defect .noColon rest)
    | _ => .error (.defect .noName s)

/-! ## 4. Values -/

/-- The value at the start of a text, in which at most `depth` brackets stand inside each other. -/
def value (depth : Nat) (s : List Char) : Except Failure (Value × List Char) :=
  match s with
  | '"' :: rest => do
    let (text, after) ← textFrom s rest.length.succ rest
    pure (.text (String.ofList text), after)
  | '[' :: rest =>
    match depth with
    | 0 => .error (.tooDeep false)
    | depth + 1 =>
      match skipGap rest with
      | ']' :: after => .ok (.list [], after)
      | rest => do
        let (vs, after) ← items (fun t => value depth t) rest.length.succ rest
        pure (.list vs, after)
  | '\x7b' :: rest =>
    match depth with
    | 0 => .error (.tooDeep true)
    | depth + 1 =>
      match skipGap rest with
      | '\x7d' :: after => .ok (.dict [], after)
      | rest => do
        let (entries, after) ← members (fun t => value depth t) rest.length.succ [] rest
        pure (.dict entries, after)
  | [] => .error (.defect .noValue s)
  | _ =>
    match word? s with
    | some found => .ok found
    | none => number s
termination_by structural depth

/-- The value that a whole text writes. -/
def read (s : List Char) : Except Failure Value :=
  if s.head? = some '\ufeff' then .error (.defect .byteOrderMark s)
  else
    match value nestingLimit (skipGap s) with
    | .error e => .error e
    | .ok (v, rest) =>
      match skipGap rest with
      | [] => .ok v
      | left => .error (.defect .extra left)

end Respawn.Json
