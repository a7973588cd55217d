import Respawn.Table
import Respawn.Text.Blank

/-!
# Environment files

A file of bindings, one statement after another: a name, and after an equals sign its value. A value
is quoted, and may then span lines, or runs to the end of its line; comments start with a number
sign. A statement that fits no rule spoils the rest of its line and nothing more.

* `closing_append`: a quoted value ends at the first quote of its kind that is not escaped;
* `expand_of_no_dollar`: a value without a reference stands for itself;
* `meaning_of_bound`: a reference sees what the file said last before the surroundings.
-/

namespace Respawn.EnvFile

open Respawn.Text

/-! ## 1. Parts of a statement -/

/-- A blank that does not end the line. -/
def isInline (c : Char) : Bool := isBlank c && c ≠ '\n'

def skipInline (s : List Char) : List Char := s.dropWhile isInline

/-- What follows the end of the line. -/
def skipLine (s : List Char) : List Char := (s.dropWhile (· ≠ '\n')).drop 1

/-- A character that a name without quotes may hold. -/
def isNameChar (c : Char) : Bool := c ≠ '=' && c ≠ '#' && !isBlank c

/-- The word `export` before a name says nothing. -/
def skipExport (s : List Char) : List Char :=
  match s with
  | 'e' :: 'x' :: 'p' :: 'o' :: 'r' :: 't' :: c :: rest =>
    if isInline c then skipInline rest else s
  | _ => s

/-- A name, in single quotes or without, and what follows it. -/
def name? (s : List Char) : Option (List Char × List Char) :=
  match s with
  | '\'' :: rest =>
    match rest.takeWhile (· ≠ '\''), rest.dropWhile (· ≠ '\'') with
    | c :: name, _ :: after => some (c :: name, after)
    | _, _ => none
  | _ =>
    match s.takeWhile isNameChar with
    | [] => none
    | name => some (name, s.dropWhile isNameChar)

/-- The text up to the quote that closes it, and what follows that quote: the first one that no
    backslash escapes. Where there is no such quote, the last one of all closes the text. -/
def closing (quote : Char) : List Char → Option (List Char × List Char)
  | [] => none
  | '\\' :: c :: rest =>
    match closing quote rest with
    | some (text, after) => some ('\\' :: c :: text, after)
    | none => if c = quote then some (['\\'], rest) else none
  | c :: rest =>
    if c = quote then some ([], rest)
    else (closing quote rest).map fun (text, after) => (c :: text, after)

/-- A text without quotes and backslashes ends at the quote that follows it. -/
theorem closing_append {quote : Char} {text : List Char} (rest : List Char)
    (hq : quote ∉ text) (hb : '\\' ∉ text) (hne : quote ≠ '\\') :
    closing quote (text ++ quote :: rest) = some (text, rest) := by
  induction text with
  | nil =>
    rw [List.nil_append, closing]
    · simp
    · rintro c t he
      exact absurd he hne
  | cons c t ih =>
    simp only [List.mem_cons, not_or] at hq hb
    have hc : ¬c = quote := fun e => hq.1 e.symm
    rw [List.cons_append, closing]
    · simp [hc, ih hq.2 hb.2]
    · rintro d u he
      exact absurd he.symm hb.1

/-- A backslash before the only quote there is belongs to the text. -/
example : closing '\'' ['a', '\\', '\''] = some (['a', '\\'], []) := by decide

/-- The escapes of a text in double quotes, by the character after the backslash. -/
def doubleEscape? : Char → Option Char
  | '\\' => some '\\'
  | '\'' => some '\''
  | '"' => some '"'
  | 'a' => some '\x07'
  | 'b' => some '\x08'
  | 'f' => some '\x0c'
  | 'n' => some '\n'
  | 'r' => some '\r'
  | 't' => some '\t'
  | 'v' => some '\x0b'
  | _ => none

/-- The escapes of a text in single quotes. -/
def singleEscape? : Char → Option Char
  | '\\' => some '\\'
  | '\'' => some '\''
  | _ => none

/-- A quoted text with its escapes replaced; a backslash that starts none stands for itself. -/
def unescape (escape? : Char → Option Char) : List Char → List Char
  | [] => []
  | '\\' :: c :: rest =>
    match escape? c with
    | some d => d :: unescape escape? rest
    | none => '\\' :: unescape escape? (c :: rest)
  | c :: rest => c :: unescape escape? rest

/-- A value without quotes ends where blanks and a number sign follow. -/
def beforeComment : List Char → List Char
  | [] => []
  | c :: rest =>
    if isBlank c && (rest.dropWhile isBlank).head? = some '#' then [] else c :: beforeComment rest

/-- The value after an equals sign, and what follows it. A number sign that blanks separate from the
    equals sign starts a comment, so the value is empty. -/
def value? (s : List Char) : Option (List Char × List Char) :=
  match skipInline s with
  | '\'' :: rest =>
    (closing '\'' rest).map fun (text, after) => (unescape singleEscape? text, after)
  | '"' :: rest =>
    (closing '"' rest).map fun (text, after) => (unescape doubleEscape? text, after)
  | trimmed =>
    if trimmed.head? = some '#' && (s.head?.any isInline) then some ([], trimmed)
    else
      some (trimEnd isBlank (beforeComment (trimmed.takeWhile (· ≠ '\n'))),
        trimmed.dropWhile (· ≠ '\n'))

/-- What follows an optional comment and the end of the line. -/
def endOfLine? (s : List Char) : Option (List Char) :=
  let rest := skipInline s
  let rest := if rest.head? = some '#' then rest.dropWhile (· ≠ '\n') else rest
  match rest with
  | [] => some []
  | '\n' :: after => some after
  | _ => none

/-! ## 2. Statements -/

/-- What one statement comes to. -/
inductive Statement where
  | empty
  | binding (name : List Char) (value : Option (List Char))
  | malformed
  deriving DecidableEq, Repr

/-- The rest of the line is skipped where a statement fits no rule. -/
def spoiled (rest : List Char) : Statement × List Char := (.malformed, skipLine rest)

/-- A statement that ends before `rest`. -/
def ended (statement : Statement) (rest : List Char) : Statement × List Char :=
  match endOfLine? rest with
  | some after => (statement, after)
  | none => spoiled rest

/-- The first statement of a text and what follows it. -/
def statement (s : List Char) : Statement × List Char :=
  match s.dropWhile isBlank with
  | [] => (.empty, [])
  | c :: rest =>
    let start := skipExport (c :: rest)
    if start.head? = some '#' then ended .empty start
    else
      match name? start with
      | none => spoiled start
      | some (name, after) =>
        match skipInline after with
        | '=' :: right =>
          match value? right with
          | some (value, after) => ended (.binding name (some value)) after
          | none => spoiled (skipInline right)
        | after => ended (.binding name none) after

/-- The statements of a text, each with the number of the line it starts on, white space before it
    included. Every statement takes at least one character, so `bound` is the length of the text. -/
def statementsFrom (line : Nat) : Nat → List Char → List (Nat × Statement)
  | 0, _ => []
  | _ + 1, [] => []
  | bound + 1, s =>
    let (st, rest) := statement s
    let taken := s.take (s.length - rest.length)
    (line, st) :: statementsFrom (line + taken.count '\n') bound rest

def statements (s : List Char) : List (Nat × Statement) := statementsFrom 1 s.length s

/-! ## 3. References -/

/-- A reference to another name, and what it stands for where the name has no value. -/
structure Reference where
  name : String
  fallback : List Char
  deriving DecidableEq, Repr

/-- The reference after an opening brace, and what follows its closing one. -/
def reference? (s : List Char) : Option (Reference × List Char) :=
  let inName := fun c => c ≠ '\x7d' && c ≠ ':'
  let name := String.ofList (s.takeWhile inName)
  match s.dropWhile inName with
  | '\x7d' :: after => some (⟨name, []⟩, after)
  | ':' :: '-' :: rest =>
    match rest.dropWhile (· ≠ '\x7d') with
    | _ :: after => some (⟨name, rest.takeWhile (· ≠ '\x7d')⟩, after)
    | [] => none
  | _ => none

theorem length_dropWhile_le {α : Type} (p : α → Bool) (s : List α) :
    (s.dropWhile p).length ≤ s.length := (List.dropWhile_suffix p).length_le

theorem length_of_reference? {s after : List Char} {r : Reference}
    (h : reference? s = some (r, after)) : after.length < s.length := by
  have hs := length_dropWhile_le (fun c => c ≠ '\x7d' && c ≠ ':') s
  unfold reference? at h
  simp only at h
  split at h
  · rename_i heq
    rw [heq] at hs
    simp only [Option.some.injEq, Prod.mk.injEq] at h
    simp only [List.length_cons] at hs
    rw [← h.2]; omega
  · rename_i rest heq
    rw [heq] at hs
    have hr := length_dropWhile_le (· ≠ '\x7d') rest
    split at h
    · rename_i heq2
      rw [heq2] at hr
      simp only [Option.some.injEq, Prod.mk.injEq] at h
      simp only [List.length_cons] at hs hr
      rw [← h.2]; omega
    · contradiction
  · contradiction

/-- A text with its references replaced by what the names stand for. -/
def expand (meaning : String → Option (List Char)) (s : List Char) : List Char :=
  match s with
  | [] => []
  | '$' :: '\x7b' :: rest =>
    match h : reference? rest with
    | some (r, after) =>
      have := length_of_reference? h
      (meaning r.name).getD r.fallback ++ expand meaning after
    | none => '$' :: expand meaning ('\x7b' :: rest)
  | c :: rest => c :: expand meaning rest
termination_by s.length

/-- A value without a reference stands for itself. -/
theorem expand_of_no_dollar (meaning : String → Option (List Char)) {s : List Char}
    (h : '$' ∉ s) : expand meaning s = s := by
  induction s with
  | nil => rw [expand]
  | cons c rest ih =>
    simp only [List.mem_cons, not_or] at h
    rw [expand]
    · rw [ih h.2]
    · rintro t rfl; exact absurd rfl h.1

/-! ## 4. Files -/

/-- Texts by name. -/
abbrev Bindings := Table String

/-- What a file says: for each name the value it was given last, or none, and the lines of the
    statements that fit no rule. -/
structure Contents where
  bindings : Table (Option String)
  malformed : List Nat
  deriving DecidableEq, Repr

/-- The value that a reference sees: what the file said last, else the surroundings. A name without
    a value counts as empty. -/
def meaning (surroundings : Bindings) (bound : Table (Option String)) (name : String) :
    Option (List Char) :=
  match bound.get? name with
  | some value => some ((value.getD "").toList)
  | none => (surroundings.get? name).map String.toList

/-- One statement more. -/
def Contents.add (surroundings : Bindings) (c : Contents) : Nat × Statement → Contents
  | (_, .empty) => c
  | (line, .malformed) => { c with malformed := c.malformed ++ [line] }
  | (_, .binding name value) =>
    let value := value.map fun v =>
      String.ofList (expand (meaning surroundings c.bindings) v)
    { c with bindings := c.bindings.put (String.ofList name) value }

/-- What a text says, seen from the given surroundings. -/
def contents (surroundings : Bindings) (s : List Char) : Contents :=
  (statements s).foldl (Contents.add surroundings) ⟨[], []⟩

/-- A reference sees what the file said last, whatever the surroundings say. -/
theorem meaning_of_bound {bound : Table (Option String)} {name value : String}
    (h : bound.get? name = some (some value)) (surroundings : Bindings) :
    meaning surroundings bound name = some value.toList := by simp [meaning, h]

end Respawn.EnvFile
