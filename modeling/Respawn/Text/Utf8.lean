import Respawn.Text.Surrogate

/-!
# UTF-8

A byte stream is cut into pieces: a well-formed sequence is a character, and the longest start of
one that goes no further is a defect. Strict reading stops at the first defect, lenient reading puts
one replacement character in its place, and lossless reading keeps each of its bytes apart.

* `pieces_cons_newline`: a newline byte is a piece of its own;
* `strict_eq_ok_iff`: strict reading succeeds exactly when every piece is a character;
* `lenient_of_strict`, `lossless_of_strict`: where strict reading succeeds, the others give the same
  text.
-/

namespace Respawn.Text.Utf8

/-! ## 1. Pieces -/

/-- Why a byte sequence is no character. -/
inductive Defect where
  | badStart
  | badContinuation
  | cutShort
  deriving DecidableEq, Repr

/-- A character, or the bytes that form none and why. -/
inductive Piece where
  | char (c : Char)
  | broken (why : Defect) (bytes : List UInt8)
  deriving DecidableEq, Repr

/-- What a lead byte promises: how many bytes follow, the bounds of the first of them, and the bits
    it contributes. -/
structure Lead where
  following : Nat
  low : UInt8
  high : UInt8
  bits : Nat

/-- The lead bytes of sequences of two to four bytes. The bounds shut out overlong forms,
    surrogates and numbers past the last code point. -/
def lead? (b : UInt8) : Option Lead :=
  if b < 0xc2 then none
  else if b < 0xe0 then some ⟨1, 0x80, 0xbf, b.toNat - 0xc0⟩
  else if b = 0xe0 then some ⟨2, 0xa0, 0xbf, 0⟩
  else if b = 0xed then some ⟨2, 0x80, 0x9f, 0xd⟩
  else if b < 0xf0 then some ⟨2, 0x80, 0xbf, b.toNat - 0xe0⟩
  else if b = 0xf0 then some ⟨3, 0x90, 0xbf, 0⟩
  else if b < 0xf4 then some ⟨3, 0x80, 0xbf, b.toNat - 0xf0⟩
  else if b = 0xf4 then some ⟨3, 0x80, 0x8f, 4⟩
  else none

/-- The longest run of at most `n` continuation bytes, the first of them within its own bounds. -/
def continuation : Nat → UInt8 → UInt8 → List UInt8 → List UInt8
  | 0, _, _, _ => []
  | _ + 1, _, _, [] => []
  | n + 1, low, high, b :: rest =>
    if low ≤ b ∧ b ≤ high then b :: continuation n 0x80 0xbf rest else []

theorem continuation_length_le (n : Nat) (low high : UInt8) (bs : List UInt8) :
    (continuation n low high bs).length ≤ bs.length := by
  induction n generalizing low high bs with
  | zero => simp [continuation]
  | succ n ih =>
    cases bs with
    | nil => simp [continuation]
    | cons b rest =>
      rw [continuation]
      split
      · simpa using ih 0x80 0xbf rest
      · simp

/-- The first piece of a stream that starts with the byte `b`, and how many of the bytes after it
    belong to it. -/
def first (b : UInt8) (rest : List UInt8) : Piece × Nat :=
  if b < 0x80 then (.char (Char.ofNat b.toNat), 0)
  else match lead? b with
    | none => (.broken .badStart [b], 0)
    | some lead =>
      let tail := continuation lead.following lead.low lead.high rest
      if tail.length = lead.following then
        (.char (Char.ofNat (tail.foldl (fun n c => n * 64 + (c.toNat - 0x80)) lead.bits)),
          tail.length)
      else if tail.length = rest.length then (.broken .cutShort (b :: tail), tail.length)
      else (.broken .badContinuation (b :: tail), tail.length)

/-- A byte stream cut into pieces. -/
def pieces : List UInt8 → List Piece
  | [] => []
  | b :: rest => (first b rest).1 :: pieces (rest.drop (first b rest).2)
termination_by bs => bs.length
decreasing_by rw [List.length_drop, List.length_cons]; omega

/-! ## 2. Reading -/

/-- Lenient reading puts one replacement character in the place of each defect. -/
def Piece.shown : Piece → Char
  | .char c => c
  | .broken _ _ => '\ufffd'

/-- The text of a stream, a replacement character for every defect. -/
def lenient (bs : List UInt8) : List Char := (pieces bs).map Piece.shown

/-- Lossless reading puts half of a surrogate pair in the place of each byte of a defect. -/
def Piece.kept : Piece → List Char
  | .char c => [c]
  | .broken _ bytes => bytes.map fun b => carrier (0xdc00 + b.toNat)

/-- The text of a stream with the bytes of every defect kept. -/
def lossless (bs : List UInt8) : List Char := (pieces bs).flatMap Piece.kept

/-- The first defect of a stream and where it starts. -/
structure Undecodable where
  why : Defect
  bytes : List UInt8
  position : Nat
  deriving DecidableEq, Repr

def Piece.width : Piece → Nat
  | .char c => c.utf8Size
  | .broken _ bytes => bytes.length

/-- The characters of the pieces, or the first defect; `position` is the offset of the first
    piece. -/
def characters (position : Nat) : List Piece → Except Undecodable (List Char)
  | [] => .ok []
  | .broken why bytes :: _ => .error ⟨why, bytes, position⟩
  | .char c :: rest => (characters (position + c.utf8Size) rest).map (c :: ·)

/-- The text of a stream without defects. -/
def strict (bs : List UInt8) : Except Undecodable (List Char) := characters 0 (pieces bs)

/-- The bytes of a text. -/
def encode (s : List Char) : List UInt8 := s.flatMap String.utf8EncodeChar

/-! ## 3. What the two readings have in common -/

@[simp] theorem pieces_nil : pieces [] = [] := by rw [pieces]

theorem pieces_cons (b : UInt8) (rest : List UInt8) :
    pieces (b :: rest) = (first b rest).1 :: pieces (rest.drop (first b rest).2) := by rw [pieces]

@[simp] theorem pieces_cons_newline (rest : List UInt8) :
    pieces (0x0a :: rest) = .char '\n' :: pieces rest := by
  rw [pieces_cons]
  rfl

theorem characters_eq_ok {position : Nat} {ps : List Piece} {s : List Char}
    (h : characters position ps = .ok s) : ps = s.map .char := by
  induction ps generalizing position s with
  | nil => simp [characters] at h; simp [← h]
  | cons p rest ih =>
    cases p with
    | broken why bytes => simp [characters] at h
    | char c =>
      rw [characters] at h
      cases hr : characters (position + c.utf8Size) rest with
      | error e => simp [hr, Except.map] at h
      | ok t =>
        simp only [hr, Except.map, Except.ok.injEq] at h
        rw [← h, ih hr, List.map_cons]

theorem characters_map_char (position : Nat) (s : List Char) :
    characters position (s.map .char) = .ok s := by
  induction s generalizing position with
  | nil => rfl
  | cons c rest ih => simp [characters, ih, Except.map]

/-- Strict reading succeeds exactly when every piece is a character. -/
theorem strict_eq_ok_iff (bs : List UInt8) (s : List Char) :
    strict bs = .ok s ↔ pieces bs = s.map .char :=
  ⟨characters_eq_ok, fun h => by rw [strict, h, characters_map_char]⟩

/-- Where strict reading succeeds, lenient reading gives the same text. -/
theorem lenient_of_strict {bs : List UInt8} {s : List Char} (h : strict bs = .ok s) :
    lenient bs = s := by
  rw [lenient, (strict_eq_ok_iff bs s).1 h]
  simp [Function.comp_def, Piece.shown]

/-- Where strict reading succeeds, lossless reading gives the same text. -/
theorem lossless_of_strict {bs : List UInt8} {s : List Char} (h : strict bs = .ok s) :
    lossless bs = s := by
  rw [lossless, (strict_eq_ok_iff bs s).1 h]
  simp [List.flatMap_map, Piece.kept]

end Respawn.Text.Utf8
