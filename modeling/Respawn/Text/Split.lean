/-!
# Text cut at a separator

* `splitOn_ne_nil`: cutting always yields at least one piece;
* `joinWith_splitOn`: putting the pieces together again gives the text back;
* `splitOn_append`: a separator in the middle cuts there and nowhere else.
-/

namespace Respawn.Text

/-- The pieces of a list between the occurrences of `sep`. -/
def splitOn {α : Type} [DecidableEq α] (sep : α) : List α → List (List α)
  | [] => [[]]
  | c :: rest =>
    if c = sep then [] :: splitOn sep rest
    else match splitOn sep rest with
      | [] => [[c]]
      | piece :: pieces => (c :: piece) :: pieces

/-- The pieces one after the other with `sep` between them. -/
def joinWith {α : Type} (sep : List α) : List (List α) → List α
  | [] => []
  | [piece] => piece
  | piece :: pieces => piece ++ sep ++ joinWith sep pieces

variable {α : Type} [DecidableEq α]

theorem splitOn_ne_nil (sep : α) (s : List α) : splitOn sep s ≠ [] := by
  cases s with
  | nil => simp [splitOn]
  | cons c rest =>
    rw [splitOn]
    split
    · simp
    · split <;> simp

omit [DecidableEq α] in
theorem joinWith_cons_cons (sep piece next : List α) (pieces : List (List α)) :
    joinWith sep (piece :: next :: pieces) = piece ++ sep ++ joinWith sep (next :: pieces) := rfl

theorem joinWith_splitOn (sep : α) (s : List α) : joinWith [sep] (splitOn sep s) = s := by
  induction s with
  | nil => rfl
  | cons c rest ih =>
    rw [splitOn]
    have hne := splitOn_ne_nil sep rest
    cases h : splitOn sep rest with
    | nil => exact absurd h hne
    | cons piece pieces =>
      rw [h] at ih
      by_cases hc : c = sep
      · simp [hc, joinWith_cons_cons, ih]
      · simp only [hc, if_false]
        cases pieces with
        | nil => simpa [joinWith] using ih
        | cons next more => rw [joinWith_cons_cons] at ih ⊢; simp [ih]

/-- A separator in the middle cuts there and nowhere else. -/
theorem splitOn_append (sep : α) (s t : List α) :
    splitOn sep (s ++ sep :: t) = splitOn sep s ++ splitOn sep t := by
  induction s with
  | nil => simp [splitOn]
  | cons c rest ih =>
    rw [List.cons_append, splitOn, splitOn, ih]
    by_cases hc : c = sep
    · simp [hc]
    · simp only [hc, if_false]
      cases h : splitOn sep rest with
      | nil => exact absurd h (splitOn_ne_nil sep rest)
      | cons piece pieces => rfl

/-- A text without the separator is one piece. -/
theorem splitOn_of_not_mem {sep : α} {s : List α} (h : sep ∉ s) : splitOn sep s = [s] := by
  induction s with
  | nil => rfl
  | cons c rest ih =>
    simp only [List.mem_cons, not_or] at h
    have hc : ¬c = sep := fun e => h.1 e.symm
    simp [splitOn, hc, ih h.2]

/-- No piece holds the separator. -/
theorem not_mem_of_mem_splitOn {sep : α} {s piece : List α} (h : piece ∈ splitOn sep s) :
    sep ∉ piece := by
  induction s generalizing piece with
  | nil => simp [splitOn] at h; simp [h]
  | cons c rest ih =>
    rw [splitOn] at h
    split at h
    · rcases List.mem_cons.1 h with rfl | h
      · simp
      · exact ih h
    · rename_i hc
      cases hs : splitOn sep rest with
      | nil => exact absurd hs (splitOn_ne_nil sep rest)
      | cons p ps =>
        rw [hs] at h ih
        rcases List.mem_cons.1 h with rfl | h
        · simp only [List.mem_cons, not_or]
          exact ⟨fun e => hc e.symm, ih (List.mem_cons_self ..)⟩
        · exact ih (List.mem_cons_of_mem _ h)

end Respawn.Text
