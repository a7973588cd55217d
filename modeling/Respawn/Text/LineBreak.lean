/-!
# Line breaks

Text files may end their lines in three ways; text read from a file ends them in one.

* `not_mem_unified`: no carriage return is left;
* `unified_of_not_mem`: text without carriage returns stays as it is.
-/

namespace Respawn.Text

/-- The text with every line break written as a single newline. -/
def unified : List Char → List Char
  | [] => []
  | '\r' :: '\n' :: rest => '\n' :: unified rest
  | c :: rest => (if c = '\r' then '\n' else c) :: unified rest

theorem not_mem_unified (s : List Char) : '\r' ∉ unified s := by
  fun_induction unified s with
  | case1 => simp
  | case2 rest ih => simp [ih]
  | case3 c rest _ ih =>
    by_cases h : c = '\r'
    · simp [h, ih]
    · simp [h, Ne.symm h, ih]

theorem unified_of_not_mem {s : List Char} (h : '\r' ∉ s) : unified s = s := by
  fun_induction unified s with
  | case1 => rfl
  | case2 rest ih => simp at h
  | case3 c rest _ ih =>
    simp only [List.mem_cons, not_or] at h
    simp [Ne.symm h.1, ih h.2]

end Respawn.Text
