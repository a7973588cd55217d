import Mathlib.Data.List.Basic
import Respawn.Text.Split
import Respawn.Text.Utf8

/-!
# Newlines in a byte stream

No byte of a longer sequence is a newline byte, so a newline ends whatever sequence stands before it,
and a defect before it takes none of what follows. A stream may be decoded line by line.

* `lenient_cut`: what stands before a newline is decoded without what comes after it;
* `newline_not_mem_lenient`: a newline is decoded from nothing but a newline byte.
-/

namespace Respawn.Text.Utf8

/-! ## 1. Sequences end before a newline -/

/-- The newline byte. -/
abbrev newline : UInt8 := 0x0a

/-- The bytes that may follow a lead byte lie beyond all single ones. -/
theorem lead_low {b : UInt8} {lead : Lead} (h : lead? b = some lead) : newline < lead.low := by
  unfold lead? at h
  repeat' split at h
  all_goals cases h
  all_goals (dsimp only; decide)

theorem continuation_cut (n : Nat) {low : UInt8} (h : newline < low) (high : UInt8)
    (xs ys : List UInt8) :
    continuation n low high (xs ++ newline :: ys) = continuation n low high xs := by
  induction n generalizing low high xs with
  | zero => rfl
  | succ n ih =>
    cases xs with
    | nil =>
      have out : ¬ (low ≤ newline ∧ newline ≤ high) := fun within => UInt8.not_le.2 h within.1
      simp only [List.nil_append, continuation, if_neg out]
    | cons x xs =>
      have rest := ih (by decide : newline < 0x80) 0xbf xs
      simp only [List.cons_append, continuation, rest]

/-- A piece takes no more than there is. -/
theorem first_le (b : UInt8) (rest : List UInt8) : (first b rest).2 ≤ rest.length := by
  unfold first
  split
  · exact Nat.zero_le _
  · split
    · exact Nat.zero_le _
    · next lead _ =>
      have bound := continuation_length_le lead.following lead.low lead.high rest
      dsimp only
      split
      · exact bound
      · split <;> exact bound

/-- What comes after a newline makes no difference to the piece before it, apart from why it is a
    defect. -/
theorem first_cut (b : UInt8) (xs ys : List UInt8) :
    (first b (xs ++ newline :: ys)).1.shown = (first b xs).1.shown ∧
      (first b (xs ++ newline :: ys)).2 = (first b xs).2 := by
  unfold first
  split
  · exact ⟨rfl, rfl⟩
  · split
    · exact ⟨rfl, rfl⟩
    · next lead hl =>
      rw [continuation_cut lead.following (lead_low hl) lead.high xs ys]
      dsimp only
      split
      · exact ⟨rfl, rfl⟩
      · split <;> split <;> exact ⟨rfl, rfl⟩

theorem lenient_cons (b : UInt8) (rest : List UInt8) :
    lenient (b :: rest) = (first b rest).1.shown :: lenient (rest.drop (first b rest).2) := by
  rw [lenient, pieces_cons, List.map_cons, lenient]

/-- **What stands before a newline is decoded without what comes after it.** -/
theorem lenient_cut (xs ys : List UInt8) :
    lenient (xs ++ newline :: ys) = lenient xs ++ '\n' :: lenient ys := by
  fun_induction pieces xs with
  | case1 =>
    have nothing : lenient [] = [] := by rw [lenient, pieces_nil, List.map_nil]
    rw [List.nil_append, nothing, List.nil_append, lenient, pieces_cons_newline, List.map_cons,
      lenient]
    rfl
  | case2 b rest ih =>
    obtain ⟨shown, width⟩ := first_cut b rest ys
    rw [List.cons_append, lenient_cons, lenient_cons, shown, width,
      List.drop_append_of_le_length (first_le b rest), ih, List.cons_append]

/-! ## 2. Nothing else is a newline -/

theorem ofNat_eq_newline {n : Nat} (h : Char.ofNat n = '\n') : n = 10 := by
  by_cases valid : n.isValidChar
  · have number := congrArg Char.toNat h
    rwa [Char.ofNat, dif_pos valid] at number
  · rw [Char.ofNat, dif_neg valid] at h
    exact absurd h (by decide)

/-- No byte that follows makes the number of a sequence smaller. -/
theorem le_number (bits : Nat) (tail : List UInt8) :
    bits ≤ tail.foldl (fun n c => n * 64 + (c.toNat - 0x80)) bits := by
  induction tail generalizing bits with
  | nil => exact Nat.le_refl bits
  | cons c tail ih =>
    have more : bits ≤ bits * 64 + (c.toNat - 0x80) := by omega
    rw [List.foldl_cons]
    exact Nat.le_trans more (ih (bits * 64 + (c.toNat - 0x80)))

/-- A lead byte contributes something to the number, or the first of two or more bytes after it
    does. -/
theorem lead_weight {b : UInt8} {lead : Lead} (h : lead? b = some lead) :
    (1 ≤ lead.following ∧ 1 ≤ lead.bits) ∨ (2 ≤ lead.following ∧ 0x90 ≤ lead.low) := by
  unfold lead? at h
  repeat' split at h
  all_goals cases h
  all_goals simp only [UInt8.lt_iff_toNat_lt, UInt8.le_iff_toNat_le, ← UInt8.toNat_inj] at *
  all_goals simp at *
  all_goals omega

/-- The first byte after the lead byte is within its bounds. -/
theorem continuation_head {n : Nat} {low high c : UInt8} {xs tail : List UInt8}
    (h : continuation n low high xs = c :: tail) : low ≤ c := by
  cases n with
  | zero => cases h
  | succ n =>
    cases xs with
    | nil => cases h
    | cons x xs =>
      rw [continuation] at h
      by_cases within : low ≤ x ∧ x ≤ high
      · rw [if_pos within] at h
        obtain ⟨rfl, -⟩ := List.cons.inj h
        exact within.1
      · rw [if_neg within] at h
        cases h

/-- A sequence of more than one byte has no small number. -/
theorem number_large {b : UInt8} {lead : Lead} (h : lead? b = some lead) {xs : List UInt8}
    (whole : (continuation lead.following lead.low lead.high xs).length = lead.following) :
    64 ≤ (continuation lead.following lead.low lead.high xs).foldl
      (fun n c => n * 64 + (c.toNat - 0x80)) lead.bits := by
  generalize ht : continuation lead.following lead.low lead.high xs = tail at whole ⊢
  rcases lead_weight h with ⟨follows, weighs⟩ | ⟨follows, low⟩
  · cases tail with
    | nil =>
      rw [← whole] at follows
      cases follows
    | cons c tail =>
      have large : 64 ≤ lead.bits * 64 + (c.toNat - 0x80) := by omega
      rw [List.foldl_cons]
      exact Nat.le_trans large (le_number _ tail)
  · match tail with
    | [] | [_] =>
      rw [← whole] at follows
      exact absurd follows (by simp)
    | c :: d :: tail =>
      have bound : 0x90 ≤ c.toNat :=
        UInt8.le_iff_toNat_le.1 (UInt8.le_trans low (continuation_head ht))
      have large : 64 ≤ (lead.bits * 64 + (c.toNat - 0x80)) * 64 + (d.toNat - 0x80) := by omega
      rw [List.foldl_cons, List.foldl_cons]
      exact Nat.le_trans large (le_number _ tail)

/-- The first piece shows a newline only if it starts with one. -/
theorem first_newline {b : UInt8} {rest : List UInt8} (h : (first b rest).1.shown = '\n') :
    b = newline := by
  unfold first at h
  split at h
  · exact UInt8.toNat_inj.1 (ofNat_eq_newline h)
  · split at h
    · cases h
    · next lead hl =>
      dsimp only at h
      split at h
      · next whole =>
        have large := number_large hl whole
        have small := ofNat_eq_newline h
        omega
      · split at h <;> cases h

/-- **A newline is decoded from nothing but a newline byte.** -/
theorem newline_not_mem_lenient {xs : List UInt8} (h : newline ∉ xs) : '\n' ∉ lenient xs := by
  fun_induction pieces xs with
  | case1 => rw [lenient, pieces_nil]; exact List.not_mem_nil
  | case2 b rest ih =>
    have other : b ≠ newline := fun same => h (same ▸ List.mem_cons_self)
    have later : newline ∉ rest.drop (first b rest).2 :=
      fun hm => h (List.mem_cons_of_mem _ (List.mem_of_mem_drop hm))
    rw [lenient_cons, List.mem_cons]
    exact not_or_intro (fun shown => other (first_newline shown.symm)) (ih later)

end Respawn.Text.Utf8
