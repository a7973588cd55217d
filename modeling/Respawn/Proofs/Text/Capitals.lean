import Respawn.Text.CaseMap

/-!
# Capitals

What the mapping to capitals gives, it sends nowhere else: no expansion is listed for it, and no run
covers it. So a text in capitals is the same in capitals.

* `image?_of_clears`: what one run gives and another one leaves;
* **`toUpper_toUpper`**: a text in capitals is the same in capitals.
-/

namespace Respawn.Text

/-! ## 1. Two runs -/

namespace CaseRun

variable {r k : CaseRun} {c n : Nat}

/-- What a run gives. -/
def images (r : CaseRun) : List Nat :=
  (List.range' r.first ((r.last - r.first) / r.step + 1) r.step).map fun (c : Nat) =>
    (c + r.shift).toNat

theorem mem_images (h : r.image? c = some n) : n ∈ r.images := by
  obtain ⟨⟨first, last, steps⟩, rfl⟩ := image?_eq_some.1 h
  refine List.mem_map.2 ⟨c, List.mem_range'.2 ⟨(c - r.first) / r.step, ?_, ?_⟩, rfl⟩
  · have : (c - r.first) / r.step ≤ (r.last - r.first) / r.step :=
      Nat.div_le_div_right (by omega)
    omega
  · rw [Nat.mul_div_cancel' (Nat.dvd_of_mod_eq_zero steps)]
    omega

/-- Whether the second run leaves what the first one gives. Most often the one ends before the other
    begins, and then nothing is tried out. -/
def clears (r k : CaseRun) : Bool :=
  Nat.blt (r.last + r.shift).toNat k.first || Nat.blt k.last (r.first + r.shift).toNat ||
    r.images.all fun n => (k.image? n).isNone

/-- A run leaves what is beside it. -/
theorem image?_of_outside (h : n < k.first ∨ k.last < n) : k.image? n = none := by
  refine if_neg fun covered => ?_
  omega

theorem image?_of_clears (h : r.clears k = true) (hn : r.image? c = some n) :
    k.image? n = none := by
  obtain ⟨⟨first, last, -⟩, given⟩ := image?_eq_some.1 hn
  simp only [clears, Bool.or_eq_true, Nat.blt_eq] at h
  obtain (before | after) | tried := h
  · exact image?_of_outside (.inl (by omega))
  · exact image?_of_outside (.inr (by omega))
  · exact Option.isNone_iff_eq_none.1 (List.all_eq_true.1 tried n (mem_images hn))

end CaseRun

/-! ## 2. The mapping -/

/-- A code point that no expansion is listed for, and that no run covers. -/
structure IsCapital (n : Nat) : Prop where
  expansion : upperExpansions.lookup n = none
  run : ∀ r ∈ upperRuns, r.image? n = none

/-- What an expansion is listed for, as a run. -/
def placeOf (e : Nat × List Nat) : CaseRun := ⟨e.1, e.1, 1, 0⟩

theorem expansions_capital : (upperExpansions.all fun e => e.2.all fun n =>
    (upperExpansions.lookup n).isNone && upperRuns.all fun r => (r.image? n).isNone) = true := by
  decide +kernel

theorem runs_capital : (upperRuns.all fun r =>
    (upperExpansions.all fun e => r.clears (placeOf e)) && upperRuns.all r.clears) = true := by
  decide +kernel

theorem lookup_of_placeOf {n : Nat} (h : ∀ e ∈ upperExpansions, (placeOf e).image? n = none) :
    upperExpansions.lookup n = none := by
  refine List.lookup_eq_none_iff.2 fun e he => ?_
  have apart := h e he
  simp only [placeOf, CaseRun.image?, Nat.mod_one, and_true] at apart
  split at apart
  · cases apart
  · rw [bne_iff_ne]
    omega

/-- What an expansion is made of is capitals. -/
theorem isCapital_of_expansion {c n : Nat} {cs : List Nat} (h : upperExpansions.lookup c = some cs)
    (hn : n ∈ cs) : IsCapital n := by
  obtain ⟨before, after, listed, -⟩ := List.lookup_eq_some_iff.1 h
  have he : (c, cs) ∈ upperExpansions := by
    rw [listed]
    exact List.mem_append_right _ (.head _)
  have known := List.all_eq_true.1 (List.all_eq_true.1 expansions_capital _ he) n hn
  simp only [Bool.and_eq_true, List.all_eq_true, Option.isNone_iff_eq_none] at known
  exact ⟨known.1, known.2⟩

/-- What a run gives is a capital. -/
theorem isCapital_of_run {c n : Nat} {r : CaseRun} (hr : r ∈ upperRuns) (hn : r.image? c = some n) :
    IsCapital n := by
  have known := List.all_eq_true.1 runs_capital r hr
  simp only [Bool.and_eq_true, List.all_eq_true] at known
  exact ⟨lookup_of_placeOf fun e he => CaseRun.image?_of_clears (known.1 e he) hn,
    fun k hk => CaseRun.image?_of_clears (known.2 k hk) hn⟩

/-- A number that is no code point stands for the first one of all, a capital. -/
theorem IsCapital.ofNat {n : Nat} (h : IsCapital n) : IsCapital (Char.ofNat n).toNat := by
  by_cases valid : n.isValidChar
  · rw [Char.ofNat, dif_pos valid]
    exact h
  · rw [Char.ofNat, dif_neg valid]
    exact ⟨rfl, by decide +kernel⟩

/-- The first characters of all, each in capitals. -/
theorem toUpper_ascii : ∀ n < 0x80, (Char.ofNat n).toUpper.toNat < 0x80 ∧
    (Char.ofNat n).toUpper.toUpper = (Char.ofNat n).toUpper ∧
    (0x61 ≤ n ∧ n ≤ 0x7a ∨ (Char.ofNat n).toUpper = Char.ofNat n) := by
  decide +kernel

theorem upperChar_of_isCapital {c : Char} (h : IsCapital c.toNat) : upperChar c = [c] := by
  unfold upperChar
  split
  · next small =>
    obtain ⟨-, -, letter | same⟩ := toUpper_ascii c.toNat small
    · have covered : (⟨0x61, 0x7a, 1, -32⟩ : CaseRun).image? c.toNat = none := h.run _ (.head _)
      rw [CaseRun.image?, if_pos ⟨letter.1, letter.2, Nat.mod_one _⟩] at covered
      cases covered
    · rw [Char.ofNat_toNat] at same
      rw [same]
  · have uncovered : upperRuns.findSome? (·.image? c.toNat) = none :=
      List.findSome?_eq_none_iff.2 h.run
    unfold mapCase
    rw [h.expansion, uncovered]

/-- **A character in capitals is the same in capitals.** -/
theorem upperChar_of_mem {c d : Char} (h : d ∈ upperChar c) : upperChar d = [d] := by
  by_cases small : c.toNat < 0x80
  · rw [upperChar, if_pos small] at h
    cases List.mem_singleton.1 h
    obtain ⟨still, same, -⟩ := toUpper_ascii c.toNat small
    rw [Char.ofNat_toNat] at still same
    rw [upperChar, if_pos still, same]
  · have mapped : upperChar c = mapCase upperExpansions upperRuns c := if_neg small
    rw [mapped] at h
    unfold mapCase at h mapped
    split at h
    · next cs listed =>
      obtain ⟨n, hn, rfl⟩ := List.mem_map.1 h
      exact upperChar_of_isCapital (isCapital_of_expansion listed hn).ofNat
    · next unlisted =>
      split at h
      · next n found =>
        cases List.mem_singleton.1 h
        obtain ⟨r, hr, given⟩ := List.exists_of_findSome?_eq_some found
        exact upperChar_of_isCapital (isCapital_of_run hr given).ofNat
      · next uncovered =>
        cases List.mem_singleton.1 h
        rw [mapped, unlisted, uncovered]

/-- **A text in capitals is the same in capitals.** -/
theorem toUpper_toUpper (s : List Char) : toUpper (toUpper s) = toUpper s := by
  have settled : ∀ t : List Char, (∀ d ∈ t, upperChar d = [d]) → toUpper t = t := by
    intro t
    induction t with
    | nil => exact fun _ => rfl
    | cons d t ih =>
      intro h
      rw [toUpper, List.flatMap_cons, h d (.head _)]
      exact congrArg (d :: ·) (ih fun e he => h e (.tail _ he))
  refine settled (toUpper s) fun d hd => ?_
  obtain ⟨c, -, given⟩ := List.mem_flatMap.1 hd
  exact upperChar_of_mem given

end Respawn.Text
