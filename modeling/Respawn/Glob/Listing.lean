import Respawn.Fault
import Respawn.FileTree
import Respawn.Glob.Wildcard

/-!
# Paths that match a pattern

A pattern is a path whose names may hold wildcards. It is expanded name by name: a name with a
wildcard lists a directory, any other name has only to be there. Hidden names, which start with a
dot, match only a pattern name that starts with one.

* `mem_step_magic`, `mem_step_plain`: what one name of a pattern adds to the paths before it;
* `expand_anchor`: matches start where the pattern starts;
* `sorted_expandSorted`: the matches come in the order of their texts.
-/

namespace Respawn.Glob

/-- Whether a name holds a wildcard. -/
def isMagic (name : String) : Bool :=
  name.toList.any fun c => c = '*' || c = '?' || c = '['

def isHidden (name : String) : Bool := name.toList.head? = some '.'

/-- Whether a name with wildcards matches a name of a directory. -/
def listsName (pattern name : String) : Bool :=
  (isHidden pattern || !isHidden name) && fits pattern name

/-- The paths that one more name of the pattern leads to. Only the last name may match what is no
    directory. -/
def step (t : FileTree) (isLast : Bool) (found : List Path) (name : String) : List Path :=
  found.flatMap fun p =>
    if isMagic name then
      match t.names p with
      | .ok names =>
        ((names.filter fun n => listsName name n && (isLast || t.isDir (p.child n))).map p.child)
      | .error _ => []
    else if t.holds (p.child name) then [p.child name] else []

/-- The paths that the names `parts` lead to from the paths `found`. -/
def steps (t : FileTree) (found : List Path) : List String → List Path
  | [] => found
  | name :: rest => steps t (step t rest.isEmpty found name) rest

/-- The paths that match an absolute pattern. The names before the first wildcard are taken as they
    are; a path that cannot be asked for is a fault where it would be listed. -/
def expand (t : FileTree) (pattern : Path) : Except Fault (List Path) :=
  let plain := pattern.parts.takeWhile fun name => !isMagic name
  let rest := pattern.parts.dropWhile fun name => !isMagic name
  let start : Path := ⟨pattern.anchor, plain⟩
  if rest.isEmpty then .ok (if t.holds start then [start] else [])
  else if !Text.hasBytes start.text.toList then
    .error (.unencodable (Text.unencodable start.text.toList))
  else if !start.isAskable then .error .nulInPath
  else .ok (steps t [start] rest)

/-- The order of texts. -/
def textLe (p q : Path) : Bool := Text.precedes p.text q.text

/-- The paths that match an absolute pattern, in the order of their texts. -/
def expandSorted (t : FileTree) (pattern : Path) : Except Fault (List Path) :=
  (expand t pattern).map fun found => found.mergeSort textLe

/-! ## Rules -/

/-- A name with wildcards lists the directories found so far. -/
theorem mem_step_magic {t : FileTree} {isLast : Bool} {found : List Path} {name : String}
    (hm : isMagic name = true) (q : Path) :
    q ∈ step t isLast found name ↔ ∃ p ∈ found, ∃ names, t.names p = .ok names ∧
      ∃ n ∈ names, listsName name n = true ∧ (isLast = true ∨ t.isDir (p.child n) = true) ∧
        p.child n = q := by
  simp only [step, hm, if_true, List.mem_flatMap]
  constructor
  · rintro ⟨p, hp, hq⟩
    split at hq
    · rename_i names hn
      simp only [List.mem_map, List.mem_filter, Bool.and_eq_true, Bool.or_eq_true] at hq
      obtain ⟨n, ⟨hmem, hl, hd⟩, hq⟩ := hq
      exact ⟨p, hp, names, hn, n, hmem, hl, hd, hq⟩
    · simp at hq
  · rintro ⟨p, hp, names, hn, n, hmem, hl, hd, hq⟩
    refine ⟨p, hp, ?_⟩
    rw [hn]
    simp only [List.mem_map, List.mem_filter, Bool.and_eq_true, Bool.or_eq_true]
    exact ⟨n, ⟨hmem, hl, hd⟩, hq⟩

/-- A name without wildcards has only to be there. -/
theorem mem_step_plain {t : FileTree} {isLast : Bool} {found : List Path} {name : String}
    (hm : isMagic name = false) (q : Path) :
    q ∈ step t isLast found name ↔
      ∃ p ∈ found, t.holds (p.child name) = true ∧ q = p.child name := by
  simp only [step, hm, List.mem_flatMap]
  constructor
  · rintro ⟨p, hp, hq⟩
    by_cases h : t.holds (p.child name) = true
    · exact ⟨p, hp, h, by simpa [h] using hq⟩
    · simp [h] at hq
  · rintro ⟨p, hp, h, rfl⟩
    exact ⟨p, hp, by simp [h]⟩

theorem step_anchor {t : FileTree} {isLast : Bool} {found : List Path} {name : String} {a : Anchor}
    (h : ∀ p ∈ found, p.anchor = a) : ∀ q ∈ step t isLast found name, q.anchor = a := by
  intro q hq
  by_cases hm : isMagic name = true
  · obtain ⟨p, hp, _, _, n, _, _, _, rfl⟩ := (mem_step_magic hm q).1 hq
    exact h p hp
  · obtain ⟨p, hp, _, rfl⟩ := (mem_step_plain (by simpa using hm) q).1 hq
    exact h p hp

theorem steps_anchor {t : FileTree} {a : Anchor} (parts : List String) {found : List Path}
    (h : ∀ p ∈ found, p.anchor = a) : ∀ q ∈ steps t found parts, q.anchor = a := by
  induction parts generalizing found with
  | nil => exact h
  | cons name rest ih => exact ih (step_anchor h)

/-- Matches start where the pattern starts. -/
theorem expand_anchor {t : FileTree} {pattern : Path} {found : List Path}
    (h : expand t pattern = .ok found) : ∀ q ∈ found, q.anchor = pattern.anchor := by
  unfold expand at h
  simp only at h
  split at h
  · cases h
    intro q hq
    split at hq
    · simp at hq; simp [hq]
    · simp at hq
  · split at h
    · cases h
    · split at h
      · cases h
      · cases h
        exact steps_anchor _ (by simp)

/-- The matches come in the order of their texts. -/
theorem sorted_expandSorted {t : FileTree} {pattern : Path} {found : List Path}
    (h : expandSorted t pattern = .ok found) : found.Pairwise fun p q => textLe p q = true := by
  obtain ⟨unsorted, _, rfl⟩ := map_eq_ok.1 h
  refine List.pairwise_mergeSort (fun p q r first next => ?_) (fun p q => ?_) unsorted
  · exact Text.precedes_trans first next
  · exact Text.precedes_total p.text q.text

end Respawn.Glob
