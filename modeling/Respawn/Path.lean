import Respawn.Text.Split

/-!
# Paths

A path is an anchor and a list of names. Reading a path drops empty segments and single dots, and
keeps double dots, since what they mean depends on links. A path that starts with exactly two slashes
keeps both.

* `no_dots_collapse`, `collapse_collapse`: an absolute path collapses to one without double dots,
  and once is enough;
* `absolute_isAbsolute`: seen from an absolute base every path is absolute.
-/

namespace Respawn

open Respawn.Text

/-- What a path starts with: nothing, one slash, or exactly two. -/
inductive Anchor where
  | relative
  | root
  | doubleRoot
  deriving DecidableEq, Repr

def Anchor.text : Anchor → String
  | .relative => ""
  | .root => "/"
  | .doubleRoot => "//"

/-- A path: its anchor and its names. -/
structure Path where
  anchor : Anchor
  parts : List String
  deriving DecidableEq, Repr

namespace Path

/-! ## 1. Reading and writing -/

/-- What a text of path segments starts with. -/
def anchorOf : List Char → Anchor
  | '/' :: '/' :: '/' :: _ => .root
  | '/' :: '/' :: _ => .doubleRoot
  | '/' :: _ => .root
  | _ => .relative

/-- A segment that names something: neither empty nor a single dot. -/
def isName (segment : List Char) : Bool := segment ≠ [] && segment ≠ ['.']

/-- The names of a path's text. -/
def namesOf (s : List Char) : List String :=
  ((splitOn '/' s).filter isName).map String.ofList

/-- The path that a text names. -/
def ofText (s : String) : Path := ⟨anchorOf s.toList, namesOf s.toList⟩

/-- The text of a path; the empty path is a single dot. -/
def text (p : Path) : String :=
  if p.anchor = .relative ∧ p.parts = [] then "."
  else p.anchor.text ++ "/".intercalate p.parts

instance : ToString Path := ⟨text⟩

@[simp] theorem ofText_anchor (s : String) : (ofText s).anchor = anchorOf s.toList := rfl

@[simp] theorem ofText_parts (s : String) : (ofText s).parts = namesOf s.toList := rfl

/-! ## 2. Composition -/

/-- The path above all others. -/
def top : Path := ⟨.root, []⟩

def isAbsolute (p : Path) : Bool := p.anchor ≠ .relative

/-- The path `p` as seen from `base`: an absolute path stays what it is. -/
def within (base p : Path) : Path :=
  if p.isAbsolute then p else ⟨base.anchor, base.parts ++ p.parts⟩

/-- A name below a path. -/
def child (p : Path) (name : String) : Path := ⟨p.anchor, p.parts ++ [name]⟩

/-- The path one name shorter; a path without names is its own parent. -/
def parent (p : Path) : Path := ⟨p.anchor, p.parts.dropLast⟩

/-- Whether a path can be handed to the operating system, which takes no text with a NUL in it. -/
def isAskable (p : Path) : Bool := p.parts.all fun name => !name.contains '\x00'

@[simp] theorem within_of_absolute {base p : Path} (h : p.isAbsolute = true) :
    base.within p = p := by simp [within, h]

/-! ## 3. Double dots -/

/-- The names kept so far, nearest first, after one more name. A double dot takes the name before
    it away; at the root there is nothing to take, and before a relative path it has to stay. -/
def collapseStep (anchored : Bool) (kept : List String) (name : String) : List String :=
  if name = ".." then
    match kept with
    | [] => if anchored then [] else [".."]
    | last :: before => if last = ".." then ".." :: kept else before
  else name :: kept

/-- The directory above a path, as far as its text alone decides. -/
def above (p : Path) : Path :=
  ⟨p.anchor, (collapseStep p.isAbsolute p.parts.reverse "..").reverse⟩

/-- The path without double dots, as far as its text alone decides. -/
def collapse (p : Path) : Path :=
  ⟨p.anchor, (p.parts.foldl (collapseStep p.isAbsolute) []).reverse⟩

/-- The absolute and collapsed form of a path seen from `base`. -/
def absolute (base p : Path) : Path := (base.within p).collapse

@[simp] theorem collapse_anchor (p : Path) : p.collapse.anchor = p.anchor := rfl

@[simp] theorem collapse_isAbsolute (p : Path) : p.collapse.isAbsolute = p.isAbsolute := rfl

theorem within_isAbsolute {base : Path} (h : base.isAbsolute = true) (p : Path) :
    (base.within p).isAbsolute = true := by
  unfold within
  split
  · assumption
  · exact h

theorem absolute_isAbsolute {base : Path} (h : base.isAbsolute = true) (p : Path) :
    (base.absolute p).isAbsolute = true := within_isAbsolute h p

theorem foldl_collapseStep_of_no_dots (anchored : Bool) (kept names : List String)
    (h : ".." ∉ names) : names.foldl (collapseStep anchored) kept = names.reverse ++ kept := by
  induction names generalizing kept with
  | nil => rfl
  | cons name rest ih =>
    simp only [List.mem_cons, not_or] at h
    have hn : ¬name = ".." := fun e => h.1 e.symm
    simp [List.foldl_cons, collapseStep, hn, ih _ h.2]

/-- A path without double dots is its own collapsed form. -/
theorem collapse_of_no_dots {p : Path} (h : ".." ∉ p.parts) : p.collapse = p := by
  simp [collapse, foldl_collapseStep_of_no_dots _ _ _ h]

theorem no_dots_collapseStep {kept : List String} (h : ".." ∉ kept) (name : String) :
    ".." ∉ collapseStep true kept name := by
  unfold collapseStep
  split
  · cases kept with
    | nil => simp
    | cons last before =>
      simp only [List.mem_cons, not_or] at h
      have hl : ¬last = ".." := fun e => h.1 e.symm
      simp [hl, h.2]
  · rename_i hn
    simp only [List.mem_cons, not_or]
    exact ⟨fun e => hn e.symm, h⟩

theorem no_dots_foldl {kept : List String} (h : ".." ∉ kept) (names : List String) :
    ".." ∉ names.foldl (collapseStep true) kept := by
  induction names generalizing kept with
  | nil => exact h
  | cons name rest ih => exact ih (no_dots_collapseStep h name)

/-- The collapsed form of an absolute path holds no double dot. -/
theorem no_dots_collapse {p : Path} (h : p.isAbsolute = true) : ".." ∉ p.collapse.parts := by
  simp only [collapse, h, List.mem_reverse]
  exact no_dots_foldl (by simp) _

/-- **Collapsing an absolute path a second time changes nothing.** -/
theorem collapse_collapse {p : Path} (h : p.isAbsolute = true) : p.collapse.collapse = p.collapse :=
  collapse_of_no_dots (no_dots_collapse h)

/-- Collapsing adds no name. -/
theorem mem_foldl_collapseStep (anchored : Bool) {names kept : List String} {name : String}
    (h : name ∈ names.foldl (collapseStep anchored) kept) : name ∈ kept ∨ name ∈ names := by
  induction names generalizing kept with
  | nil => exact .inl h
  | cons first rest ih =>
    rcases ih h with step | later
    · unfold collapseStep at step
      split at step
      · rename_i dots
        split at step
        · split at step
          · cases step
          · exact .inr (List.mem_singleton.1 step ▸ dots ▸ List.mem_cons_self)
        · split at step
          · rcases List.mem_cons.1 step with rfl | before
            · exact .inr (dots ▸ List.mem_cons_self)
            · exact .inl before
          · exact .inl (List.mem_cons_of_mem _ step)
      · rcases List.mem_cons.1 step with rfl | before
        · exact .inr List.mem_cons_self
        · exact .inl before
    · exact .inr (List.mem_cons_of_mem _ later)

theorem mem_collapse {p : Path} {name : String} (h : name ∈ p.collapse.parts) : name ∈ p.parts :=
  (mem_foldl_collapseStep _ (List.mem_reverse.1 h)).resolve_left List.not_mem_nil

/-- Every name of a path seen from a directory is one of the path or one of the directory. -/
theorem mem_absolute {base p : Path} {name : String} (h : name ∈ (base.absolute p).parts) :
    name ∈ base.parts ∨ name ∈ p.parts := by
  have within := mem_collapse h
  unfold Path.within at within
  split at within
  · exact .inr within
  · exact List.mem_append.1 within

end Path

end Respawn
