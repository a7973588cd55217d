import Respawn.Proofs.Glob.Whole

/-!
# Texts of paths

Which path a text names is decided by what it starts with and by its segments that name something.
So texts can differ in their slashes and single dots and name the same path, and collapsing levels
further differences.

* `namesOf_append`, `anchorOf_append`: a text that is cut at a slash;
* `ofText_text`: an absolute path is the one that its text names;
* `absolute_around`: a name that is taken back at once leaves no trace.
-/

namespace Respawn.Path

/-! ## 1. Cut at a slash -/

/-- The names on both sides of a slash. -/
theorem namesOf_append (s t : List Char) : namesOf (s ++ '/' :: t) = namesOf s ++ namesOf t := by
  unfold namesOf
  rw [Text.splitOn_append, List.filter_append, List.map_append]

theorem namesOf_slash (s : List Char) : namesOf ('/' :: s) = namesOf s := namesOf_append [] s

theorem namesOf_dot_slash (s : List Char) : namesOf ('.' :: '/' :: s) = namesOf s :=
  namesOf_append ['.'] s

/-- A segment that names something. -/
theorem namesOf_name {name : String} (named : ¬ (name = "" ∨ name = "."))
    (slashless : '/' ∉ name.toList) : namesOf name.toList = [name] := by
  have kept : isName name.toList = true := by
    unfold isName
    rw [Bool.and_eq_true, decide_eq_true_eq, decide_eq_true_eq]
    exact ⟨fun none => named (.inl (String.toList_eq_nil_iff.1 none)),
      fun dot => named (.inr (String.toList_inj.1 dot))⟩
  unfold namesOf
  rw [Text.splitOn_of_not_mem slashless, List.filter_cons_of_pos kept, List.filter_nil,
    List.map_singleton, String.ofList_toList]

theorem anchorOf_of_ne {c : Char} (h : c ≠ '/') (s : List Char) :
    anchorOf (c :: s) = .relative := by simp [anchorOf, h]

theorem anchorOf_root {c : Char} (h : c ≠ '/') (s : List Char) :
    anchorOf ('/' :: c :: s) = .root := by simp [anchorOf, h]

theorem anchorOf_doubleRoot {c : Char} (h : c ≠ '/') (s : List Char) :
    anchorOf ('/' :: '/' :: c :: s) = .doubleRoot := by simp [anchorOf, h]

/-- What a text starts with is decided by its first character that is no slash. -/
theorem anchorOf_append {s : List Char} (h : ∃ c ∈ s, c ≠ '/') (t : List Char) :
    anchorOf (s ++ t) = anchorOf s := by
  match s with
  | [] => exact absurd h (by simp)
  | c :: s =>
    by_cases first : c = '/'
    · subst first
      match s with
      | [] => exact absurd h (by simp)
      | c :: s =>
        by_cases second : c = '/'
        · subst second
          match s with
          | [] => exact absurd h (by simp)
          | c :: s =>
            by_cases third : c = '/'
            · subst third
              rfl
            · exact (anchorOf_doubleRoot third _).trans (anchorOf_doubleRoot third _).symm
        · exact (anchorOf_root second _).trans (anchorOf_root second _).symm
    · exact (anchorOf_of_ne first _).trans (anchorOf_of_ne first _).symm

/-- What a text names that goes on behind a slash. -/
theorem ofText_of_toList {s text : String} {t : List Char} (begun : ∃ c ∈ s.toList, c ≠ '/')
    (chars : text.toList = s.toList ++ '/' :: t) : ofText text = (ofText s).below (namesOf t) := by
  unfold ofText below
  rw [chars, anchorOf_append begun, namesOf_append]

/-! ## 2. Reading a path back -/

theorem namesOf_intercalate {names : List String}
    (written : ∀ name ∈ names, ¬ (name = "" ∨ name = ".") ∧ '/' ∉ name.toList) :
    namesOf ("/".intercalate names).toList = names := by
  induction names with
  | nil => rfl
  | cons name rest ih =>
    obtain ⟨named, slashless⟩ := written name List.mem_cons_self
    have later := ih fun other hm => written other (List.mem_cons_of_mem _ hm)
    cases rest with
    | nil =>
      rw [String.intercalate_singleton]
      exact namesOf_name named slashless
    | cons next rest =>
      rw [Glob.toList_intercalate, namesOf_append, namesOf_name named slashless, later]
      rfl

/-- A path's names, put together, start with a character of the first one. -/
theorem exists_intercalate {name : String} (rest : List String)
    (named : ¬ (name = "" ∨ name = ".")) (slashless : '/' ∉ name.toList) :
    ∃ c s, ("/".intercalate (name :: rest)).toList = c :: s ∧ c ≠ '/' := by
  cases chars : name.toList with
  | nil => exact absurd (.inl (String.toList_eq_nil_iff.1 chars)) named
  | cons c s =>
    have first : c ≠ '/' := fun slash => slashless (by rw [chars, slash]; exact List.mem_cons_self)
    cases rest with
    | nil => exact ⟨c, s, by rw [String.intercalate_singleton, chars], first⟩
    | cons next rest =>
      exact ⟨c, _, by rw [Glob.toList_intercalate, chars, List.cons_append], first⟩

/-- **An absolute path is the one that its text names.** -/
theorem ofText_text {p : Path} (hp : p.isAbsolute = true) (written : p.Written) :
    ofText p.text = p := by
  obtain ⟨anchor, names⟩ := p
  have rooted : anchor ≠ .relative := of_decide_eq_true hp
  cases names with
  | nil => cases anchor with
    | relative => exact absurd rfl rooted
    | root => decide
    | doubleRoot => decide
  | cons name rest =>
    have text := Glob.toList_text anchor (List.cons_ne_nil name rest)
    have read := namesOf_intercalate written
    obtain ⟨named, slashless⟩ := written name List.mem_cons_self
    obtain ⟨c, s, chars, first⟩ := exists_intercalate rest named slashless
    unfold ofText
    rw [text]
    cases anchor with
    | relative => exact absurd rfl rooted
    | root =>
      rw [Glob.toList_root, List.singleton_append, namesOf_slash, read, chars, anchorOf_root first]
    | doubleRoot =>
      rw [Glob.toList_doubleRoot, List.cons_append, List.singleton_append, namesOf_slash, namesOf_slash, read, chars,
        anchorOf_doubleRoot first]

/-- Absolute paths with the same text are the same. -/
theorem text_inj {p q : Path} (hp : p.isAbsolute = true) (hq : q.isAbsolute = true)
    (written : p.Written) (written' : q.Written) (same : p.text = q.text) : p = q := by
  rw [← ofText_text hp written, same, ofText_text hq written']

theorem Written.within {base p : Path} (hb : base.Written) (hp : p.Written) :
    (base.within p).Written := by
  unfold Path.within
  split
  · exact hp
  · exact fun name hm => (List.mem_append.1 hm).elim (hb name) (hp name)

/-! ## 3. Collapsing -/

/-- A name and a double dot right behind it. -/
theorem foldl_collapseStep_around (anchored : Bool) (kept : List String) {name : String}
    (down : name ≠ "..") : [name, ".."].foldl (collapseStep anchored) kept = kept := by
  simp [collapseStep, down]

theorem collapse_around (p : Path) (after : List String) {name : String} (down : name ≠ "..") :
    (p.below (name :: ".." :: after)).collapse = (p.below after).collapse := by
  have around : p.parts ++ name :: ".." :: after = p.parts ++ [name, ".."] ++ after := by simp
  unfold collapse below
  rw [around, List.foldl_append, List.foldl_append, foldl_collapseStep_around _ _ down,
    ← List.foldl_append]
  rfl

theorem within_below (base p : Path) (names : List String) :
    base.within (p.below names) = (base.within p).below names := by
  have same : (p.below names).isAbsolute = p.isAbsolute := rfl
  unfold within
  rw [same]
  split
  · rfl
  · unfold below
    rw [List.append_assoc]

/-- **A name that is taken back at once leaves no trace.** -/
theorem absolute_around (base p : Path) (after : List String) {name : String}
    (down : name ≠ "..") :
    base.absolute (p.below (name :: ".." :: after)) = base.absolute (p.below after) := by
  unfold absolute
  rw [within_below, within_below, collapse_around _ _ down]

end Respawn.Path
