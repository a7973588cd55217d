import Respawn.Glob.Listing

/-!
# Watch sets

The watch set is what a pattern lists, seen from a base directory. It must not be empty, and every
path in it has to be readable: it leads to something, and the user may read that.

* `anchored_isAbsolute`, `anchored_no_dots`: an anchored pattern is absolute and holds no double dot;
* `resolve_ne_nil`: a watch set that was resolved is not empty;
* `resolve_readable`: all of its paths can be read.
-/

namespace Respawn.WatchSet

/-- A pattern as seen from a base directory, absolute and collapsed. -/
def anchored (cwd base pattern : Path) : Path := cwd.absolute (base.within pattern)

/-- Why a path cannot be watched. -/
def absentReason : String := "no such file or directory"

def unreadableReason : String := "permission denied"

/-- Whether a path can be read, given of which paths the user may read what they lead to. -/
def readable (t : FileTree) (mayRead : Path → Bool) (p : Path) : Bool := t.reaches p && mayRead p

/-- The paths that a pattern lists, in the order of their texts. -/
def resolve (cwd : Path) (t : FileTree) (base pattern : Path)
    (mayRead : Path → Bool := fun _ => true) : Except Fault (List Path) :=
  let full := anchored cwd base pattern
  match Glob.expandSorted t full with
  | .error f => .error f
  | .ok [] => .error (.cannotWatch full.text absentReason)
  | .ok (p :: rest) =>
    match (p :: rest).find? fun p => !readable t mayRead p with
    | some p => .error (.cannotWatch p.text unreadableReason)
    | none => .ok (p :: rest)

theorem anchored_isAbsolute {cwd : Path} (h : cwd.isAbsolute = true) (base pattern : Path) :
    (anchored cwd base pattern).isAbsolute = true := Path.absolute_isAbsolute h _

theorem anchored_no_dots {cwd : Path} (h : cwd.isAbsolute = true) (base pattern : Path) :
    ".." ∉ (anchored cwd base pattern).parts :=
  Path.no_dots_collapse (Path.within_isAbsolute h _)

section Resolved

variable {cwd base pattern : Path} {t : FileTree} {mayRead : Path → Bool} {found : List Path}

theorem resolve_eq_ok (h : resolve cwd t base pattern mayRead = .ok found) :
    Glob.expandSorted t (anchored cwd base pattern) = .ok found ∧ found ≠ [] ∧
      ∀ p ∈ found, readable t mayRead p = true := by
  unfold resolve at h
  simp only at h
  split at h
  · cases h
  · cases h
  · rename_i p rest heq
    split at h
    · cases h
    · rename_i hn
      cases h
      refine ⟨heq, by simp, fun q hq => ?_⟩
      simpa using List.find?_eq_none.1 hn q hq

/-- A watch set that was resolved is not empty. -/
theorem resolve_ne_nil (h : resolve cwd t base pattern mayRead = .ok found) : found ≠ [] :=
  (resolve_eq_ok h).2.1

/-- All paths of a watch set can be read. -/
theorem resolve_readable (h : resolve cwd t base pattern mayRead = .ok found) :
    ∀ p ∈ found, readable t mayRead p = true :=
  (resolve_eq_ok h).2.2

end Resolved

end Respawn.WatchSet
