import Respawn.Fault
import Respawn.FileTree

/-!
# Canonical paths

The path without links and double dots that a path leads to. The search goes by the text of what is
reached: a path that starts as a relative one stays relative to the working directory, and the same
link is another one when it is reached by another text. Names that are not there are kept. A link
that leads back to itself stops the search; what is left is then read as it is, from there.

* `canonical_no_dots`: a canonical path holds no double dot;
* `canonical_isAskable`: nor a NUL.
-/

namespace Respawn.FileTree

/-! ## 1. The parts of a search -/

/-- The links met so far, each with the path it leads to once that is known. -/
abbrev Met := List (Path × Option Path)

/-- Where a search has come to: the path it reached, whether all was followed on the way there, and
    the links it met. -/
structure Arrival where
  path : Path
  complete : Bool
  met : Met
  deriving DecidableEq, Repr

/-- The segments of a text, empty ones included. -/
def segmentsOf (s : String) : List String := (Text.splitOn '/' s.toList).map String.ofList

/-- The path that segments name as they are. -/
def unfollowed (segments : List String) : Path := Path.ofText ("/".intercalate segments)

/-- The target of the link at a path, if there is a link. A path that is too long has none. -/
def linkAt? (t : FileTree) (cwd p : Path) : Option String :=
  if pathLimit < p.text.utf8ByteSize then none
  else
    match t.get? (cwd.absolute p).parts with
    | some (.link target) => some target
    | _ => none

/-! ## 2. The search -/

/-- Where the segments `rest` lead to from the path `here`, if at most `depth` links are followed one
    within the target of another. -/
def canonicalFrom (t : FileTree) (cwd : Path) (depth : Nat) (met : Met) (here : Path)
    (rest : List String) : Except Fault Arrival :=
  match rest with
  | [] => .ok ⟨here, true, met⟩
  | name :: rest =>
    if name = "" ∨ name = "." then canonicalFrom t cwd depth met here rest
    else if name = ".." then canonicalFrom t cwd depth met here.above rest
    else if name.contains '\x00' then .error .nulInPath
    else
      let p := here.child name
      match t.linkAt? cwd p with
      | none => canonicalFrom t cwd depth met p rest
      | some target =>
        match met.find? (·.1 = p) with
        | some (_, some found) => canonicalFrom t cwd depth met found rest
        | some (_, none) => .ok ⟨p.within (unfollowed rest), false, met⟩
        | none =>
          match depth with
          | 0 => .error .linksTooDeep
          | depth + 1 =>
            let start := if target.startsWith "/" then .top else here
            match canonicalFrom t cwd depth ((p, none) :: met) start (segmentsOf target) with
            | .error f => .error f
            | .ok ⟨found, false, met⟩ => .ok ⟨found.within (unfollowed rest), false, met⟩
            | .ok ⟨found, true, met⟩ =>
              canonicalFrom t cwd (depth + 1) ((p, some found) :: met) found rest
termination_by (depth, rest.length)

/-- How many links are followed one within the target of another. -/
def depthLimit : Nat := 970

/-- The canonical form of a path seen from the working directory. -/
def canonical (t : FileTree) (cwd p : Path) : Except Fault Path := do
  let start : Path := if p.isAbsolute then .top else ⟨.relative, []⟩
  let reached ← t.canonicalFrom cwd depthLimit [] start p.parts
  let found := cwd.absolute reached.path
  if !found.isAskable then .error .nulInPath
  else
    match t.lookup found with
    | .error .tooManyLinks => .error (.linkLoop found.text)
    | _ => pure found

/-! ## 3. Rules -/

theorem canonical_eq_ok {t : FileTree} {cwd p found : Path} (h : t.canonical cwd p = .ok found) :
    (∃ path, found = cwd.absolute path) ∧ found.isAskable = true := by
  unfold canonical at h
  obtain ⟨reached, _, h⟩ := bind_eq_ok.1 h
  dsimp only at h
  split at h
  · cases h
  · rename_i ha
    split at h
    · cases h
    · cases h
      exact ⟨⟨reached.path, rfl⟩, by simpa using ha⟩

/-- A canonical path holds no double dot. -/
theorem canonical_no_dots {t : FileTree} {cwd p found : Path} (hc : cwd.isAbsolute = true)
    (h : t.canonical cwd p = .ok found) : ".." ∉ found.parts := by
  obtain ⟨⟨path, rfl⟩, _⟩ := canonical_eq_ok h
  exact Path.no_dots_collapse (Path.within_isAbsolute hc path)

/-- A canonical path can be asked for. -/
theorem canonical_isAskable {t : FileTree} {cwd p found : Path}
    (h : t.canonical cwd p = .ok found) : found.isAskable = true := (canonical_eq_ok h).2

end Respawn.FileTree
