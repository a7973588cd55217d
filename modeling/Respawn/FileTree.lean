import Respawn.Path
import Respawn.Table

/-!
# File trees

A tree of directories, files and symbolic links. Finding a path follows at most forty links, each
from the directory it stands in; a double dot leads to the directory that really holds the one
reached so far. A path that is not absolute is seen from a base.

* `lookup_of_isDir`: what counts as a directory is one.
-/

namespace Respawn

/-- What stands at a place of a tree. -/
inductive Node where
  | file (bytes : List UInt8)
  | dir (entries : List (String × Node))
  | link (target : String)
  deriving Repr

/-- Why a path leads nowhere, or to something unwanted. -/
inductive PathError where
  | missing
  | notDirectory
  | isDirectory
  | alreadyThere
  | nameTooLong
  | tooManyLinks
  deriving DecidableEq, Repr

namespace PathError

/-- The operating system's number for an error. -/
def number : PathError → Int
  | .missing => 2
  | .alreadyThere => 17
  | .notDirectory => 20
  | .isDirectory => 21
  | .nameTooLong => 36
  | .tooManyLinks => 40

/-- The operating system's text for an error. -/
def text : PathError → String
  | .missing => "No such file or directory"
  | .alreadyThere => "File exists"
  | .notDirectory => "Not a directory"
  | .isDirectory => "Is a directory"
  | .nameTooLong => "File name too long"
  | .tooManyLinks => "Too many levels of symbolic links"

end PathError

namespace Node

/-! ## 1. Places -/

/-- The node at a place, given by the names that lead there from the top. -/
def get? : Node → List String → Option Node
  | n, [] => some n
  | .dir entries, name :: rest => (Table.get? entries name).bind fun n => get? n rest
  | _, _ :: _ => none

/-- The node with another one put at a place, or taken away from there. The directory that holds the
    place has to be there. -/
def set : Node → List String → Option Node → Node
  | n, [], _ => n
  | .dir entries, [name], some new => .dir (Table.put entries name new)
  | .dir entries, [name], none => .dir (Table.erase entries name)
  | .dir entries, name :: rest, new =>
    match Table.get? entries name with
    | some n => .dir (Table.put entries name (set n rest new))
    | none => .dir entries
  | n, _ :: _, _ => n

def isDir : Node → Bool
  | .dir _ => true
  | _ => false

end Node

/-- A tree, given by what stands at its top. -/
structure FileTree where
  top : Node
  deriving Repr

namespace FileTree

def empty : FileTree := ⟨.dir []⟩

/-- The node at a place. -/
def get? (t : FileTree) (place : List String) : Option Node := t.top.get? place

/-- The tree with a node put at a place, or taken away from there. -/
def set (t : FileTree) (place : List String) (n : Option Node) : FileTree := ⟨t.top.set place n⟩

/-! ## 2. Finding a path -/

/-- The segments of a link's target; a slash at its end leaves an empty one. -/
def targetSegments (target : String) : List String :=
  let pieces := (Text.splitOn '/' target.toList)
  (pieces.filter (· ≠ [])).map String.ofList ++ if pieces.getLast? = some [] then [""] else []

/-- What a path is followed for: to find what stands there, be it a link; to find what it leads to;
    or to open the file that it leads to, which need not be there. -/
inductive Aim where
  | entry
  | target
  | opening
  deriving DecidableEq, Repr

/-- The longest name in bytes. -/
def nameLimit : Nat := 255

/-- The longest path in bytes. -/
def pathLimit : Nat := 4095

/-- How many links are followed on the way to a path. -/
def linkLimit : Nat := 40

/-- The place that the segments `todo` lead to from the place `here`. A name that is not there is
    accepted at the end only. A slash at the end asks for a directory, which cannot be opened. -/
def locateFrom (t : FileTree) (aim : Aim) (links : Nat) (here todo : List String) :
    Except PathError (List String) :=
  match todo with
  | [] => .ok here
  | name :: rest =>
    match t.get? here with
    | some (.dir entries) =>
      if name = "" ∨ name = "." then locateFrom t aim links here rest
      else if name = ".." then locateFrom t aim links here.dropLast rest
      else if aim = .opening ∧ rest = [""] then .error .isDirectory
      else if nameLimit < name.utf8ByteSize then .error .nameTooLong
      else
        match Table.get? entries name with
        | none => if rest.isEmpty then .ok (here ++ [name]) else .error .missing
        | some (.link target) =>
          if rest.isEmpty && aim = .entry then .ok (here ++ [name])
          else
            match links with
            | 0 => .error .tooManyLinks
            | links + 1 =>
              let start := if target.startsWith "/" then [] else here
              locateFrom t aim links start (targetSegments target ++ rest)
        | some _ => locateFrom t aim links (here ++ [name]) rest
    | some _ => .error .notDirectory
    | none => .error .missing
termination_by (links, todo.length)

/-- The place that a path leads to. Its length counts as it is given, without the base. -/
def locate (t : FileTree) (aim : Aim) (base p : Path) : Except PathError (List String) :=
  if pathLimit < p.text.utf8ByteSize then .error .nameTooLong
  else locateFrom t aim linkLimit [] (base.within p).parts

/-- What stands where a path leads as seen from `base`, links followed to their end. -/
def lookupFrom (t : FileTree) (base p : Path) : Except PathError Node :=
  match t.locate .target base p with
  | .error e => .error e
  | .ok place =>
    match t.get? place with
    | some n => .ok n
    | none => .error .missing

/-- What stands where an absolute path leads, links followed to their end. -/
def lookup (t : FileTree) (p : Path) : Except PathError Node := t.lookupFrom .top p

/-- Whether anything stands at a path, be it a link that leads nowhere. -/
def holds (t : FileTree) (p : Path) : Bool :=
  match t.locate .entry .top p with
  | .ok place => (t.get? place).isSome
  | .error _ => false

/-- Whether a path leads to something. -/
def reaches (t : FileTree) (p : Path) : Bool := (t.lookup p).toOption.isSome

/-- Whether a path leads to a directory. -/
def isDir (t : FileTree) (p : Path) : Bool := (t.lookup p).toOption.any Node.isDir

/-- The bytes of the file that a path leads to. -/
def bytes (t : FileTree) (p : Path) : Except PathError (List UInt8) :=
  match t.lookup p with
  | .ok (.file bytes) => .ok bytes
  | .ok (.dir _) => .error .isDirectory
  | .ok (.link _) => .error .missing
  | .error e => .error e

/-- The names in the directory that a path leads to. -/
def names (t : FileTree) (p : Path) : Except PathError (List String) :=
  match t.lookup p with
  | .ok (.dir entries) => .ok (Table.names entries)
  | .ok _ => .error .notDirectory
  | .error e => .error e

theorem lookup_of_isDir {t : FileTree} {p : Path} (h : t.isDir p = true) :
    ∃ entries, t.lookup p = .ok (.dir entries) := by
  unfold isDir at h
  cases hl : t.lookup p with
  | error e => simp [hl, Except.toOption] at h
  | ok n =>
    cases n with
    | dir entries => exact ⟨entries, rfl⟩
    | file _ => simp [hl, Except.toOption, Node.isDir] at h
    | link _ => simp [hl, Except.toOption, Node.isDir] at h

/-! ## 3. Changes -/

/-- The tree with the file at a path written anew: its bytes computed from the ones it had. -/
def write (t : FileTree) (p : Path) (change : List UInt8 → List UInt8) :
    Except PathError FileTree :=
  match t.locate .opening .top p with
  | .error e => .error e
  | .ok place =>
    match t.get? place with
    | some (.dir _) => .error .isDirectory
    | some (.file bytes) => .ok (t.set place (some (.file (change bytes))))
    | _ => .ok (t.set place (some (.file (change []))))

/-- The tree with a new directory at a path as seen from `base`. -/
def makeDir (t : FileTree) (base p : Path) : Except PathError FileTree :=
  match t.locate .entry base p with
  | .error e => .error e
  | .ok place =>
    match t.get? place with
    | some _ => .error .alreadyThere
    | none => .ok (t.set place (some (.dir [])))

/-- The tree as it is where a directory could not be made because of `e`, if there is one already. A
    path that cannot be followed for the length of a name is told as such. -/
def keepDir (t : FileTree) (base p : Path) (e : PathError) : Except (PathError × Path) FileTree :=
  match t.lookupFrom base p with
  | .ok (.dir _) => .ok t
  | .error .nameTooLong => .error (.nameTooLong, p)
  | _ => .error (e, p)

/-- The tree with a directory at a path as seen from `base`, and with those that it needs above it. A
    path that is a directory already is left as it is; a failure is told with the path it is about.
-/
def makeDirs (t : FileTree) (base p : Path) : Except (PathError × Path) FileTree :=
  match t.makeDir base p with
  | .ok t => .ok t
  | .error .missing =>
    if h : p.parts = [] then .error (.missing, p)
    else
      have : p.parent.parts.length < p.parts.length := by
        have := List.length_pos_iff.2 h
        simp [Path.parent]; omega
      match makeDirs t base p.parent with
      | .error e => .error e
      | .ok t =>
        match t.makeDir base p with
        | .ok t => .ok t
        | .error .missing => .error (.missing, p)
        | .error e => t.keepDir base p e
  | .error e => t.keepDir base p e
termination_by p.parts.length

/-- The tree with a link at a path. -/
def makeLink (t : FileTree) (p : Path) (target : String) : Except PathError FileTree :=
  match t.locate .entry .top p with
  | .error e => .error e
  | .ok place =>
    match t.get? place with
    | some _ => .error .alreadyThere
    | none => .ok (t.set place (some (.link target)))

/-- The tree without what stands at a path. -/
def remove (t : FileTree) (p : Path) : Except PathError FileTree :=
  match t.locate .entry .top p with
  | .error e => .error e
  | .ok place =>
    match t.get? place with
    | some _ => .ok (t.set place none)
    | none => .error .missing

end FileTree

end Respawn
