import Respawn.Action
import Respawn.Glob.Wildcard
import Respawn.Text.Utf8

/-!
# The event filter

An event of the file system counts if something was written, made, removed or moved, and if the path
it is about, or else the path it moved to, is watched. Paths are judged by their absolute and
collapsed form, however an event spells them.

* `handle_eq`: an event hands on the path it reports, and nothing else;
* `report_of_irrelevant`: other events report nothing;
* `report_eq_source`: a watched source is reported, whatever the destination;
* `report_congr`: events that are about the same paths are judged alike.
-/

namespace Respawn.Watch

def filterLogger : String := "devloop.watcher.handler"

/-- What an event says has happened. -/
inductive EventKind where
  | modified | created | deleted | moved | opened | closed | closedUnwritten | attributes
  deriving DecidableEq, Repr

def EventKind.word : EventKind → String
  | .modified => "modified"
  | .created => "created"
  | .deleted => "deleted"
  | .moved => "moved"
  | .opened => "opened"
  | .closed => "closed"
  | .closedUnwritten => "closed_no_write"
  | .attributes => "attrib"

/-- Whether something changed. -/
def EventKind.isChange : EventKind → Bool
  | .modified | .created | .deleted | .moved => true
  | _ => false

/-- A path as an event spells it: as text or as bytes. -/
inductive Spelling where
  | text (s : String)
  | bytes (bs : List UInt8)
  deriving DecidableEq, Repr

/-- The text of a spelling. Bytes that form no character are told apart from every other text. -/
def Spelling.toText : Spelling → String
  | .text s => s
  | .bytes bs => String.ofList (Text.Utf8.lossless bs)

/-- The absolute path that a spelling denotes. -/
def Spelling.denotes (cwd : Path) (s : Spelling) : Path := cwd.absolute (Path.ofText s.toText)

/-- Whether a spelling says nothing. -/
def Spelling.isEmpty : Spelling → Bool
  | .text s => s.isEmpty
  | .bytes bs => bs.isEmpty

/-- An event of the file system; only a moved file has a destination. -/
structure Event where
  kind : EventKind
  source : Spelling
  destination : Option Spelling
  deriving DecidableEq, Repr

/-- Where what an event is about has gone. An event without a destination may also have an empty
    one. -/
def Event.goal (e : Event) : Option Spelling := e.destination.filter fun d => !d.isEmpty

/-- What is watched: the paths of the watch set, and whatever matches its pattern. -/
structure Filter where
  paths : List String
  pattern : Option String
  deriving DecidableEq, Repr

namespace Filter

/-- The filter for paths as they are given. -/
def ofPaths (cwd : Path) (paths : List Path) (pattern : Option String) : Filter :=
  ⟨(paths.map fun p => (cwd.absolute p).text).eraseDups, pattern⟩

/-- An empty pattern matches nothing. -/
def matchesPattern (f : Filter) (path : String) : Bool :=
  match f.pattern with
  | some pattern => pattern ≠ "" && Glob.fits pattern path
  | none => false

def isWatched (f : Filter) (path : String) : Bool :=
  f.paths.contains path || f.matchesPattern path

/-- The paths that an event is about: its source, and its destination if it has one. -/
def candidates (cwd : Path) (e : Event) : List String :=
  (e.source.denotes cwd).text :: (e.goal.map fun d => (d.denotes cwd).text).toList

/-- The path that an event reports as changed. -/
def report (f : Filter) (cwd : Path) (e : Event) : Option String :=
  if e.kind.isChange then (candidates cwd e).find? f.isWatched else none

def eventRecord (e : Event) (path : String) : Log.Record :=
  ⟨.debug, filterLogger, s!"Watchdog event: {e.kind.word} on {path}"⟩

section Handling

variable {σ : Type} [Log.Logbook σ] (onChange : String → Action σ Unit)

/-- Logs an event and hands on the path it reports. -/
def tell (e : Event) (path : String) : Action σ Unit := do
  .modify (Log.Logbook.note (eventRecord e path))
  onChange path

/-- Hands on the first of these paths that is watched. -/
def handOn (f : Filter) (e : Event) : List String → Action σ Unit
  | [] => pure ()
  | path :: rest => if f.isWatched path then tell onChange e path else handOn f e rest

/-- What an event sets off. -/
def handle (f : Filter) (cwd : Path) (e : Event) : Action σ Unit :=
  if e.kind.isChange then handOn onChange f e (candidates cwd e) else pure ()

theorem handOn_eq (f : Filter) (e : Event) (paths : List String) :
    handOn onChange f e paths = (paths.find? f.isWatched).elim (pure ()) (tell onChange e) := by
  induction paths with
  | nil => rfl
  | cons path rest ih =>
    rw [handOn, List.find?_cons]
    cases f.isWatched path with
    | true => rfl
    | false => exact ih

/-- **An event hands on the path it reports, once, and nothing else.** -/
theorem handle_eq (f : Filter) (cwd : Path) (e : Event) :
    handle onChange f cwd e = (f.report cwd e).elim (pure ()) (tell onChange e) := by
  unfold handle report
  split
  · exact handOn_eq onChange f e _
  · rfl

end Handling

theorem report_of_irrelevant {e : Event} (h : e.kind.isChange = false) (f : Filter) (cwd : Path) :
    f.report cwd e = none := by simp [report, h]

/-- A watched source is reported, whatever the destination. -/
theorem report_eq_source {e : Event} {f : Filter} {cwd : Path} (h : e.kind.isChange = true)
    (hw : f.isWatched (e.source.denotes cwd).text = true) :
    f.report cwd e = some (e.source.denotes cwd).text := by simp [report, h, candidates, hw]

/-- **Events that are about the same paths are judged alike.** -/
theorem report_congr {e e' : Event} {cwd : Path} (hk : e.kind = e'.kind)
    (hs : e.source.denotes cwd = e'.source.denotes cwd)
    (hd : e.goal.map (·.denotes cwd) = e'.goal.map (·.denotes cwd)) (f : Filter) :
    f.report cwd e = f.report cwd e' := by
  have hc : candidates cwd e = candidates cwd e' := by
    have : (e.goal.map fun d => (d.denotes cwd).text) =
        e'.goal.map fun d => (d.denotes cwd).text := by
      have := congrArg (Option.map Path.text) hd
      simpa [Option.map_map, Function.comp_def] using this
    simp [candidates, hs, this]
  simp [report, hk, hc]

end Filter

end Respawn.Watch
