import Respawn.Settings.Conversion
import Respawn.Watch.Filter
import Respawn.Watch.Mailbox
import Respawn.Watch.WatchSet

/-!
# The watcher

The watcher owns an observer of the directories of its watch set and turns changes into numbered
triggers. At most one change is pending; a burst within the debounce window makes one trigger. An
observer that died is replaced before the next wait, and a change is assumed to have been missed.

* `start_missing`: a path that is not there keeps the watcher from starting;
* `stop_unobserved`: without an observer a stop does no more than to mark the watcher as stopped;
* `next_of_stopped`: a stopped watcher gives no trigger and waits for nothing.
-/

namespace Respawn.Watch

def logger : String := "devloop.watcher.observer"

/-- The watcher's own part: what it watches, how long it waits for a burst to end, the observer that
    it holds, and the number of the last trigger. -/
structure Watcher (T O : Type) where
  paths : List Path
  pattern : Option String
  debounce : T
  observer : Option O
  seq : Nat
  deriving Repr

/-- What the watcher needs of its surroundings. Observers are built, given directories to watch,
    started, stopped and joined. Others may act while it waits for a change or lets a burst land, and
    between any two of its steps: they may bring changes, and they may stop or start the watcher
    itself. The answer of `pause` tells whether the watcher was stopped while the burst landed.
    `others` is their turn where the watcher itself asks for nothing. -/
structure Host (T O σ : Type) where
  present : Path → Action σ Bool
  build : Action σ O
  schedule : O → Filter → Path → Action σ Unit
  start : O → Action σ Unit
  stop : O → Action σ Unit
  alive : O → Action σ Bool
  join : O → Nat → Action σ Unit
  await : Option T → Action (Watcher T O × σ) Unit
  pause : T → Action (Watcher T O × σ) Bool
  others : Action (Watcher T O × σ) Unit

/-- A numbered sign that something changed. -/
structure Trigger where
  seq : Nat
  deriving DecidableEq, Repr

namespace Watcher

variable {T O σ : Type} [Mailboxed σ] [Log.Logbook σ]

/-! ## 1. Making a watcher -/

/-- A watcher for paths as they are given. -/
def ofPaths (cwd : Path) (paths : List Path) (pattern : Option String) (debounce : T) :
    Except Fault (Watcher T O) :=
  match paths with
  | [] => .error (.cannotWatch (pattern.getD "") "watch set is empty")
  | paths => .ok ⟨paths.map cwd.absolute, pattern, debounce, none, 0⟩

def resolvedRecord (count : Nat) (pattern : String) (base : Path) : Log.Record :=
  ⟨.info, logger, s!"Watching {count} path(s) matching '{pattern}' in {base}"⟩

/-- A watcher for what a pattern lists. -/
def ofPattern (cwd : Path) (t : FileTree) (pattern : Value) (base : Path) (debounce : T)
    (mayRead : Path → Bool := fun _ => true) : Action σ (Watcher T O) := do
  let spelled ← .ofExcept (Settings.toPath pattern)
  let paths ← .ofExcept (WatchSet.resolve cwd t base spelled mayRead)
  .modify (Log.Logbook.note (resolvedRecord paths.length pattern.shown base))
  .ofExcept (ofPaths cwd paths (some (WatchSet.anchored cwd base spelled).text) debounce)

def filter (cwd : Path) (w : Watcher T O) : Filter := .ofPaths cwd w.paths w.pattern

/-- The directories that hold the watch set, each once, in the order of their texts. -/
def directories (w : Watcher T O) : List Path :=
  ((w.paths.map Path.parent).eraseDups).mergeSort Glob.textLe

def directoryTexts (w : Watcher T O) : List String := w.directories.map Path.text

/-! ## 2. The observer -/

def own : Action (Watcher T O × σ) (Watcher T O) := .read Prod.fst

def change (f : Watcher T O → Watcher T O) : Action (Watcher T O × σ) Unit :=
  .modify fun s => (f s.1, s.2)

def mailbox : Action σ Mailbox := .read Mailboxed.mailbox

def mail (f : Mailbox → Mailbox) : Action σ Unit := .modify (Mailboxed.update f)

/-- A new observer for all directories of the watch set. -/
def observe (h : Host T O σ) (cwd : Path) (w : Watcher T O) : Action σ O := do
  let o ← h.build
  Action.each (h.schedule o (w.filter cwd)) w.directories
  pure o

/-- The first path of the watch set that is not there. -/
def firstMissing (h : Host T O σ) : List Path → Action σ (Option Path)
  | [] => pure none
  | p :: rest => do
    if ← h.present p then firstMissing h rest else pure (some p)

/-- A new observer that has been started. What the system refuses is a complaint about the
    directories. -/
def beginObserving (h : Host T O σ) (cwd : Path) (w : Watcher T O) : Action σ O :=
  (do
    let o ← observe h cwd w
    h.start o
    pure o : Action σ O).recover fun
  | .os e => some (.raise (.cannotWatch (", ".intercalate w.directoryTexts) e.message))
  | _ => none

/-- Starts observing. -/
def start (h : Host T O σ) (cwd : Path) : Action (Watcher T O × σ) Unit := do
  let w ← own
  match ← (firstMissing h w.paths).inner with
  | some p => .raise (.cannotWatch p.text WatchSet.absentReason)
  | none =>
    mail Mailbox.resume
    let o ← (beginObserving h cwd w).inner
    change fun w => { w with observer := some o }
    .log .debug logger
      ("Observer started for " ++ (Value.list (w.directoryTexts.map .text)).quotedText)

/-- How many seconds an observer is given to end. -/
def joinLimit : Nat := 5

/-- Stops observing and waits for the observer to end. -/
def stop (h : Host T O σ) : Action (Watcher T O × σ) Unit := do
  mail Mailbox.stop
  match (← own).observer with
  | none => pure ()
  | some o =>
    (h.stop o).inner
    if ← (h.alive o).inner then (h.join o joinLimit).inner
    change fun w => { w with observer := none }
    .log .debug logger "Observer stopped."

/-- Replaces an observer that died. -/
def replace (h : Host T O σ) (cwd : Path) (dead : O) : Action (Watcher T O × σ) Unit := do
  .log .error logger
    "Watchdog observer thread has stopped unexpectedly. Restarting observer."
  (h.stop dead).inner
  let w ← own
  let o ← (observe h cwd w).inner
  change fun w => { w with observer := some o }
  (h.start o).inner
  .log .info logger "Observer restarted."
  mail (.post (w.directoryTexts.headD ""))

/-- Sees to it that the observer lives, unless there is none or the watcher was stopped. -/
def ensureAlive (h : Host T O σ) (cwd : Path) : Action (Watcher T O × σ) Unit := do
  match (← own).observer with
  | none => pure ()
  | some o =>
    if (← mailbox).stopped then pure ()
    else if ← (h.alive o).inner then pure ()
    else replace h cwd o

/-! ## 3. Triggers -/

def triggerRecord (path : String) (seq : Nat) : Log.Record :=
  ⟨.info, logger, s!"Change detected in {path} (trigger #{seq})."⟩

/-- The trigger for a change, with everything that is pending forgotten. -/
def fire (h : Host T O σ) (path : String) : Action (Watcher T O × σ) (Option Trigger) := do
  mail Mailbox.drain
  h.others
  change fun w => { w with seq := w.seq + 1 }
  let w ← own
  .modify (Log.Logbook.note (triggerRecord path w.seq))
  pure (some ⟨w.seq⟩)

/-- Takes out of the mailbox what is pending. -/
def take (h : Host T O σ) : Action (Watcher T O × σ) (Option String) := do
  let found := (← mailbox).pending
  mail Mailbox.drain
  h.others
  pure found

variable [LT T] [DecidableLT T] [Zero T]

/-- Waits for a change for at most the given time, and takes it. -/
def collect (h : Host T O σ) (cwd : Path) (timeout : Option T) :
    Action (Watcher T O × σ) (Option String) := do
  ensureAlive h cwd
  if timeout.any (· < 0) then .raise .negativeTimeout
  else
    h.await timeout
    take h

/-- Lets a burst land. The answer tells whether the watcher was stopped meanwhile. -/
def settle (h : Host T O σ) : Action (Watcher T O × σ) Bool := do
  let w ← own
  if 0 < w.debounce then h.pause w.debounce else pure false

/-- Waits for a change for at most the given time, and for the burst it belongs to. -/
def wait (h : Host T O σ) (cwd : Path) (timeout : Option T) :
    Action (Watcher T O × σ) (Option Trigger) := do
  match ← collect h cwd timeout with
  | none => pure none
  | some path => if ← settle h then pure none else fire h path

/-- The next trigger, or none once the watcher is stopped. At most `patience` waits are made. -/
def next (h : Host T O σ) (cwd : Path) (poll : T) :
    Nat → Action (Watcher T O × σ) (Option Trigger)
  | 0 => .exhausted
  | patience + 1 => do
    if (← mailbox).stopped then pure none
    else
      match ← wait h cwd (some poll) with
      | some trigger => pure (some trigger)
      | none => next h cwd poll patience

/-! ## 4. Rules -/

omit [LT T] [DecidableLT T] [Zero T] in
/-- A path that is not there keeps the watcher from starting. -/
theorem start_missing (h : Host T O σ) (cwd : Path) {w : Watcher T O} {s t : σ} {p : Path}
    (hm : firstMissing h w.paths s = (.done (some p), t)) :
    start h cwd (w, s) = (.raised (.cannotWatch p.text WatchSet.absentReason), w, t) := by
  simp [start, own, Action.after, hm]

omit [LT T] [DecidableLT T] [Zero T] in
/-- Without an observer a stop does no more than to mark the watcher as stopped. -/
theorem stop_unobserved (h : Host T O σ) {w : Watcher T O} (hw : w.observer = none)
    (s : σ) : stop h (w, s) = (.done (), w, Mailboxed.update Mailbox.stop s) := by
  simp [stop, own, mail, Action.after, hw, Mailboxed.update]

/-- A stopped watcher gives no trigger and waits for nothing. -/
theorem next_of_stopped (h : Host T O σ) (cwd : Path) (poll : T) (patience : Nat)
    {s : Watcher T O × σ} (hs : (Mailboxed.mailbox s).stopped = true) :
    next h cwd poll (patience + 1) s = (.done none, s) := by
  simp [next, mailbox, Action.after, hs]

end Watcher

end Respawn.Watch
