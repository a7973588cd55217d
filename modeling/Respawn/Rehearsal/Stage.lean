import Respawn.Log.Journal
import Respawn.Rehearsal.Fleet
import Respawn.Rehearsal.Troupe
import Respawn.Supervisor

/-!
# The stage

The stage is everything the program meets in a rehearsal: the log and the file tree, the mailbox, the
shutdown flag, the processes and the observers. The steps still to come are laid down on it: those of
the script, and those for the next time a burst is let land.

* `journal_note`, `records_note`: a record goes to the journal, and to the list of all records;
* `mailbox_post`: a change that is brought is in the mailbox.
-/

namespace Respawn.Rehearsal

/-- What the program meets. Steps are of type `D`. -/
structure Stage (D : Type) where
  cwd : Path
  journal : Log.Journal
  records : List Log.Record
  mailbox : Watch.Mailbox
  asked : Bool
  troupe : Troupe
  fleet : Fleet
  script : List D
  during : List D
  titles : List String
  deriving Repr

namespace Stage

variable {D α : Type}

/-- A stage on which nothing has happened yet. -/
def opening (cwd : Path) (journal : Log.Journal) (troupe : Troupe) (fleet : Fleet)
    (script : List D) : Stage D :=
  ⟨cwd, journal, [], .empty, false, troupe, fleet, script, [], []⟩

def tree (s : Stage D) : FileTree := s.journal.files

/-! ## 1. Parts of the stage -/

instance : Log.Logbook (Stage D) where
  note r s := { s with journal := s.journal.emit r, records := s.records ++ [r] }

instance : Watch.Mailboxed (Stage D) where
  mailbox := mailbox
  update f s := { s with mailbox := f s.mailbox }
  mailbox_update _ _ := rfl

instance : Stoppable (Stage D) where
  asked := asked
  ask s := { s with asked := true }
  asked_ask _ := rfl

/-- An action of the journal. What is logged on the way is not among the records of the stage. -/
def onJournal (x : Action Log.Journal α) : Action (Stage D) α := fun s =>
  ((x s.journal).1, { s with journal := (x s.journal).2 })

/-- An action of the troupe. -/
def onTroupe (x : Action Troupe α) : Action (Stage D) α := fun s =>
  ((x s.troupe).1, { s with troupe := (x s.troupe).2 })

/-- An action of the fleet. -/
def onFleet (x : Action Fleet α) : Action (Stage D) α := fun s =>
  ((x s.fleet).1, { s with fleet := (x s.fleet).2 })

theorem journal_note (r : Log.Record) (s : Stage D) :
    (Log.Logbook.note r s).journal = s.journal.emit r := rfl

theorem records_note (r : Log.Record) (s : Stage D) :
    (Log.Logbook.note r s).records = s.records ++ [r] := rfl

/-! ## 2. Processes -/

/-- The operating system of a rehearsal. Readers run to their end at once. -/
def processes : Child.Host Seconds (Stage D) where
  spawn s := onTroupe (Troupe.spawn s)
  find pid := onTroupe (Troupe.find pid)
  terminate pid := onTroupe (Troupe.terminate pid)
  kill pid := onTroupe (Troupe.kill pid)
  descendants pid := onTroupe (Troupe.descendants pid)
  status pid := onTroupe (Troupe.status pid)
  waitAll pids time := onTroupe (Troupe.waitAll pids time)
  now := .read fun s => s.troupe.clock
  reap pid time := onTroupe (Troupe.reap pid time)
  poll pid := onTroupe (Troupe.poll pid)
  pipe pid channel := do
    let bytes ← onTroupe (Troupe.printed pid channel)
    pure (some (.ofBytes bytes none))
  closePipe _ _ := onTroupe (Troupe.note .pipeClosed)
  inBackground name act := do
    onTroupe (Troupe.note (.reading name))
    act

/-! ## 3. Observers -/

/-- The observers of a rehearsal, with what happens while the watcher waits for a change and while it
    lets a burst land. A stop counts as one in that time if the watcher is stopped at its end. -/
def observers (await : Option Seconds → Action (Watch.Watcher Seconds Nat × Stage D) Unit)
    (pause : Action (Watch.Watcher Seconds Nat × Stage D) Unit) :
    Watch.Host Seconds Nat (Stage D) where
  present p := .read fun s => s.tree.reaches (s.cwd.within p)
  build := onFleet Fleet.build
  schedule o filter directory := onFleet (Fleet.schedule o filter directory)
  start o := onFleet (Fleet.start o)
  stop o := onFleet (Fleet.stop o)
  alive o := onFleet (Fleet.alive o)
  join o limit := onFleet (Fleet.join o limit)
  await := await
  pause time := do
    (onFleet (Fleet.note (.debounced time))).inner
    pause
    .read fun y => (Watch.Mailboxed.mailbox y).stopped
  others := pure ()

/-- A change that is brought to the watcher. -/
def bring (path : String) : Action (Stage D) Unit := .modify (Watch.Mailboxed.update (.post path))

/-- An event that the current observer hands on. The answer tells whether there was one alive. -/
def deliver (e : Watch.Event) : Action (Stage D) Bool := do
  let s ← .read id
  match s.fleet.receiver with
  | none => pure false
  | some filter =>
    filter.handle bring s.cwd e
    pure true

theorem mailbox_post (path : String) (s : Stage D) :
    (bring path s).2.mailbox = s.mailbox.post path := rfl

/-! ## 4. Files -/

/-- What can be put at a path. -/
inductive Entry where
  | file (bytes : List UInt8)
  | directory
  | link (target : String)
  deriving DecidableEq, Repr

/-- The tree with something put at a path, and the directories it needs. Where that is not possible
    the tree stays as it is. -/
def placed (cwd : Path) (t : FileTree) (p : Path) (e : Entry) : FileTree :=
  let full := cwd.within p
  let made : Option FileTree :=
    match e with
    | .directory => (t.makeDirs cwd full).toOption
    | .file bytes => (t.makeDirs cwd full.parent).toOption.bind fun t =>
        (t.write full fun _ => bytes).toOption
    | .link target => (t.makeDirs cwd full.parent).toOption.bind fun t =>
        (t.makeLink full target).toOption
  made.getD t

def change (f : FileTree → FileTree) : Action (Stage D) Unit :=
  .modify fun s => { s with journal := { s.journal with files := f s.journal.files } }

/-- Puts something at a path. -/
def put (p : Path) (e : Entry) : Action (Stage D) Unit := do
  let s ← .read id
  change fun t => placed s.cwd t p e

/-- Takes away what stands at a path. -/
def remove (p : Path) : Action (Stage D) Unit := do
  let s ← .read id
  match s.tree.remove (s.cwd.within p) with
  | .ok t => change fun _ => t
  | .error e => .raise (.os ⟨some e.number, e.text, some p.text⟩)

end Stage

end Respawn.Rehearsal
