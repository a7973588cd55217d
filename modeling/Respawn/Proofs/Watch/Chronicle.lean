import Mathlib.Data.List.DropRight
import Respawn.Proofs.Watch.Observing

/-!
# The chronicle of a mailbox

The mailbox shows what is pending now. The chronicle tells how that came about: which changes were
recorded, when the mailbox was emptied, what was logged. The watcher is the only one who empties the
mailbox, while others record changes, write to the log, and stop and start the watcher at any time.

* `came_of_unanswered`: what is unanswered has come since the mailbox was last emptied;
* `SoleTaker`: a host that leaves the mailbox and the counting to the watcher;
* `Stirs.orderly`: what is pending is the earliest change that is unanswered;
* `start_drifts`, `stop_drifts`, `ensureAlive_drifts`, `settle_drifts`: these empty nothing.
-/

namespace Respawn.Watch

open Respawn.Action (Drifts Ends)
open Relation (ReflTransGen)

/-! ## 1. Marks -/

/-- What the chronicle tells. -/
inductive Mark where
  | came (path : String)
  | emptied
  | said (r : Log.Record)
  deriving DecidableEq, Repr

/-- The path of a change. -/
def Mark.path? : Mark → Option String
  | .came p => some p
  | _ => none

/-- The changes since the mailbox was last emptied, in the order in which they came. -/
def unanswered (marks : List Mark) : List String :=
  (marks.rtakeWhile fun m => m ≠ .emptied).filterMap Mark.path?

@[simp] theorem unanswered_came (marks : List Mark) (p : String) :
    unanswered (marks ++ [.came p]) = unanswered marks ++ [p] := by
  simp [unanswered, Mark.path?]

@[simp] theorem unanswered_emptied (marks : List Mark) : unanswered (marks ++ [.emptied]) = [] := by
  simp [unanswered]

@[simp] theorem unanswered_said (marks : List Mark) (r : Log.Record) :
    unanswered (marks ++ [.said r]) = unanswered marks := by
  simp [unanswered, Mark.path?]

/-- What is unanswered has come since the mailbox was emptied. -/
theorem came_of_unanswered {marks since : List Mark} {p : String}
    (h : p ∈ unanswered (marks ++ .emptied :: since)) : .came p ∈ since := by
  -- from the last mark backwards, as what is unanswered is read from there
  induction since using List.reverseRecOn with
  | nil => simp at h
  | append_singleton since m ih =>
    rw [← List.cons_append, ← List.append_assoc] at h
    cases m with
    | came q =>
      rw [unanswered_came, List.mem_append, List.mem_singleton] at h
      rcases h with earlier | rfl
      · exact List.mem_append_left _ (ih earlier)
      · exact List.mem_append_right _ (List.mem_singleton_self _)
    | emptied =>
      rw [unanswered_emptied] at h
      cases h
    | said r =>
      rw [unanswered_said] at h
      exact List.mem_append_left _ (ih h)

/-! ## 2. Desks -/

/-- A mailbox with its chronicle. -/
structure Desk where
  mailbox : Mailbox
  marks : List Mark
  deriving DecidableEq, Repr

/-- What the chronicle tells of an update of the mailbox. A change that arrives is pending where
    nothing else was, and nothing stays pending where the mailbox is emptied. Where nothing was
    pending the emptying is told of as well; it makes no difference, as nothing was unanswered. -/
def noted (f : Mailbox → Mailbox) : List Mark :=
  match (f .empty).pending with
  | some p => [.came p]
  | none => if (f (.post "" .empty)).pending = none then [.emptied] else []

namespace Desk

def mail (f : Mailbox → Mailbox) (d : Desk) : Desk := ⟨f d.mailbox, d.marks ++ noted f⟩

def say (r : Log.Record) (d : Desk) : Desk := { d with marks := d.marks ++ [.said r] }

variable (d : Desk)

@[simp] theorem marks_post (p : String) : (d.mail (.post p)).marks = d.marks ++ [.came p] := rfl

@[simp] theorem marks_drain : (d.mail .drain).marks = d.marks ++ [.emptied] := rfl

@[simp] theorem marks_stop : (d.mail .stop).marks = d.marks := List.append_nil _

@[simp] theorem marks_resume : (d.mail .resume).marks = d.marks := List.append_nil _

@[simp] theorem marks_say (r : Log.Record) : (d.say r).marks = d.marks ++ [.said r] := rfl

end Desk

/-- What others do: they record a change for an event that the filter reports, they write to the log,
    they stop the watcher or start it. -/
inductive Elsewhere (cwd : Path) (f : Filter) : Desk → Desk → Prop
  | reported {d e p} (report : f.report cwd e = some p) : Elsewhere cwd f d (d.mail (.post p))
  | said {d} (r : Log.Record) : Elsewhere cwd f d (d.say r)
  | stopped {d} : Elsewhere cwd f d (d.mail .stop)
  | resumed {d} : Elsewhere cwd f d (d.mail .resume)

variable {T O σ : Type}

/-- What happens to a watcher and its desk without anything being taken: others act, a change is
    recorded because an observer was replaced, or another observer is held. -/
inductive Stirs (cwd : Path) (f : Filter) : Watcher T O × Desk → Watcher T O × Desk → Prop
  | elsewhere {w d d'} (h : Elsewhere cwd f d d') : Stirs cwd f (w, d) (w, d')
  | replaced {w d} : Stirs cwd f (w, d) (w, d.mail (.post (w.directoryTexts.headD "")))
  | held {w d} (o : Option O) : Stirs cwd f (w, d) ({ w with observer := o }, d)

/-! ## 3. What stirring keeps -/

/-- A change that the chronicle may tell of: an event that is reported, or an observer that was
    replaced, which stands for the first directory. -/
def Recorded (cwd : Path) (f : Filter) (w : Watcher T O) (path : String) : Prop :=
  (∃ e, f.report cwd e = some path) ∨ path = w.directoryTexts.headD ""

/-- What is pending is the earliest change since the mailbox was last emptied. -/
structure Orderly (cwd : Path) (f : Filter) (x : Watcher T O × Desk) : Prop where
  pending : x.2.mailbox.pending = (unanswered x.2.marks).head?
  recorded : ∀ p, .came p ∈ x.2.marks → Recorded cwd f x.1 p

/-- The watcher may hold another observer, and nothing else of it has changed. -/
def Watcher.AsBefore (w w' : Watcher T O) : Prop := w' = { w with observer := w'.observer }

/-- Nothing was taken. -/
structure Untaken (x y : Watcher T O × Desk) : Prop where
  same : x.1.AsBefore y.1
  grown : ∃ new, .emptied ∉ new ∧ y.2.marks = x.2.marks ++ new

section Stirring

variable {cwd : Path} {f : Filter} {x y z : Watcher T O × Desk}

theorem Watcher.AsBefore.trans {w w' w'' : Watcher T O} (h : w.AsBefore w') (h' : w'.AsBefore w'') :
    w.AsBefore w'' := by
  unfold AsBefore at *
  rw [h', h]

theorem Watcher.AsBefore.seq {w w' : Watcher T O} (h : w.AsBefore w') : w'.seq = w.seq := by
  rw [h]

theorem Watcher.AsBefore.directoryTexts {w w' : Watcher T O} (h : w.AsBefore w') :
    w'.directoryTexts = w.directoryTexts := by
  rw [h]
  rfl

theorem Untaken.refl (x : Watcher T O × Desk) : Untaken x x :=
  ⟨rfl, [], List.not_mem_nil, (List.append_nil _).symm⟩

theorem Untaken.trans (h : Untaken x y) (h' : Untaken y z) : Untaken x z := by
  obtain ⟨new, kept, grown⟩ := h.grown
  obtain ⟨new', kept', grown'⟩ := h'.grown
  refine ⟨h.same.trans h'.same, new ++ new', ?_, ?_⟩
  · rw [List.mem_append, not_or]
    exact ⟨kept, kept'⟩
  · rw [grown', grown, List.append_assoc]

theorem Orderly.recorded_snoc {w : Watcher T O} {d : Desk} (o : Orderly cwd f (w, d)) {m : Mark}
    (last : ∀ p, m = .came p → Recorded cwd f w p) (p : String) (h : .came p ∈ d.marks ++ [m]) :
    Recorded cwd f w p := by
  rw [List.mem_append, List.mem_singleton] at h
  rcases h with earlier | same
  · exact o.recorded p earlier
  · exact last p same.symm

/-- A change that comes is pending, or else the one that was pending stays the earliest. -/
theorem Orderly.post {w : Watcher T O} {d : Desk} (o : Orderly cwd f (w, d)) {p : String}
    (recorded : Recorded cwd f w p) : Orderly cwd f (w, d.mail (.post p)) where
  pending := by
    have before : d.mailbox.pending = (unanswered d.marks).head? := o.pending
    show (d.mailbox.pending.or (some p)) = (unanswered (d.mail (.post p)).marks).head?
    rw [Desk.marks_post, unanswered_came, List.head?_append, before]
    rfl
  recorded := o.recorded_snoc fun _ same => by
    cases same
    exact recorded

theorem Orderly.drain {w : Watcher T O} {d : Desk} (o : Orderly cwd f (w, d)) :
    Orderly cwd f (w, d.mail .drain) where
  pending := by
    show none = (unanswered (d.mail .drain).marks).head?
    rw [Desk.marks_drain, unanswered_emptied]
    rfl
  recorded := o.recorded_snoc fun _ same => by cases same

theorem Orderly.say {w : Watcher T O} {d : Desk} (o : Orderly cwd f (w, d)) (r : Log.Record) :
    Orderly cwd f (w, d.say r) where
  pending := by
    rw [Desk.marks_say, unanswered_said]
    exact o.pending
  recorded := o.recorded_snoc fun _ same => by cases same

/-- The stop flag is no part of the chronicle. -/
theorem Orderly.of_marks {w : Watcher T O} {d d' : Desk} (o : Orderly cwd f (w, d))
    (pending : d'.mailbox.pending = d.mailbox.pending) (marks : d'.marks = d.marks) :
    Orderly cwd f (w, d') where
  pending := by
    show d'.mailbox.pending = (unanswered d'.marks).head?
    rw [pending, marks]
    exact o.pending
  recorded := by
    show ∀ p, .came p ∈ d'.marks → Recorded cwd f w p
    rw [marks]
    exact o.recorded

theorem Stirs.orderly (h : Stirs cwd f x y) (o : Orderly cwd f x) : Orderly cwd f y := by
  cases h with
  | elsewhere h =>
    cases h with
    | reported report => exact o.post (.inl ⟨_, report⟩)
    | said r => exact o.say r
    | stopped => exact o.of_marks rfl (Desk.marks_stop _)
    | resumed => exact o.of_marks rfl (Desk.marks_resume _)
  | replaced => exact o.post (.inr rfl)
  | held _ => exact ⟨o.pending, o.recorded⟩

theorem Stirs.untaken (h : Stirs cwd f x y) : Untaken x y := by
  cases h with
  | elsewhere h =>
    cases h with
    | reported _ => exact ⟨rfl, _, by simp, Desk.marks_post ..⟩
    | said r => exact ⟨rfl, _, by simp, Desk.marks_say ..⟩
    | stopped => exact ⟨rfl, [], by simp, by simp⟩
    | resumed => exact ⟨rfl, [], by simp, by simp⟩
  | replaced => exact ⟨rfl, _, by simp, Desk.marks_post ..⟩
  | held _ => exact ⟨rfl, [], by simp, by simp⟩

theorem orderly_of_stirs (h : ReflTransGen (Stirs cwd f) x y) (o : Orderly cwd f x) :
    Orderly cwd f y := by
  induction h with
  | refl => exact o
  | tail _ h ih => exact h.orderly ih

theorem untaken_of_stirs (h : ReflTransGen (Stirs cwd f) x y) : Untaken x y := by
  induction h with
  | refl => exact .refl x
  | tail _ h ih => exact ih.trans h.untaken

end Stirring

/-! ## 4. Hosts that take nothing -/

variable [Mailboxed σ] [Log.Logbook σ]

/-- What can be seen of a watcher with its surroundings. -/
def seen (view : σ → Desk) (y : Watcher T O × σ) : Watcher T O × Desk := (y.1, view y.2)

/-- A host that leaves it to the watcher to empty the mailbox and to count. Others act during every
    request, and a request may fail at any time; the others never fail the watcher by themselves. -/
structure SoleTaker (h : Host T O σ) (cwd : Path) (f : Filter) (view : σ → Desk) : Prop where
  mailbox (s) : (view s).mailbox = Mailboxed.mailbox s
  update (g s) : view (Mailboxed.update g s) = (view s).mail g
  note (r s) : view (Log.Logbook.note r s) = (view s).say r
  present (p) : Drifts (Elsewhere cwd f) view (h.present p)
  build : Drifts (Elsewhere cwd f) view h.build
  schedule (o g d) : Drifts (Elsewhere cwd f) view (h.schedule o g d)
  start (o) : Drifts (Elsewhere cwd f) view (h.start o)
  stop (o) : Drifts (Elsewhere cwd f) view (h.stop o)
  alive (o) : Drifts (Elsewhere cwd f) view (h.alive o)
  join (o limit) : Drifts (Elsewhere cwd f) view (h.join o limit)
  await (timeout) : Drifts (Stirs cwd f) (seen view) (h.await timeout)
  pause (time) : Drifts (Stirs cwd f) (seen view) (h.pause time)
  others : Drifts (Stirs cwd f) (seen view) h.others
  others_done (y) : (h.others y).1 = .done ()

namespace Watcher

variable {h : Host T O σ} {cwd : Path} {f : Filter} {view : σ → Desk}

omit [Mailboxed σ] [Log.Logbook σ] in
/-- A desk and its observer that sway do so without anything being taken. -/
theorem sways_drifts {α : Type} {x : Action (Watcher T O × σ) α}
    (hx : Drifts (Sways (Elsewhere cwd f)) (beside view) x) :
    Drifts (Stirs cwd f) (seen view) x := hx.mono fun _ _ sways => by
  cases sways with
  | near h => exact .elsewhere h
  | held o => exact .held o

omit [Mailboxed σ] [Log.Logbook σ] in
/-- What others do to a desk they do to it beside its watcher. -/
theorem inner_drifts {α : Type} {x : Action σ α} (hx : Drifts (Elsewhere cwd f) view x) :
    Drifts (Stirs cwd f) (seen view) (x.inner : Action (Watcher T O × σ) α) :=
  sways_drifts (inner_sways hx)

section Sole

variable (sole : SoleTaker h cwd f view)
include sole

theorem tends_of_sole : Tends (Elsewhere cwd f) h view where
  present := sole.present
  build := sole.build
  schedule := sole.schedule
  start := sole.start
  stop := sole.stop
  alive := sole.alive
  join := sole.join
  resume s := by
    rw [sole.update]
    exact .resumed
  halt s := by
    rw [sole.update]
    exact .stopped
  note r s := by
    rw [sole.note]
    exact .single (.said r)

theorem log_drifts (level : Log.Level) (logger message : String) :
    Drifts (Stirs cwd f) (seen view)
      (.log level logger message : Action (Watcher T O × σ) Unit) :=
  sways_drifts (log_sways (tends_of_sole sole) level logger message)

theorem observe_drifts (w : Watcher T O) : Drifts (Elsewhere cwd f) view (observe h cwd w) :=
  observe_moves sole.build sole.schedule cwd w

/-- A start takes nothing. -/
theorem start_drifts : Drifts (Stirs cwd f) (seen view) (start h cwd) :=
  sways_drifts (start_sways (tends_of_sole sole) cwd)

/-- A stop takes nothing. -/
theorem stop_drifts : Drifts (Stirs cwd f) (seen view) (stop h) :=
  sways_drifts (stop_sways (tends_of_sole sole))

omit sole [Mailboxed σ] [Log.Logbook σ] in
/-- One more step that takes nothing. -/
theorem seq_stirs {α β : Type} {x : Action (Watcher T O × σ) α} {k : α → Action (Watcher T O × σ) β}
    {y z : Watcher T O × σ} (before : ReflTransGen (Stirs cwd f) (seen view y) (seen view z))
    (hx : Drifts (Stirs cwd f) (seen view) x)
    (hk : ∀ a z, ReflTransGen (Stirs cwd f) (seen view y) (seen view z) →
      Ends (k a) z fun _ u => ReflTransGen (Stirs cwd f) (seen view y) (seen view u)) :
    Ends (x >>= k) z fun _ u => ReflTransGen (Stirs cwd f) (seen view y) (seen view u) :=
  ((hx.ends z).mono fun _ _ h => before.trans h).seq (fun _ h => h) hk

/-- A replacement takes nothing. The change that it records is one for the first directory, which is
    the same all the time. -/
theorem replace_drifts (dead : O) : Drifts (Stirs cwd f) (seen view) (replace h cwd dead) := by
  intro y
  refine seq_stirs .refl (log_drifts sole _ _ _) fun _ y told => ?_
  refine seq_stirs told (inner_drifts (sole.stop dead)) fun _ y stopped => ?_
  refine Ends.of_read (Ends.mono ?_ fun _ _ rest => stopped.trans rest)
  refine seq_stirs .refl (inner_drifts (observe_drifts sole y.1)) fun o z observed => ?_
  refine seq_stirs observed (sways_drifts (hold_sways (some o))) fun _ z held => ?_
  refine seq_stirs held (inner_drifts (sole.start o)) fun _ z started => ?_
  refine seq_stirs started (log_drifts sole _ _ _) fun _ z logged => logged.tail ?_
  have same : z.1.directoryTexts = y.1.directoryTexts :=
    (untaken_of_stirs logged).same.directoryTexts
  have posted : seen view (z.1, Mailboxed.update (.post (y.1.directoryTexts.headD "")) z.2) =
      (z.1, (view z.2).mail (.post (z.1.directoryTexts.headD ""))) := by
    rw [seen, sole.update, same]
  show Stirs cwd f (seen view z)
    (seen view (z.1, Mailboxed.update (.post (y.1.directoryTexts.headD "")) z.2))
  rw [posted]
  exact .replaced

theorem ensureAlive_drifts : Drifts (Stirs cwd f) (seen view) (ensureAlive h cwd) := by
  refine .bind (.read _) fun w => ?_
  cases w.observer with
  | none => exact .pure ()
  | some o =>
    refine (Drifts.read _).bind fun m => ?_
    split
    · exact .pure ()
    · refine (inner_drifts (sole.alive o)).bind fun alive => ?_
      cases alive with
      | true => exact .pure ()
      | false => exact replace_drifts sole o

variable [LT T] [DecidableLT T] [Zero T]

theorem settle_drifts : Drifts (Stirs cwd f) (seen view) (settle h) := by
  refine .bind (.read _) fun w => ?_
  split
  · exact sole.pause w.debounce
  · exact .pure false

end Sole

end Watcher

end Respawn.Watch
