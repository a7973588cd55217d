import Respawn.Proofs.Actions
import Respawn.Watch.Watcher

/-!
# What can be seen of the observers

The watcher shares the world with its observers and with whoever changes files. Of that world a view
is taken: the mailbox, which observers are alive, what each of them was given to watch, and every
event of the file system so far. An event reaches the mailbox while an observer that looks at its
directory lives; otherwise it goes by unseen.

* `Sighted`: an event, with or without an observer to see it;
* `Passes.later`: while others act, nothing is lost and no observer comes to life;
* `Faithful`: a host that does what it is asked, while others act at any time.
-/

namespace Respawn.Watch

open Respawn.Action (Ends)
open Relation (ReflTransGen)

/-! ## 1. Views -/

/-- An event of the file system, and the directory it happened in. -/
structure Sighting where
  directory : Path
  event : Event
  deriving DecidableEq, Repr

/-- What can be seen of the observers and of the files. -/
structure View (O : Type) where
  mailbox : Mailbox
  alive : O → Prop
  duties : O → Filter → Path → Prop
  history : List Sighting

namespace View

variable {O : Type}

def mail (f : Mailbox → Mailbox) (v : View O) : View O := { v with mailbox := f v.mailbox }

theorem drain_of_none {v : View O} (h : v.mailbox.pending = none) : v.mail .drain = v := by
  have : Mailbox.drain v.mailbox = v.mailbox := by
    rw [Mailbox.drain, ← h]
  rw [mail, this]

def witness (c : Sighting) (v : View O) : View O := { v with history := v.history ++ [c] }

def enlist (o : O) (f : Filter) (d : Path) (v : View O) : View O :=
  { v with duties := fun o' f' d' => v.duties o' f' d' ∨ o' = o ∧ f' = f ∧ d' = d }

def wake (o : O) (v : View O) : View O := { v with alive := fun o' => v.alive o' ∨ o' = o }

def bury (o : O) (v : View O) : View O := { v with alive := fun o' => v.alive o' ∧ o' ≠ o }

end View

/-- An event happens. A living observer that looks at the directory and whose filter reports the
    event hands it on; without one it is missed. -/
inductive Sighted {O : Type} (cwd : Path) (c : Sighting) : View O → View O → Prop
  | delivered {v o f p} (alive : v.alive o) (duty : v.duties o f c.directory)
      (report : f.report cwd c.event = some p) : Sighted cwd c v ((v.witness c).mail (.post p))
  | missed {v} (unseen : ∀ o f, v.alive o → v.duties o f c.directory →
      f.report cwd c.event = none) : Sighted cwd c v (v.witness c)

/-- What others do. -/
inductive Meanwhile {O : Type} (cwd : Path) : View O → View O → Prop
  | sighted {v v'} (c : Sighting) (h : Sighted cwd c v v') : Meanwhile cwd v v'
  | died {v} (o : O) : Meanwhile cwd v (v.bury o)
  | enlisted {v} (o : O) (f : Filter) (d : Path) : Meanwhile cwd v (v.enlist o f d)

/-- Time passes in which others act. -/
abbrev Passes {O : Type} (cwd : Path) : View O → View O → Prop := ReflTransGen (Meanwhile cwd)

/-! ## 2. What stays true while others act -/

/-- Nothing that was there is lost: a change that is pending stays, no duty is forgotten, and what has
    happened has happened. -/
structure Retains {O : Type} (v v' : View O) : Prop where
  stopped : v'.mailbox.stopped = v.mailbox.stopped
  pending : v.mailbox.pending.isSome = true → v'.mailbox.pending = v.mailbox.pending
  duties {o f d} : v.duties o f d → v'.duties o f d
  history : v.history <+: v'.history

namespace Retains

variable {O : Type} {v v' v'' : View O}

theorem refl (v : View O) : Retains v v := ⟨rfl, fun _ => rfl, id, List.prefix_rfl⟩

theorem trans (h : Retains v v') (h' : Retains v' v'') : Retains v v'' where
  stopped := h'.stopped.trans h.stopped
  pending hp := by
    have := h.pending hp
    rw [h'.pending (this ▸ hp), this]
  duties hd := h'.duties (h.duties hd)
  history := h.history.trans h'.history

theorem isSome_pending (h : Retains v v') (hp : v.mailbox.pending.isSome = true) :
    v'.mailbox.pending.isSome = true := by
  rw [h.pending hp]
  exact hp

theorem posted (v : View O) (p : String) : Retains v (v.mail (.post p)) where
  stopped := rfl
  pending hp := by
    obtain ⟨first, hf⟩ := Option.isSome_iff_exists.1 hp
    simp only [View.mail, Mailbox.post_of_pending hf]
  duties := id
  history := List.prefix_rfl

theorem witnessed (v : View O) (c : Sighting) : Retains v (v.witness c) :=
  ⟨rfl, fun _ => rfl, id, List.prefix_append _ _⟩

theorem woken (v : View O) (o : O) : Retains v (v.wake o) :=
  ⟨rfl, fun _ => rfl, id, List.prefix_rfl⟩

end Retains

/-- A later view, with no observer come to life in between. -/
structure Later {O : Type} (v v' : View O) : Prop extends Retains v v' where
  alive {o} : v'.alive o → v.alive o

theorem Later.trans {O : Type} {v v' v'' : View O} (h : Later v v') (h' : Later v' v'') :
    Later v v'' :=
  ⟨h.toRetains.trans h'.toRetains, fun ha => h.alive (h'.alive ha)⟩

section Others

variable {O : Type} {cwd : Path} {v v' : View O}

theorem Sighted.later {c : Sighting} (h : Sighted cwd c v v') : Later v v' := by
  cases h with
  | delivered alive duty report => exact ⟨(Retains.witnessed v c).trans (.posted _ _), id⟩
  | missed unseen => exact ⟨.witnessed v c, id⟩

theorem Sighted.history {c : Sighting} (h : Sighted cwd c v v') :
    v'.history = v.history ++ [c] := by
  cases h <;> rfl

theorem Meanwhile.later (h : Meanwhile cwd v v') : Later v v' := by
  cases h with
  | sighted c h => exact h.later
  | died o => exact ⟨⟨rfl, fun _ => rfl, id, List.prefix_rfl⟩, And.left⟩
  | enlisted o f d => exact ⟨⟨rfl, fun _ => rfl, .inl, List.prefix_rfl⟩, id⟩

theorem Passes.later (h : Passes cwd v v') : Later v v' := by
  induction h with
  | refl => exact ⟨.refl v, id⟩
  | tail _ h ih => exact ih.trans h.later

end Others

/-! ## 3. Faithful hosts -/

variable {T O σ : Type} [Mailboxed σ] [Log.Logbook σ]

/-- A host that does what it is asked. Others act during every request, but they neither stop nor
    start the watcher. A new observer does not live before it is started, and one whose start failed
    does not live either. -/
structure Faithful (h : Host T O σ) (cwd : Path) (view : σ → View O) : Prop where
  mailbox (s) : (view s).mailbox = Mailboxed.mailbox s
  update (f s) : view (Mailboxed.update f s) = (view s).mail f
  note (r s) : view (Log.Logbook.note r s) = view s
  present (p s) : Ends (h.present p) s fun r t => r ≠ .unfinished ∧ Passes cwd (view s) (view t)
  build (s) : Ends h.build s fun r t => r ≠ .unfinished ∧ Passes cwd (view s) (view t) ∧
    ∀ o, r = .done o → ¬ (view t).alive o
  schedule (o f d s) : Ends (h.schedule o f d) s fun r t => r ≠ .unfinished ∧
    Passes cwd (view s) (view t) ∧ (r = .done () → (view t).duties o f d)
  start (o s) : Ends (h.start o) s fun r t => r ≠ .unfinished ∧
    (r = .done () → ∃ v, Passes cwd (view s) v ∧ Passes cwd (v.wake o) (view t)) ∧
    (r ≠ .done () → Passes cwd (view s) (view t))
  stop (o s) : Ends (h.stop o) s fun r t => r ≠ .unfinished ∧ Passes cwd (view s) (view t)
  /-- The answer was true at some moment of the asking. -/
  alive (o s) : Ends (h.alive o) s fun r t => r ≠ .unfinished ∧ Passes cwd (view s) (view t) ∧
    ∀ b, r = .done b → ∃ v, Passes cwd (view s) v ∧ Passes cwd v (view t) ∧ (b = true ↔ v.alive o)
  /-- Nobody waits for ever for a change that is there. -/
  await (time w s) : Ends (h.await time) (w, s) fun r y => y.1 = w ∧
    Passes cwd (view s) (view y.2) ∧ (r = .unfinished → (view s).mailbox.pending.isSome = false)
  /-- A burst lands at some time, or the system does not take the time it is given. -/
  pause (time w s) : Ends (h.pause time) (w, s) fun r y => r ≠ .unfinished ∧ y.1 = w ∧
    Passes cwd (view s) (view y.2) ∧ ∀ b, r = .done b → b = (view s).mailbox.stopped
  others (w s) : Ends h.others (w, s) fun r y => r = .done () ∧ y.1 = w ∧
    Passes cwd (view s) (view y.2)

end Respawn.Watch
