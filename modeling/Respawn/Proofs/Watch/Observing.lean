import Respawn.Proofs.Actions
import Respawn.Watch.Watcher

/-!
# How a watcher observes, move by move

Before a watcher observes, it asks which of its paths are there, for an observer, and for all of its
directories. What these requests do to a part of the state, the beginning as a whole does to it. And so
it is with starts, with stops and with the replacement of an observer, as long as nothing is taken.

* `firstMissing_moves`, `observe_moves`, `beginObserving_moves`: the moves of the requests are all
  there are;
* `Sways`: what happens to a watcher beside a part of its surroundings;
* `start_sways`, `stop_sways`, `ensureAlive_sways`: nothing else happens here.
-/

namespace Respawn.Watch

open Respawn.Action (Drifts Ends)
open Relation (ReflTransGen)

variable {T O σ ρ : Type}

/-! ## 1. The beginning -/

namespace Watcher

section Beginning

variable {Move : ρ → ρ → Prop} {view : σ → ρ} {h : Host T O σ}

theorem firstMissing_moves (present : ∀ p, Drifts Move view (h.present p)) (ps : List Path) :
    Drifts Move view (firstMissing h ps) := by
  induction ps with
  | nil => exact .pure none
  | cons p ps ih =>
    refine (present p).bind fun there => ?_
    cases there with
    | true => exact ih
    | false => exact .pure (some p)

section Observer

variable (build : Drifts Move view h.build)
  (schedule : ∀ o f d, Drifts Move view (h.schedule o f d)) (cwd : Path) (w : Watcher T O)
include build schedule

theorem observe_moves : Drifts Move view (observe h cwd w) :=
  build.bind fun o => (Drifts.each (schedule o _) _).bind fun _ => .pure o

/-- A start that the system refuses is complained of, and that moves nothing. -/
theorem beginObserving_moves (start : ∀ o, Drifts Move view (h.start o)) :
    Drifts Move view (beginObserving h cwd w) := by
  have observing : Drifts Move view (do
      let o ← observe h cwd w
      h.start o
      pure o : Action σ O) :=
    (observe_moves build schedule cwd w).bind fun o => (start o).bind fun _ => .pure o
  refine observing.recover fun e y handled => ?_
  cases e with
  | os _ =>
    cases handled
    exact .raise _
  | _ => cases handled

end Observer

end Beginning

end Watcher

/-! ## 2. Beside a watcher -/

/-- A watcher beside what is seen of its surroundings. -/
def beside (view : σ → ρ) (y : Watcher T O × σ) : Watcher T O × ρ := (y.1, view y.2)

/-- What happens to a watcher beside a part of its surroundings: that part moves, or the watcher holds
    another observer. -/
inductive Sways (Near : ρ → ρ → Prop) : Watcher T O × ρ → Watcher T O × ρ → Prop
  | near {w d d'} (h : Near d d') : Sways Near (w, d) (w, d')
  | held {w d} (o : Option O) : Sways Near (w, d) ({ w with observer := o }, d)

/-- The requests of a watcher, its log, and its marks in the mailbox move the surroundings so. -/
structure Tends [Mailboxed σ] [Log.Logbook σ] (Near : ρ → ρ → Prop) (h : Host T O σ)
    (view : σ → ρ) : Prop where
  present (p) : Drifts Near view (h.present p)
  build : Drifts Near view h.build
  schedule (o f d) : Drifts Near view (h.schedule o f d)
  start (o) : Drifts Near view (h.start o)
  stop (o) : Drifts Near view (h.stop o)
  alive (o) : Drifts Near view (h.alive o)
  join (o limit) : Drifts Near view (h.join o limit)
  resume (s) : Near (view s) (view (Mailboxed.update Mailbox.resume s))
  halt (s) : Near (view s) (view (Mailboxed.update Mailbox.stop s))
  note (r s) : ReflTransGen Near (view s) (view (Log.Logbook.note r s))

namespace Watcher

section Sways

variable {Near : ρ → ρ → Prop} {view : σ → ρ} {h : Host T O σ}

/-- What surroundings do by themselves they do beside a watcher. -/
theorem inner_sways {α : Type} {x : Action σ α} (hx : Drifts Near view x) :
    Drifts (Sways Near) (beside view) (x.inner : Action (Watcher T O × σ) α) := fun y =>
  (hx y.2).lift (fun d => (y.1, d)) fun _ _ h => .near h

theorem hold_sways (o : Option O) : Drifts (Sways Near) (beside view)
    (change fun w : Watcher T O => { w with observer := o } : Action (Watcher T O × σ) Unit) :=
  .of_move fun _ => .held o

variable [Mailboxed σ]

theorem mail_sways {g : Mailbox → Mailbox}
    (near : ∀ s, Near (view s) (view (Mailboxed.update g s))) :
    Drifts (Sways Near) (beside view) (mail g : Action (Watcher T O × σ) Unit) :=
  .of_move fun y => .near (near y.2)

variable [Log.Logbook σ] (ht : Tends Near h view)
include ht

theorem log_sways (level : Log.Level) (logger message : String) : Drifts (Sways Near) (beside view)
    (.log level logger message : Action (Watcher T O × σ) Unit) := fun y =>
  (ht.note ⟨level, logger, message⟩ y.2).lift (fun d => (y.1, d)) fun _ _ h => .near h

theorem start_sways (cwd : Path) : Drifts (Sways Near) (beside view) (start h cwd) := by
  refine .bind (.read _) fun w => ?_
  refine (inner_sways (firstMissing_moves ht.present w.paths)).bind fun missing => ?_
  cases missing with
  | some p => exact .raise _
  | none =>
    refine (mail_sways ht.resume).bind fun _ => ?_
    have begun := beginObserving_moves ht.build ht.schedule cwd w ht.start
    exact (inner_sways begun).bind fun o => (hold_sways (some o)).bind fun _ => log_sways ht _ _ _

/-- A stop sets the mark before it does anything else. -/
theorem stop_marked (y : Watcher T O × σ) : Ends (stop h) y fun _ z =>
    ReflTransGen (Sways Near) (beside view (Mailboxed.update .stop y)) (beside view z) := by
  refine Ends.of_modify (Drifts.ends (.bind (.read _) fun w => ?_) _)
  cases w.observer with
  | none => exact .pure ()
  | some o =>
    refine (inner_sways (ht.stop o)).bind fun _ => (inner_sways (ht.alive o)).bind fun alive => ?_
    have rest : Drifts (Sways Near) (beside view) (do
        change fun w => { w with observer := none }
        .log .debug logger "Observer stopped." : Action (Watcher T O × σ) Unit) :=
      (hold_sways none).bind fun _ => log_sways ht _ _ _
    cases alive with
    | true => exact (inner_sways (ht.join o joinLimit)).bind fun _ => rest
    | false => exact rest

theorem stop_sways : Drifts (Sways Near) (beside view) (stop h) := fun y =>
  (stop_marked ht y).head (.near (ht.halt y.2))

/-- Where a change that is recorded is a move as any other. -/
theorem ensureAlive_sways (post : ∀ p s, Near (view s) (view (Mailboxed.update (.post p) s)))
    (cwd : Path) : Drifts (Sways Near) (beside view) (ensureAlive h cwd) := by
  have replaced (dead : O) : Drifts (Sways Near) (beside view) (replace h cwd dead) := by
    refine (log_sways ht _ _ _).bind fun _ => (inner_sways (ht.stop dead)).bind fun _ => ?_
    refine .bind (.read _) fun w => ?_
    refine (inner_sways (observe_moves ht.build ht.schedule cwd w)).bind fun o => ?_
    refine (hold_sways (some o)).bind fun _ => (inner_sways (ht.start o)).bind fun _ => ?_
    exact (log_sways ht _ _ _).bind fun _ => mail_sways (post _)
  refine .bind (.read _) fun w => ?_
  cases w.observer with
  | none => exact .pure ()
  | some o =>
    refine .bind (.read _) fun mailbox => ?_
    split
    · exact .pure ()
    · refine (inner_sways (ht.alive o)).bind fun alive => ?_
      cases alive with
      | true => exact .pure ()
      | false => exact replaced o

end Sways

end Watcher

end Respawn.Watch
