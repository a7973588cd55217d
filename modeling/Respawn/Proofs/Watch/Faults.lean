import Respawn.Proofs.Actions
import Respawn.Watch.Watcher

/-!
# Which faults a wait lets through

A wait takes no fault at all. What the building, the scheduling or the start of an observer that
replaces a dead one ends with, the wait ends with.

* `Troubled`: what the calls on the observers can end with;
* `wait_raises`: a wait ends with one of those faults, or refuses its own timeout.
-/

namespace Respawn.Watch

open Respawn.Action (Raises)

variable {T O σ : Type}

/-- The calls on the observers can fail, with faults of which `q` is true. -/
structure Troubled (q : Fault → Prop) (h : Host T O σ) : Prop where
  build : Raises q h.build
  schedule (o f d) : Raises q (h.schedule o f d)
  start (o) : Raises q (h.start o)
  stop (o) : Raises q (h.stop o)
  alive (o) : Raises q (h.alive o)
  await (timeout) : Raises q (h.await timeout)
  pause (time) : Raises q (h.pause time)
  others : Raises q h.others

namespace Watcher

variable [Mailboxed σ] [Log.Logbook σ] {h : Host T O σ} {q : Fault → Prop}

omit [Mailboxed σ] [Log.Logbook σ] in
theorem observe_raises (ht : Troubled q h) (cwd : Path) (w : Watcher T O) :
    Raises q (observe h cwd w) :=
  ht.build.bind fun o => (Raises.each (ht.schedule o _) _).bind fun _ => .pure o

/-- The start of an observer is guarded only where a watcher begins to observe. -/
theorem replace_raises (ht : Troubled q h) (cwd : Path) (dead : O) :
    Raises q (replace h cwd dead) := by
  refine .bind (.modify _) fun _ => (ht.stop dead).inner.bind fun _ => .bind (.read _) fun w => ?_
  refine (observe_raises ht cwd w).inner.bind fun o => .bind (.modify _) fun _ => ?_
  exact (ht.start o).inner.bind fun _ => .bind (.modify _) fun _ => .modify _

theorem ensureAlive_raises (ht : Troubled q h) (cwd : Path) : Raises q (ensureAlive h cwd) := by
  refine .bind (.read _) fun w => ?_
  cases w.observer with
  | none => exact .pure ()
  | some o =>
    refine .bind (.read _) fun mailbox => ?_
    split
    · exact .pure ()
    · refine (ht.alive o).inner.bind fun alive => ?_
      cases alive with
      | true => exact .pure ()
      | false => exact replace_raises ht cwd o

omit [Log.Logbook σ] in
theorem take_raises (ht : Troubled q h) : Raises q (take h) :=
  .bind (.read _) fun _ => .bind (.modify _) fun _ => ht.others.bind fun _ => .pure _

theorem fire_raises (ht : Troubled q h) (path : String) : Raises q (fire h path) :=
  .bind (.modify _) fun _ => ht.others.bind fun _ => .bind (.modify _) fun _ =>
    .bind (.read _) fun _ => .bind (.modify _) fun _ => .pure _

variable [LT T] [DecidableLT T] [Zero T]

omit [Mailboxed σ] [Log.Logbook σ] in
theorem settle_raises (ht : Troubled q h) : Raises q (settle h) := by
  refine .bind (.read _) fun w => ?_
  split
  · exact ht.pause w.debounce
  · exact .pure false

/-- **A wait lets every fault of its observers through.** -/
theorem wait_raises (ht : Troubled q h) (cwd : Path) {interval : T}
    (hi : interval < 0 → q .negativeTimeout) : Raises q (wait h cwd (some interval)) := by
  have collected : Raises q (collect h cwd (some interval)) := by
    refine (ensureAlive_raises ht cwd).bind fun _ => ?_
    split
    · next negative => exact .raise (hi (by simpa using negative))
    · exact (ht.await _).bind fun _ => take_raises ht
  refine collected.bind fun path => ?_
  cases path with
  | none => exact .pure none
  | some path =>
    refine (settle_raises ht).bind fun stopped => ?_
    cases stopped with
    | true => exact .pure none
    | false => exact fire_raises ht path

end Watcher

end Respawn.Watch
