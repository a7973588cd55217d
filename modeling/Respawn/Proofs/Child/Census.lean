import Respawn.Child.Launch
import Respawn.Proofs.Actions

/-!
# Which processes run

Of the processes a census is taken: which of them run, and to the tree of which child each of them
belongs. The child that was spawned is the root of its tree, and whatever a process of the tree forks
belongs to it as well. Processes end when they like.

* `Drift.after`: no process changes its tree, and none comes back to life;
* `Truthful`: a system that answers what is the case, while processes end and fork at any time.
-/

namespace Respawn.Child

open Respawn.Action (Ends Drifts)
open Relation (ReflTransGen)

/-! ## 1. The census -/

/-- Which processes run, and the root of the tree that each belongs to. A process that only waits to be
    reaped does not run. Numbers stand for processes: none is given twice. -/
structure Census where
  alive : Pid → Prop
  tree : Pid → Option Pid

namespace Census

def bury (p : Pid) (v : Census) : Census := { v with alive := fun q => v.alive q ∧ q ≠ p }

/-- A new process in the tree with the given root. -/
def enrol (q root : Pid) (v : Census) : Census where
  alive p := v.alive p ∨ p = q
  tree p := if p = q then some root else v.tree p

theorem enrol_self (v : Census) (q root : Pid) : (v.enrol q root).tree q = some root := if_pos rfl

theorem enrol_other (v : Census) (root : Pid) {p q : Pid} (h : p ≠ q) :
    (v.enrol q root).tree p = v.tree p := if_neg h

end Census

/-- What processes do by themselves, or because they were signalled. -/
inductive Stir : Census → Census → Prop
  | ended {v} (p : Pid) : Stir v (v.bury p)
  | forked {v p q root} (parent : v.alive p) (tree : v.tree p = some root) (new : v.tree q = none) :
    Stir v (v.enrol q root)

/-- Time passes for the processes. -/
abbrev Drift : Census → Census → Prop := ReflTransGen Stir

/-! ## 2. What stays true -/

/-- A later census: every process is where it was, and none has come back to life. -/
structure After (v v' : Census) : Prop where
  tree {p root} : v.tree p = some root → v'.tree p = some root
  alive {p root} : v.tree p = some root → v'.alive p → v.alive p

namespace After

variable {v v' v'' : Census}

theorem refl (v : Census) : After v v := ⟨id, fun _ => id⟩

theorem trans (h : After v v') (h' : After v' v'') : After v v'' :=
  ⟨fun ht => h'.tree (h.tree ht), fun ht ha => h.alive ht (h'.alive (h.tree ht) ha)⟩

theorem new (h : After v v') {p : Pid} (hp : v'.tree p = none) : v.tree p = none := by
  cases ht : v.tree p with
  | none => rfl
  | some root =>
    rw [h.tree ht] at hp
    cases hp

theorem enrolled {q : Pid} (root : Pid) (hq : v.tree q = none) : After v (v.enrol q root) := by
  have other {p r} (ht : v.tree p = some r) : p ≠ q := by
    rintro rfl
    rw [hq] at ht
    cases ht
  refine ⟨fun ht => ?_, fun ht ha => ?_⟩
  · rw [Census.enrol_other _ _ (other ht), ht]
  · exact ha.resolve_right (other ht)

end After

theorem Stir.after {v v' : Census} (h : Stir v v') : After v v' := by
  cases h with
  | ended p => exact ⟨id, fun _ => And.left⟩
  | forked parent tree new => exact .enrolled _ new

theorem Drift.after {v v' : Census} (h : Drift v v') : After v v' := by
  induction h with
  | refl => exact .refl v
  | tail _ h ih => exact ih.trans h.after

/-- Who belongs to a tree joined it through somebody who belonged to it before, and who ran then if
    it runs now. -/
theorem Drift.forebear {v v' : Census} (h : Drift v v') {p r : Pid} (hp : v'.tree p = some r) :
    ∃ q, v.tree q = some r ∧ (v'.alive p → v.alive q) := by
  induction h generalizing p with
  | refl => exact ⟨p, hp, id⟩
  | tail _ h ih =>
    cases h with
    | ended q =>
      obtain ⟨f, hf, ha⟩ := ih hp
      exact ⟨f, hf, fun h => ha h.1⟩
    | @forked parent q root alive tree new =>
      by_cases hq : p = q
      · rw [hq, Census.enrol_self] at hp
        obtain ⟨f, hf, ha⟩ := ih (tree.trans hp)
        exact ⟨f, hf, fun _ => ha alive⟩
      · rw [Census.enrol_other _ _ hq] at hp
        obtain ⟨f, hf, ha⟩ := ih hp
        exact ⟨f, hf, fun h => ha (h.resolve_right hq)⟩

/-- A child is spawned, while time passes. -/
def Spawned (r : Pid) (v v' : Census) : Prop :=
  ∃ m, Drift v m ∧ m.tree r = none ∧ Drift (m.enrol r r) v'

namespace Spawned

variable {r : Pid} {v v' v'' : Census}

theorem later (h : Spawned r v v') (hd : Drift v' v'') : Spawned r v v'' := by
  obtain ⟨m, hm, hr, hm'⟩ := h
  exact ⟨m, hm, hr, hm'.trans hd⟩

theorem after (h : Spawned r v v') : After v v' := by
  obtain ⟨m, hm, hr, hm'⟩ := h
  exact hm.after.trans ((After.enrolled r hr).trans hm'.after)

/-- The child is the root of its tree. -/
theorem tree (h : Spawned r v v') : v'.tree r = some r := by
  obtain ⟨m, hm, hr, hm'⟩ := h
  exact hm'.after.tree (Census.enrol_self m r r)

/-- Who belongs to a tree belongs to the new one, or the tree was there before. -/
theorem forebear (h : Spawned r v v') {p q : Pid} (hp : v'.tree p = some q) :
    q = r ∨ ∃ f, v.tree f = some q := by
  obtain ⟨m, hm, hr, hm'⟩ := h
  obtain ⟨p', hp', -⟩ := hm'.forebear hp
  by_cases hpr : p' = r
  · rw [hpr, Census.enrol_self, Option.some.injEq] at hp'
    exact .inl hp'.symm
  · rw [Census.enrol_other _ _ hpr] at hp'
    obtain ⟨f, hf, -⟩ := hm.forebear hp'
    exact .inr ⟨f, hf⟩

end Spawned

/-! ## 3. Truthful systems -/

variable {T σ : Type} [Log.Logbook σ]

/-- A system that answers what is the case. While it is asked, processes end and fork as they like.

    * A living process is asked for all that run in its tree if it is the root of it, and nothing
      else is listed; a process of which no more is known is gone.
    * What has been waited for and is not left is gone, and so is a process that only waits to be
      reaped, or of which the exit code is known. -/
structure Truthful (h : Host T σ) (view : σ → Census) : Prop where
  note (r s) : view (Log.Logbook.note r s) = view s
  spawn (x s) : Ends (h.spawn x) s fun o t =>
    (∀ r, o = .done r → Spawned r (view s) (view t)) ∧
    ((∀ r, o ≠ .done r) → Drift (view s) (view t))
  find (p s) : Ends (h.find p) s fun o t => Drift (view s) (view t) ∧
    ∀ n, o = .raised (.noSuchProcess n) → ¬ (view t).alive p
  terminate (p) : Drifts Stir view (h.terminate p)
  kill (p) : Drifts Stir view (h.kill p)
  descendants (p s) : (view s).tree p = some p → Ends (h.descendants p) s fun o t =>
    Drift (view s) (view t) ∧
    (∀ l, o = .done l → (∀ q ∈ l, (view t).tree q = some p) ∧
      ∃ v, Drift (view s) v ∧ Drift v (view t) ∧
        (v.alive p → ∀ q, v.alive q → v.tree q = some p → q = p ∨ q ∈ l)) ∧
    ∀ n, o = .raised (.noSuchProcess n) → ¬ (view t).alive p
  status (p s) : Ends (h.status p) s fun o t => Drift (view s) (view t) ∧
    (o = .done .zombie → ¬ (view t).alive p) ∧
    ∀ n, o = .raised (.noSuchProcess n) → ¬ (view t).alive p
  waitAll (ps time s) : Ends (h.waitAll ps time) s fun o t => Drift (view s) (view t) ∧
    (∀ left, o = .done left → left ⊆ ps ∧ ∀ p ∈ ps, p ∉ left → ¬ (view t).alive p) ∧
    ∀ n, o = .raised (.noSuchProcess n) → ∀ p ∈ ps, ¬ (view t).alive p
  now : Drifts Stir view h.now
  reap (p time) : Drifts Stir view (h.reap p time)
  poll (p s) : Ends (h.poll p) s fun o t => Drift (view s) (view t) ∧
    ∀ code, o = .done (some code) → ¬ (view t).alive p
  pipe (p channel) : Drifts Stir view (h.pipe p channel)
  closePipe (p channel) : Drifts Stir view (h.closePipe p channel)
  inBackground (name act) : Drifts Stir view act → Drifts Stir view (h.inBackground name act)

end Respawn.Child
