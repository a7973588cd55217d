import Respawn.Proofs.Child.Stop

/-!
# What a launch leaves

A launch that succeeds leaves one new tree, and the handle is on the root of it. A launch that fails
has spawned nothing, or it leaves a tree that nobody holds: what runs in it has slipped out of the stop
of an aborted start, or nobody ever took hold of it.

* `seeThrough_drifts`: reading the output and waiting through the startup window signal nobody;
* `takeHold_ends`: what was spawned, whether or not there is a handle on it;
* `launch_ends`: the tree that a launch leaves, and who runs in it if there is no handle.
-/

namespace Respawn.Child

open Respawn.Action (Ends Drifts)

variable {T σ : Type} [Log.Logbook σ] {h : Host T σ} {view : σ → Census}

/-! ## 1. The output and the startup window -/

theorem noteAll_drifts (ht : Truthful h view) (rs : List Log.Record) :
    Drifts Stir view (noteAll rs) := .each (fun r => .of_eq fun s => ht.note r s) rs

theorem readPipe_drifts (ht : Truthful h view) {close : Action σ Unit}
    (hc : Drifts Stir view close) (name : String) (level : Log.Level) (p : Pipe) :
    Drifts Stir view (readPipe close name level p) := by
  refine .ensuring (.bind (noteAll_drifts ht _) fun _ => ?_) hc
  split
  · exact .pure ()
  · split
    · exact noteAll_drifts ht _
    · exact .raise _

theorem readOutput_drifts (ht : Truthful h view) (p : Pid) (name : String) :
    Drifts Stir view (Handle.readOutput h p name) := by
  refine .each (fun channel => .bind (ht.pipe p channel) fun found => ?_) _
  cases found with
  | none => exact .pure ()
  | some found =>
    exact ht.inBackground _ _ (readPipe_drifts ht (ht.closePipe p channel) name channel.level found)

section Window

variable [LT T] [DecidableLT T] [Zero T]

theorem seeThrough_drifts (ht : Truthful h view) (plan : LaunchPlan T) (i : Invocation) (p : Pid) :
    Drifts Stir view (seeThrough h plan i p) := by
  have window : Drifts Stir view (do
      let code ← h.reap p plan.window
      .ofExcept (verdict i code)) := .bind (ht.reap p plan.window) fun code => .ofExcept _
  have output := readOutput_drifts ht p plan.name
  unfold seeThrough
  split
  · split
    · exact .bind output fun _ => window
    · exact window
  · split
    · exact .bind output fun _ => .pure ()
    · exact .pure ()

end Window

/-! ## 2. Taking hold -/

theorem spawn_ends (ht : Truthful h view) (plan : LaunchPlan T) (i : Invocation) (s : σ) :
    Ends (spawn h plan i) s fun o t => (∀ r, o = .done r → Spawned r (view s) (view t)) ∧
      ((∀ r, o ≠ .done r) → Drift (view s) (view t)) := by
  refine (ht.spawn _ s).recover (fun _ _ h => h) ?_ (fun _ _ h _ => h) fun _ h => h
  intro f t y hf hy
  split at hy
  · cases hy
    exact ⟨nofun, fun _ => hf.2 nofun⟩
  · cases hy

/-- What was spawned is there, whether or not there is a handle on it. -/
theorem takeHold_ends (ht : Truthful h view) (plan : LaunchPlan T) (i : Invocation) (s : σ) :
    Ends (takeHold h plan i) s fun o t =>
      (∀ c, o = .done c → Spawned c.pid (view s) (view t)) ∧
      ((∀ c, o ≠ .done c) → Drift (view s) (view t) ∨
        ∃ r, (spawn h plan i s).1 = .done r ∧ Spawned r (view s) (view t)) := by
  refine ((spawn_ends ht plan i s).and (.here _ _)).bind ?_
    (fun f t hf => ⟨nofun, fun _ => .inl (hf.1.2 nofun)⟩)
    fun t hu => ⟨nofun, fun _ => .inl (hu.1.2 nofun)⟩
  intro r t hr
  have spawned := hr.1.1 r rfl
  have looked : Drifts Stir view (unlessGone (do h.find r; pure true) (pure false)) :=
    unlessGone_drifts (.bind (fun s => (ht.find r s).1) fun _ => .pure true) (.pure false)
  have answer : (spawn h plan i s).1 = .done r := by rw [hr.2]
  refine (looked.ends t).bind ?_ (fun f u hu => ⟨nofun, fun _ => .inr ⟨r, answer, spawned.later hu⟩⟩)
    fun u hu => ⟨nofun, fun _ => .inr ⟨r, answer, spawned.later hu⟩⟩
  intro found u hu
  refine ⟨fun c hc => ?_, fun hn => absurd rfl (hn _)⟩
  cases hc
  exact spawned.later hu

/-! ## 3. The launch -/

variable [Deferrable T] [LT T] [DecidableLT T] [LE T] [DecidableLE T] [Zero T]
  {stopPlan : StopPlan T} {plan : LaunchPlan T} {polls : Nat} {i : Invocation}

theorem discard_ends (ht : Truthful h view) (stopPlan : StopPlan T) (polls : Nat) (c : Handle) (s : σ)
    (hroot : (view s).tree c.pid = some c.pid) : Ends (discard h stopPlan polls c) s fun _ t =>
      Drift (view s) (view t) ∧ ((stop h stopPlan polls c s).1 = .done () → ∀ v, After (view t) v →
        ∀ p, v.alive p → v.tree p = some c.pid → Slips h view c p s) := by
  refine ((stop_ends ht stopPlan polls c s hroot).and (.here _ _)).recover ?_ ?_ ?_ ?_
  · intro _ t hs
    exact ⟨hs.1.1, fun _ => hs.1.2 rfl⟩
  · intro f t y hs hy
    have survived : (stop h stopPlan polls c s).1 ≠ .done () := by rw [hs.2]; nofun
    split at hy
    · cases hy
      exact ⟨hs.1.1.trans (log_drifts ht .critical launchLogger _ t), fun ho => absurd ho survived⟩
    · cases hy
  · intro f t hs _
    exact ⟨hs.1.1, by rw [hs.2]; nofun⟩
  · intro t hs
    exact ⟨hs.1.1, by rw [hs.2]; nofun⟩

/-- How a process can run in the tree of a child that was spawned by a launch that failed: there was
    no handle on the child yet, or the stop of the aborted start failed, or the process slipped out
    of that stop. -/
inductive Abandons (h : Host T σ) (view : σ → Census) (stopPlan : StopPlan T) (plan : LaunchPlan T)
    (polls : Nat) (i : Invocation) (s : σ) (p r : Pid) : Prop
  | lost (spawned : (spawn h plan i (hail plan i s).2).1 = .done r)
      (unheld : ∀ c, (takeHold h plan i (hail plan i s).2).1 ≠ .done c)
  | aborted {c f t u} (held : takeHold h plan i (hail plan i s).2 = (.done c, t)) (root : c.pid = r)
      (fails : seeThrough h plan i c.pid t = (.raised f, u))
      (slips : (stop h stopPlan polls c u).1 = .done () → Slips h view c p u)

/-- **A launch that succeeds leaves one new tree.** One that fails leaves none, or those who run in
    the tree that it leaves have been abandoned. -/
theorem launch_ends (ht : Truthful h view) (stopPlan : StopPlan T) (plan : LaunchPlan T)
    (polls : Nat) (i : Invocation) (s : σ) : Ends (launch h stopPlan plan polls i) s fun o t =>
      (∀ c, o = .done c → Spawned c.pid (view s) (view t)) ∧
      (∀ f, o = .raised f → Drift (view s) (view t) ∨
        ∃ r, Spawned r (view s) (view t) ∧ ∀ v, After (view t) v → ∀ p, v.alive p →
          v.tree p = some r → Abandons h view stopPlan plan polls i s p r) := by
  have same : view (hail plan i s).2 = view s := ht.note _ s
  have taken := takeHold_ends ht plan i (hail plan i s).2
  rw [same] at taken
  refine Ends.of_modify ((taken.and (.here _ _)).bind ?_ (fun f t hf => ⟨nofun, fun _ _ => ?_⟩)
    fun t _ => ⟨nofun, nofun⟩)
  · intro c t hc
    have spawned := hc.1.1 c rfl
    have seen := ((seeThrough_drifts ht plan i c.pid).ends t).and (.here _ _)
    have guarded : Ends ((seeThrough h plan i c.pid).onFault (discard h stopPlan polls c)) t
        fun o u => (o = .done () → Spawned c.pid (view s) (view u)) ∧
          (∀ f, o = .raised f → Spawned c.pid (view s) (view u) ∧ ∀ v, After (view u) v → ∀ p,
            v.alive p → v.tree p = some c.pid → Abandons h view stopPlan plan polls i s p c.pid) := by
      refine seen.onFault (fun _ u hu => ⟨fun _ => spawned.later hu.1, nofun⟩) (fun f u hu => ?_)
        fun u _ => ⟨nofun, nofun⟩
      have held := spawned.later hu.1
      refine (discard_ends ht stopPlan polls c u held.tree).mono fun o x hx => ?_
      refine ⟨fun _ g => ⟨nofun, fun _ _ => ⟨held.later hx.1, fun v hv p ha hp => ?_⟩⟩, fun _ =>
        ⟨nofun, nofun⟩⟩
      exact .aborted hc.2 rfl hu.2 fun ho => hx.2 ho v hv p ha hp
    refine guarded.bind ?_ (fun f u hu => ⟨nofun, fun _ _ => .inr ⟨c.pid, hu.2 f rfl⟩⟩)
      fun u _ => ⟨nofun, nofun⟩
    intro _ u hu
    refine Ends.of_modify ⟨fun c' hc' => ?_, nofun⟩
    cases hc'
    show Spawned c.pid (view s) (view (Log.Logbook.note _ u))
    rw [ht.note]
    exact hu.1 rfl
  · rcases hf.1.2 nofun with drifts | ⟨r, hr, spawned⟩
    · exact .inl drifts
    · refine .inr ⟨r, spawned, fun v _ p _ _ => .lost hr fun c => ?_⟩
      rw [hf.2]
      nofun

end Respawn.Child
