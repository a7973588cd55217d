import Respawn.Child.Launch
import Respawn.Proofs.Actions

/-!
# What every call on the system does, a launch and a stop do

A launch and a stop are made of calls on the system and of records, and of nothing else. So what is
seen changes by moves of one kind if it does so with every call and with every record, whatever the
calls answer and whichever of them fail.

* `Steady`: a system whose calls make moves of one kind; `Calm`: one whose calls do, apart from the
  starting of processes;
* `stop_calm`, `launch_calm`: so do a stop, and a launch that starts its process by such a move;
* `stop_steady`, `launch_steady`: so do a stop and a launch.
-/

namespace Respawn.Child

open Respawn.Action (Drifts)

variable {T σ ρ : Type} [Log.Logbook σ]

/-- Every call on the system and every record changes what is seen by moves of one kind. -/
structure Steady (Move : ρ → ρ → Prop) (view : σ → ρ) (h : Host T σ) : Prop where
  note (r) : Drifts Move view (.modify (Log.Logbook.note r))
  spawn (what) : Drifts Move view (h.spawn what)
  find (pid) : Drifts Move view (h.find pid)
  terminate (pid) : Drifts Move view (h.terminate pid)
  kill (pid) : Drifts Move view (h.kill pid)
  descendants (pid) : Drifts Move view (h.descendants pid)
  status (pid) : Drifts Move view (h.status pid)
  waitAll (ps time) : Drifts Move view (h.waitAll ps time)
  now : Drifts Move view h.now
  reap (pid time) : Drifts Move view (h.reap pid time)
  poll (pid) : Drifts Move view (h.poll pid)
  pipe (pid channel) : Drifts Move view (h.pipe pid channel)
  closePipe (pid channel) : Drifts Move view (h.closePipe pid channel)
  inBackground (name act) : Drifts Move view act → Drifts Move view (h.inBackground name act)

/-- The same of every call that starts no process. -/
structure Calm (Move : ρ → ρ → Prop) (view : σ → ρ) (h : Host T σ) : Prop where
  note (r) : Drifts Move view (.modify (Log.Logbook.note r))
  find (pid) : Drifts Move view (h.find pid)
  terminate (pid) : Drifts Move view (h.terminate pid)
  kill (pid) : Drifts Move view (h.kill pid)
  descendants (pid) : Drifts Move view (h.descendants pid)
  status (pid) : Drifts Move view (h.status pid)
  waitAll (ps time) : Drifts Move view (h.waitAll ps time)
  now : Drifts Move view h.now
  reap (pid time) : Drifts Move view (h.reap pid time)
  poll (pid) : Drifts Move view (h.poll pid)
  pipe (pid channel) : Drifts Move view (h.pipe pid channel)
  closePipe (pid channel) : Drifts Move view (h.closePipe pid channel)
  inBackground (name act) : Drifts Move view act → Drifts Move view (h.inBackground name act)

section Steady

variable {Move : ρ → ρ → Prop} {view : σ → ρ} {h : Host T σ}

theorem Steady.calm (hs : Steady Move view h) : Calm Move view h := { hs with }

omit [Log.Logbook σ] in
theorem unlessGone_steady {α : Type} {x otherwise : Action σ α} (hx : Drifts Move view x)
    (ho : Drifts Move view otherwise) : Drifts Move view (unlessGone x otherwise) := by
  refine hx.recover fun f y hy => ?_
  split at hy
  · cases hy
    exact ho
  · cases hy

/-! ## 1. Stops -/

theorem treeOf_calm (hs : Calm Move view h) (c : Handle) : Drifts Move view (treeOf h c) := by
  have root : Drifts Move view (rootOf h c) := by
    unfold rootOf
    split
    · exact .pure _
    · refine .bind (.bind (hs.poll c.pid) fun _ => .pure _) fun running => ?_
      split
      · exact unlessGone_steady (.bind (hs.find c.pid) fun _ => .pure _) (.pure _)
      · exact .pure _
  refine root.bind fun root => ?_
  cases root with
  | none => exact .pure _
  | some root =>
    exact .bind (unlessGone_steady (hs.descendants root) (.bind (hs.note _) fun _ => .pure _))
      fun _ => .pure _

theorem signals_calm (hs : Calm Move view h) {signal : Pid → Action σ Unit}
    (signals : ∀ pid, Drifts Move view (signal pid)) (r : Pid → Log.Record) (ps : List Pid) :
    Drifts Move view (Action.each (fun pid => unlessGone
      (do .modify (Log.Logbook.note (r pid)); signal pid) (pure ())) ps) :=
  .each (fun pid => unlessGone_steady (.bind (hs.note _) fun _ => signals pid) (.pure ())) ps

variable [LE T] [DecidableLE T]

theorem pollUntil_calm (hs : Calm Move view h) (tick deadline : T) (polls : Nat) :
    ∀ ps, Drifts Move view (pollUntil h tick deadline polls ps) := by
  have lives (pid : Pid) : Drifts Move view (lives h pid) :=
    unlessGone_steady (.bind (hs.status pid) fun _ => .pure _) (.pure _)
  induction polls with
  | zero =>
    intro ps
    cases ps with
    | nil => exact .pure []
    | cons pid ps => exact .exhausted
  | succ polls ih =>
    intro ps
    cases ps with
    | nil => exact .pure []
    | cons pid ps =>
      refine .bind (unlessGone_steady (.bind (hs.waitAll _ tick) fun _ => .pure _) (.pure _))
        fun left => ?_
      cases left with
      | none => exact .pure []
      | some left =>
        refine (Drifts.select lives left).bind fun left => hs.now.bind fun now => ?_
        split
        · exact .pure left
        · exact ih left

variable [Deferrable T]

theorem waitFor_calm (hs : Calm Move view h) (polls : Nat) (tick time : T) (ps : List Pid) :
    Drifts Move view (waitFor h polls tick time ps) :=
  hs.now.bind fun _ => .bind (.ofExcept _) fun _ => pollUntil_calm hs tick _ polls ps

variable [LT T] [DecidableLT T] [Zero T]

theorem stop_calm (hs : Calm Move view h) (plan : StopPlan T) (polls : Nat) (c : Handle) :
    Drifts Move view (stop h plan polls c) := by
  refine .bind (hs.note _) fun _ => (treeOf_calm hs c).bind fun tree => ?_
  have asked : Drifts Move view (askToEnd h plan polls tree) := by
    unfold askToEnd
    split
    · refine .bind (signals_calm hs hs.terminate _ tree) fun _ => ?_
      refine (waitFor_calm hs polls _ _ tree).bind fun left => ?_
      split
      · exact .pure left
      · exact .bind (hs.note _) fun _ => .pure left
    · exact .pure tree
  refine asked.bind fun left => .bind (signals_calm hs hs.kill _ left) fun _ => ?_
  refine (waitFor_calm hs polls _ _ left).bind fun left => ?_
  refine (hs.reap c.pid plan.patience).bind fun code => ?_
  cases code with
  | none => exact .raise _
  | some code =>
    cases left with
    | nil => exact hs.note _
    | cons pid left => exact .raise _

/-! ## 2. Launches -/

omit [LE T] [DecidableLE T] [Deferrable T] [LT T] [DecidableLT T] [Zero T] in
theorem readOutput_calm (hs : Calm Move view h) (pid : Pid) (name : String) :
    Drifts Move view (Handle.readOutput h pid name) := by
  have noted (rs : List Log.Record) : Drifts Move view (noteAll rs) := .each hs.note rs
  refine .each (fun channel => .bind (hs.pipe pid channel) fun pipe => ?_) _
  cases pipe with
  | none => exact .pure ()
  | some pipe =>
    refine hs.inBackground _ _ (.ensuring (.bind (noted _) fun _ => ?_) (hs.closePipe pid channel))
    split
    · exact .pure ()
    · split
      · exact noted _
      · exact .raise _

omit [LE T] [DecidableLE T] [Deferrable T] in
theorem seeThrough_calm (hs : Calm Move view h) (plan : LaunchPlan T) (i : Invocation)
    (pid : Pid) : Drifts Move view (seeThrough h plan i pid) := by
  have window : Drifts Move view (do
      let code ← h.reap pid plan.window
      .ofExcept (verdict i code)) := .bind (hs.reap pid _) fun _ => .ofExcept _
  have output := readOutput_calm hs pid plan.name
  unfold seeThrough
  split
  · split
    · exact .bind output fun _ => window
    · exact window
  · split
    · exact .bind output fun _ => .pure ()
    · exact .pure ()

omit [LE T] [DecidableLE T] [Deferrable T] [LT T] [DecidableLT T] [Zero T] in
/-- A process that was started is looked for once. -/
theorem found_calm (hs : Calm Move view h) (plan : LaunchPlan T) (i : Invocation) (pid : Pid) :
    Drifts Move view (do
      let found ← unlessGone (do h.find pid; pure true) (pure false)
      pure (⟨pid, found, i.argv, plan.name⟩ : Handle)) :=
  .bind (unlessGone_steady (.bind (hs.find pid) fun _ => .pure true) (.pure false))
    fun _ => .pure _

/-- What a launch does with the process that it holds. -/
theorem attended_calm (hs : Calm Move view h) (stopPlan : StopPlan T) (plan : LaunchPlan T)
    (polls : Nat) (i : Invocation) (c : Handle) : Drifts Move view (do
      (seeThrough h plan i c.pid).onFault (discard h stopPlan polls c)
      launchLog .info s!"{capitalized plan.name} started with PID: {c.pid}"
      pure c) := by
  have discarded : Drifts Move view (discard h stopPlan polls c) := by
    refine (stop_calm hs stopPlan polls c).recover fun f y hy => ?_
    split at hy
    · cases hy
      exact hs.note _
    · cases hy
  refine .bind (.onFault (seeThrough_calm hs plan i c.pid) discarded) fun _ => ?_
  exact .bind (hs.note _) fun _ => .pure c

/-- A launch starts one process only, the one for its invocation. -/
theorem launch_calm (hs : Calm Move view h) (stopPlan : StopPlan T) (plan : LaunchPlan T)
    (polls : Nat) {i : Invocation}
    (started : Drifts Move view (h.spawn ⟨i, plan.capture, plan.isolation⟩)) :
    Drifts Move view (launch h stopPlan plan polls i) := by
  have spawned : Drifts Move view (spawn h plan i) := by
    refine started.recover fun f y hy => ?_
    split at hy
    · cases hy
      exact .raise _
    · cases hy
  have held : Drifts Move view (takeHold h plan i) := spawned.bind (found_calm hs plan i)
  exact .bind (hs.note _) fun _ => held.bind (attended_calm hs stopPlan plan polls i)

/-! ## 3. All calls -/

theorem stop_steady (hs : Steady Move view h) (plan : StopPlan T) (polls : Nat) (c : Handle) :
    Drifts Move view (stop h plan polls c) := stop_calm hs.calm plan polls c

theorem launch_steady (hs : Steady Move view h) (stopPlan : StopPlan T) (plan : LaunchPlan T)
    (polls : Nat) (i : Invocation) : Drifts Move view (launch h stopPlan plan polls i) :=
  launch_calm hs.calm stopPlan plan polls (hs.spawn _)

end Steady

end Respawn.Child
