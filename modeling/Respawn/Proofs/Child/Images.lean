import Respawn.Child.Launch
import Respawn.Proofs.Actions

/-!
# Launches and stops in surroundings that agree

Where two systems answer every call alike as long as their surroundings agree, and leave them so, a
launch on the one is a launch on the other, and so is a stop.

* `Host.Mirrors`: two systems that answer alike;
* `stop_agrees`, `launch_agrees`: stops and launches on them.
-/

namespace Respawn.Child

open Respawn.Action (Agrees)

variable {T σ τ : Type} [Log.Logbook σ] [Log.Logbook τ]

/-- Where their surroundings agree, two systems answer alike, what runs in the background does so as
    well, and a record makes no difference. -/
structure Host.Mirrors (R : σ → τ → Prop) (h : Host T σ) (k : Host T τ) : Prop where
  note {s t} (r) : R s t → R (Log.Logbook.note r s) (Log.Logbook.note r t)
  spawn (what) : Agrees R (h.spawn what) (k.spawn what)
  find (pid) : Agrees R (h.find pid) (k.find pid)
  terminate (pid) : Agrees R (h.terminate pid) (k.terminate pid)
  kill (pid) : Agrees R (h.kill pid) (k.kill pid)
  descendants (pid) : Agrees R (h.descendants pid) (k.descendants pid)
  status (pid) : Agrees R (h.status pid) (k.status pid)
  waitAll (ps time) : Agrees R (h.waitAll ps time) (k.waitAll ps time)
  now : Agrees R h.now k.now
  reap (pid time) : Agrees R (h.reap pid time) (k.reap pid time)
  poll (pid) : Agrees R (h.poll pid) (k.poll pid)
  pipe (pid channel) : Agrees R (h.pipe pid channel) (k.pipe pid channel)
  closePipe (pid channel) : Agrees R (h.closePipe pid channel) (k.closePipe pid channel)
  inBackground (name) {x y} : Agrees R x y → Agrees R (h.inBackground name x) (k.inBackground name y)

variable {R : σ → τ → Prop} {h : Host T σ} {k : Host T τ}

omit [Log.Logbook σ] [Log.Logbook τ] in
theorem unlessGone_agrees {α : Type} {x otherwise : Action σ α} {y otherwise' : Action τ α}
    (hx : Agrees R x y) (ho : Agrees R otherwise otherwise') :
    Agrees R (unlessGone x otherwise) (unlessGone y otherwise') := by
  refine hx.recover fun f => ?_
  split
  · exact .some ho
  · exact .none

variable (hm : h.Mirrors R k)
include hm

theorem note_agrees (r : Log.Record) :
    Agrees R (.modify (Log.Logbook.note r) : Action σ Unit) (.modify (Log.Logbook.note r)) :=
  .modify fun _ _ => hm.note r

/-! ## 1. Stops -/

theorem treeOf_agrees (c : Handle) : Agrees R (treeOf h c) (treeOf k c) := by
  have root : Agrees R (rootOf h c) (rootOf k c) := by
    unfold rootOf
    split
    · exact .pure _
    · refine .bind (.bind (hm.poll c.pid) fun _ => .pure _) fun running => ?_
      split
      · exact unlessGone_agrees (.bind (hm.find c.pid) fun _ => .pure _) (.pure _)
      · exact .pure _
  refine root.bind fun root => ?_
  cases root with
  | none => exact .pure _
  | some root =>
    exact .bind (unlessGone_agrees (hm.descendants root) ((note_agrees hm _).bind fun _ => .pure _))
      fun _ => .pure _

theorem signals_agrees {signal : Pid → Action σ Unit} {signal' : Pid → Action τ Unit}
    (signals : ∀ pid, Agrees R (signal pid) (signal' pid)) (r : Pid → Log.Record) (ps : List Pid) :
    Agrees R
      (Action.each (fun pid => unlessGone
        (do .modify (Log.Logbook.note (r pid)); signal pid) (pure ())) ps)
      (Action.each (fun pid => unlessGone
        (do .modify (Log.Logbook.note (r pid)); signal' pid) (pure ())) ps) :=
  .each (fun pid => unlessGone_agrees ((note_agrees hm _).bind fun _ => signals pid) (.pure ())) ps

variable [LE T] [DecidableLE T]

theorem pollUntil_agrees (tick deadline : T) (polls : Nat) :
    ∀ ps, Agrees R (pollUntil h tick deadline polls ps) (pollUntil k tick deadline polls ps) := by
  have lives (pid : Pid) : Agrees R (lives h pid) (lives k pid) :=
    unlessGone_agrees (.bind (hm.status pid) fun _ => .pure _) (.pure _)
  induction polls with
  | zero =>
    intro ps
    cases ps with
    | nil => exact .pure []
    | cons pid ps => exact .exhausted
  | succ polls ih =>
    intro ps
    cases ps with
    | nil => exact .pure []
    | cons pid ps =>
      refine .bind (unlessGone_agrees (.bind (hm.waitAll _ tick) fun _ => .pure _) (.pure _))
        fun left => ?_
      cases left with
      | none => exact .pure []
      | some left =>
        refine (Agrees.select lives left).bind fun left => hm.now.bind fun now => ?_
        split
        · exact .pure left
        · exact ih left

variable [Deferrable T]

theorem waitFor_agrees (polls : Nat) (tick time : T) (ps : List Pid) :
    Agrees R (waitFor h polls tick time ps) (waitFor k polls tick time ps) :=
  hm.now.bind fun _ => (Agrees.ofExcept _).bind fun _ => pollUntil_agrees hm tick _ polls ps

variable [LT T] [DecidableLT T] [Zero T]

theorem askToEnd_agrees (plan : StopPlan T) (polls : Nat) (ps : List Pid) :
    Agrees R (askToEnd h plan polls ps) (askToEnd k plan polls ps) := by
  unfold askToEnd
  split
  · refine .bind (signals_agrees hm hm.terminate _ ps) fun _ => ?_
    refine (waitFor_agrees hm polls _ _ ps).bind fun left => ?_
    split
    · exact .pure left
    · exact (note_agrees hm _).bind fun _ => .pure left
  · exact .pure ps

theorem stop_agrees (plan : StopPlan T) (polls : Nat) (c : Handle) :
    Agrees R (stop h plan polls c) (stop k plan polls c) := by
  refine (note_agrees hm _).bind fun _ => (treeOf_agrees hm c).bind fun tree => ?_
  refine (askToEnd_agrees hm plan polls tree).bind fun left => ?_
  refine .bind (signals_agrees hm hm.kill _ left) fun _ => ?_
  refine (waitFor_agrees hm polls _ _ left).bind fun left => ?_
  refine (hm.reap c.pid plan.patience).bind fun code => ?_
  cases code with
  | none => exact .raise _
  | some code =>
    cases left with
    | nil => exact note_agrees hm _
    | cons pid left => exact .raise _

/-! ## 2. Launches -/

omit [LE T] [DecidableLE T] [Deferrable T] [LT T] [DecidableLT T] [Zero T] in
theorem readOutput_agrees (pid : Pid) (name : String) :
    Agrees R (Handle.readOutput h pid name) (Handle.readOutput k pid name) := by
  have noted (rs : List Log.Record) : Agrees R (noteAll rs : Action σ Unit) (noteAll rs) :=
    .each (note_agrees hm) rs
  refine .each (fun channel => .bind (hm.pipe pid channel) fun pipe => ?_) _
  cases pipe with
  | none => exact .pure ()
  | some pipe =>
    refine hm.inBackground _ (.ensuring (.bind (noted _) fun _ => ?_) (hm.closePipe pid channel))
    split
    · exact .pure ()
    · split
      · exact noted _
      · exact .raise _

omit [LE T] [DecidableLE T] [Deferrable T] in
theorem seeThrough_agrees (plan : LaunchPlan T) (i : Invocation) (pid : Pid) :
    Agrees R (seeThrough h plan i pid) (seeThrough k plan i pid) := by
  have window : Agrees R
      (do let code ← h.reap pid plan.window; .ofExcept (verdict i code) : Action σ Unit)
      (do let code ← k.reap pid plan.window; .ofExcept (verdict i code)) :=
    .bind (hm.reap pid _) fun _ => .ofExcept _
  have output := readOutput_agrees hm pid plan.name
  unfold seeThrough
  split
  · split
    · exact .bind output fun _ => window
    · exact window
  · split
    · exact .bind output fun _ => .pure ()
    · exact .pure ()

theorem launch_agrees (stopPlan : StopPlan T) (plan : LaunchPlan T) (polls : Nat)
    (i : Invocation) :
    Agrees R (launch h stopPlan plan polls i) (launch k stopPlan plan polls i) := by
  have spawned : Agrees R (spawn h plan i) (spawn k plan i) := by
    refine (hm.spawn _).recover fun f => ?_
    split
    · exact .some (.raise _)
    · exact .none
  have held : Agrees R (takeHold h plan i) (takeHold k plan i) :=
    spawned.bind fun pid => .bind
      (unlessGone_agrees (.bind (hm.find pid) fun _ => .pure true) (.pure false)) fun _ => .pure _
  have discarded (c : Handle) :
      Agrees R (discard h stopPlan polls c) (discard k stopPlan polls c) := by
    refine (stop_agrees hm stopPlan polls c).recover fun f => ?_
    split
    · exact .some (note_agrees hm _)
    · exact .none
  refine (note_agrees hm _).bind fun _ => held.bind fun c => ?_
  refine .bind (.onFault (seeThrough_agrees hm plan i c.pid) (discarded c)) fun _ => ?_
  exact (note_agrees hm _).bind fun _ => .pure c

end Respawn.Child
