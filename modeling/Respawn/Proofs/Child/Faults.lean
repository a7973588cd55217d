import Respawn.Child.Launch
import Respawn.Proofs.Actions

/-!
# Which faults a process call lets through

A process that is gone is passed over everywhere, and what the system refuses to spawn is a failed
start. Nothing else that a process call can end with is taken on the way: it ends the launch or the
stop it belongs to.

* `Troubled`: what the calls can end with beside that;
* `stop_raises`: a stop ends with a survivor or lets one of those faults through;
* `launch_raises`: a launch ends with a failed start or lets one of those faults through.
-/

namespace Respawn.Child

open Respawn.Action (Raises)

variable {T σ : Type}

/-- A process is gone, or something else is the matter. -/
def goneOr (p : Fault → Prop) (f : Fault) : Prop := (∃ pid, f = .noSuchProcess pid) ∨ p f

/-- A process outlived its stop, or something else is the matter. -/
def survivedOr (p : Fault → Prop) (f : Fault) : Prop := (∃ pid, f = .survived pid) ∨ p f

/-- The program did not start, or something else is the matter. -/
def unstartedOr (p : Fault → Prop) (f : Fault) : Prop :=
  (∃ argv reason code, f = .startFailed argv reason code) ∨ p f

/-- The calls on the system can fail. Beside processes that are gone and programs that cannot be
    spawned, they end with faults of which `p` is true. -/
structure Troubled (p : Fault → Prop) (h : Host T σ) : Prop where
  spawn (what) : Raises (fun f => (∃ e, f = .os e) ∨ p f) (h.spawn what)
  find (pid) : Raises (goneOr p) (h.find pid)
  terminate (pid) : Raises (goneOr p) (h.terminate pid)
  kill (pid) : Raises (goneOr p) (h.kill pid)
  descendants (pid) : Raises (goneOr p) (h.descendants pid)
  status (pid) : Raises (goneOr p) (h.status pid)
  waitAll (ps time) : Raises (goneOr p) (h.waitAll ps time)
  now : Raises p h.now
  reap (pid time) : Raises p (h.reap pid time)
  poll (pid) : Raises p (h.poll pid)
  pipe (pid channel) : Raises p (h.pipe pid channel)
  inBackground (name act) : Raises p (h.inBackground name act)

/-- The ends of both periods of a stop can be told, or what keeps from it is one of the faults. -/
def Punctual [Deferrable T] (p : Fault → Prop) (plan : StopPlan T) : Prop :=
  ∀ time ∈ [plan.grace, plan.patience], ∀ now f, Deferrable.later now time = .error f → p f

/-- Whole numbers that are small enough can be added to every amount of time. -/
theorem later_whole {i : Int} {r : Binary64} (h : Seconds.toReal (.whole i) = .ok r) (x : Seconds)
    (f : Fault) : Seconds.later x (.whole i) ≠ .error f := by
  intro failed
  cases x with
  | flag b => cases failed
  | whole j => cases failed
  | real y =>
    have sum : Seconds.later (.real y) (.whole i) = .ok (.real (y.add r)) := by
      simp only [Seconds.later, Seconds.whole?, h]
      rfl
    cases sum.symm.trans failed

theorem unlessGone_raises {α : Type} {p : Fault → Prop} {x otherwise : Action σ α}
    (hx : Raises (goneOr p) x) (ho : Raises p otherwise) : Raises p (unlessGone x otherwise) := by
  refine hx.recover (fun f _ y hy => ?_) fun f hf hn => ?_
  · split at hy
    · cases hy
      exact ho
    · cases hy
  · rcases hf with ⟨pid, rfl⟩ | hp
    · cases hn
    · exact hp

section Calls

variable [Log.Logbook σ] {h : Host T σ} {p : Fault → Prop}

theorem log_raises (level : Log.Level) (logger message : String) :
    Raises p (.log level logger message : Action σ Unit) := .modify _

/-! ## 1. Stops -/

omit [Log.Logbook σ] in
theorem rootOf_raises (ht : Troubled p h) (c : Handle) : Raises p (rootOf h c) := by
  unfold rootOf
  split
  · exact .pure _
  · refine ((ht.poll c.pid).bind fun _ => .pure _).bind fun running => ?_
    split
    · exact unlessGone_raises ((ht.find c.pid).bind fun _ => .pure _) (.pure _)
    · exact .pure _

theorem treeOf_raises (ht : Troubled p h) (c : Handle) : Raises p (treeOf h c) := by
  refine (rootOf_raises ht c).bind fun root => ?_
  cases root with
  | none => exact .pure _
  | some root =>
    have below := unlessGone_raises (ht.descendants root) ((log_raises .debug stopLogger
      s!"Process {c.pid} no longer exists, skipping children retrieval.").bind fun _ => .pure [])
    exact below.bind fun _ => .pure _

theorem terminateAll_raises (ht : Troubled p h) (ps : List Pid) : Raises p (terminateAll h ps) :=
  .each (fun pid =>
    unlessGone_raises ((log_raises _ _ _).bind fun _ => ht.terminate pid) (.pure ())) ps

theorem killAll_raises (ht : Troubled p h) (ps : List Pid) : Raises p (killAll h ps) :=
  .each (fun pid =>
    unlessGone_raises ((log_raises _ _ _).bind fun _ => ht.kill pid) (.pure ())) ps

omit [Log.Logbook σ] in
theorem lives_raises (ht : Troubled p h) (pid : Pid) : Raises p (lives h pid) :=
  unlessGone_raises ((ht.status pid).bind fun _ => .pure _) (.pure _)

variable [LE T] [DecidableLE T]

omit [Log.Logbook σ] in
theorem pollUntil_raises (ht : Troubled p h) (tick deadline : T) (polls : Nat) :
    ∀ ps, Raises p (pollUntil h tick deadline polls ps) := by
  induction polls with
  | zero =>
    intro ps
    cases ps with
    | nil => exact .pure []
    | cons pid ps => exact .exhausted
  | succ polls ih =>
    intro ps
    cases ps with
    | nil => exact .pure []
    | cons pid ps =>
      have asked := unlessGone_raises
        ((ht.waitAll (pid :: ps) tick).bind fun left => .pure (some left)) (.pure none)
      refine asked.bind fun left => ?_
      cases left with
      | none => exact .pure []
      | some left =>
        refine (Raises.select (lives_raises ht) left).bind fun left => ht.now.bind fun now => ?_
        split
        · exact .pure left
        · exact ih left

variable [Deferrable T]

omit [Log.Logbook σ] in
theorem waitFor_raises (ht : Troubled p h) (polls : Nat) (tick : T) {time : T}
    (due : ∀ now f, Deferrable.later now time = .error f → p f) (ps : List Pid) :
    Raises p (waitFor h polls tick time ps) :=
  ht.now.bind fun now => (Raises.ofExcept (due now)).bind fun deadline =>
    pollUntil_raises ht tick deadline polls ps

variable [LT T] [DecidableLT T] [Zero T] {plan : StopPlan T}

theorem askToEnd_raises (ht : Troubled p h) (hp : Punctual p plan) (polls : Nat) (ps : List Pid) :
    Raises p (askToEnd h plan polls ps) := by
  unfold askToEnd
  split
  · refine (terminateAll_raises ht ps).bind fun _ => ?_
    refine (waitFor_raises ht polls _ (hp _ List.mem_cons_self) ps).bind fun left => ?_
    split
    · exact .pure left
    · exact (log_raises _ _ _).bind fun _ => .pure left
  · exact .pure ps

/-- **A stop ends with a survivor, or a fault that nobody takes ends it.** -/
theorem stop_raises (ht : Troubled p h) (hp : Punctual p plan) (polls : Nat) (c : Handle) :
    Raises (survivedOr p) (stop h plan polls c) := by
  refine .bind (log_raises _ _ _) fun _ => ?_
  refine ((treeOf_raises ht c).mono fun _ => .inr).bind fun tree => ?_
  refine ((askToEnd_raises ht hp polls tree).mono fun _ => .inr).bind fun left => ?_
  refine ((killAll_raises ht left).mono fun _ => .inr).bind fun _ => ?_
  have due := hp plan.patience (List.mem_cons_of_mem _ List.mem_cons_self)
  refine ((waitFor_raises ht polls _ due left).mono fun _ => .inr).bind fun left => ?_
  refine ((ht.reap c.pid plan.patience).mono fun _ => .inr).bind fun code => ?_
  cases code with
  | none => exact .raise (.inl ⟨_, rfl⟩)
  | some code =>
    cases left with
    | nil => exact log_raises _ _ _
    | cons pid left => exact .raise (.inl ⟨_, rfl⟩)

/-! ## 2. Launches -/

omit [Log.Logbook σ] [LE T] [DecidableLE T] [Deferrable T] [LT T] [DecidableLT T] [Zero T] in
/-- What the system refuses to spawn is a failed start. -/
theorem spawn_raises (ht : Troubled p h) (launch : LaunchPlan T) (i : Invocation) :
    Raises (unstartedOr p) (spawn h launch i) := by
  refine (ht.spawn _).recover (fun f _ y hy => ?_) fun f hf hn => ?_
  · split at hy
    · cases hy
      exact .raise (.inl ⟨_, _, _, rfl⟩)
    · cases hy
  · rcases hf with ⟨e, rfl⟩ | hp
    · cases hn
    · exact .inr hp

/-- A survivor of the cleanup is told to the log alone. -/
theorem discard_raises (ht : Troubled p h) (hp : Punctual p plan) (polls : Nat) (c : Handle) :
    Raises p (discard h plan polls c) := by
  refine (stop_raises ht hp polls c).recover (fun f _ y hy => ?_) fun f hf hn => ?_
  · split at hy
    · cases hy
      exact log_raises _ _ _
    · cases hy
  · rcases hf with ⟨pid, rfl⟩ | hp
    · cases hn
    · exact hp

omit [LE T] [DecidableLE T] [Deferrable T] [LT T] [DecidableLT T] [Zero T] in
theorem readOutput_raises (ht : Troubled p h) (pid : Pid) (name : String) :
    Raises p (Handle.readOutput h pid name) := .each (fun channel =>
  (ht.pipe pid channel).bind fun pipe => by
    cases pipe with
    | none => exact .pure ()
    | some pipe => exact ht.inBackground _ _) _

omit [LE T] [DecidableLE T] [Deferrable T] in
theorem seeThrough_raises (ht : Troubled p h) (launch : LaunchPlan T) (i : Invocation) (pid : Pid) :
    Raises (unstartedOr p) (seeThrough h launch i pid) := by
  have window : Raises (unstartedOr p) (do
      let code ← h.reap pid launch.window
      .ofExcept (verdict i code)) := by
    refine ((ht.reap pid _).mono fun _ => .inr).bind fun code => .ofExcept fun f hf => ?_
    unfold verdict at hf
    split at hf
    · cases hf
    · split at hf
      · cases hf
      · cases hf
        exact .inl ⟨_, _, _, rfl⟩
  have output : Raises (unstartedOr p) (Handle.readOutput h pid launch.name) :=
    (readOutput_raises ht pid launch.name).mono fun _ => .inr
  unfold seeThrough
  split
  · split
    · exact output.bind fun _ => window
    · exact window
  · split
    · exact output.bind fun _ => .pure ()
    · exact .pure ()

/-- **A launch ends with a failed start, or a fault that nobody takes ends it.** -/
theorem launch_raises (ht : Troubled p h) (hp : Punctual p plan) (launch : LaunchPlan T)
    (polls : Nat) (i : Invocation) :
    Raises (unstartedOr p) (Child.launch h plan launch polls i) := by
  have held := (spawn_raises ht launch i).bind fun pid =>
    ((unlessGone_raises ((ht.find pid).bind fun _ => .pure true) (.pure false)).mono
      fun _ => .inr).bind fun found => .pure (⟨pid, found, i.argv, launch.name⟩ : Handle)
  refine .bind (log_raises _ _ _) fun _ => held.bind fun c => ?_
  refine ((seeThrough_raises ht launch i c.pid).onFault
    ((discard_raises ht hp polls c).mono fun _ => .inr)).bind fun _ => ?_
  exact (log_raises _ _ _).bind fun _ => .pure c

end Calls

end Respawn.Child
