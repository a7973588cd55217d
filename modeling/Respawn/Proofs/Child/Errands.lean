import Respawn.Proofs.Child.Images
import Respawn.Proofs.Child.Steady

/-!
# What the system was asked for

A ledger can be kept beside a system of what it is asked for about processes, in order: what is to be
started, who gets which signal, who is waited for and who is asked for its exit code. The ledger
changes nothing of what happens, and where two systems answer alike they are asked for the same.

* `Host.recorded`: a system with such a ledger;
* `recorded_mirrors`: without its ledger it is the system it was;
* `Host.Mirrors.recorded`: where two systems answer alike, the ledgers stay the same;
* `launch_asks`, `stop_asks`: a launch starts nothing but what it is given, and a stop starts nothing;
* `launch_spawns`: whatever the system answers, a launch asks for its process.
-/

namespace Respawn.Child

open Respawn.Action (Agrees Beside Drifts Ends Without)
open Relation (ReflTransGen)

variable {T σ τ α : Type}

/-! ## 1. The ledger -/

/-- What a system can be asked to do about processes. -/
inductive Errand (T : Type) where
  | spawn (what : Spawn)
  | find (pid : Pid)
  | terminate (pid : Pid)
  | kill (pid : Pid)
  | descendants (pid : Pid)
  | status (pid : Pid)
  | waitAll (pids : List Pid) (time : T)
  | reap (pid : Pid) (time : T)
  | poll (pid : Pid)
  deriving Repr

/-- A request that is written down. -/
def noting (d : Errand T) (x : Action σ α) : Action (List (Errand T) × σ) α := fun y =>
  ((x y.2).1, y.1 ++ [d], (x y.2).2)

/-- What an action does to the second half of a state whose first half is given. -/
def given {ρ : Type} (r : ρ) (x : Action (ρ × σ) α) : Action σ α := fun s =>
  ((x (r, s)).1, (x (r, s)).2.2)

/-- The system with a ledger. What runs in the background asks for nothing about processes. -/
def Host.recorded (h : Host T σ) : Host T (List (Errand T) × σ) where
  spawn what := noting (.spawn what) (h.spawn what)
  find pid := noting (.find pid) (h.find pid)
  terminate pid := noting (.terminate pid) (h.terminate pid)
  kill pid := noting (.kill pid) (h.kill pid)
  descendants pid := noting (.descendants pid) (h.descendants pid)
  status pid := noting (.status pid) (h.status pid)
  waitAll pids time := noting (.waitAll pids time) (h.waitAll pids time)
  now := h.now.inner
  reap pid time := noting (.reap pid time) (h.reap pid time)
  poll pid := noting (.poll pid) (h.poll pid)
  pipe pid channel := (h.pipe pid channel).inner
  closePipe pid channel := (h.closePipe pid channel).inner
  inBackground name act := fun y => (h.inBackground name (given y.1 act)).inner y

/-! ## 2. What the ledger changes -/

theorem noting_without (d : Errand T) (x : Action σ α) : Agrees Without (noting d x) x := by
  rintro y _ rfl
  exact ⟨rfl, rfl⟩

theorem noting_agrees {R : σ → τ → Prop} {x : Action σ α} {y : Action τ α} (h : Agrees R x y)
    (d : Errand T) : Agrees (Beside R) (noting d x) (noting d y) := fun s t hst =>
  ⟨(h s.2 t.2 hst.2).1, congrArg (· ++ [d]) hst.1, (h s.2 t.2 hst.2).2⟩

variable [Log.Logbook σ] [Log.Logbook τ]

omit [Log.Logbook τ] in
/-- Without its ledger, the system is what it was. -/
theorem recorded_mirrors (h : Host T σ) : h.recorded.Mirrors Without h where
  note r same := congrArg (Log.Logbook.note r) same
  spawn _ := noting_without _ _
  find _ := noting_without _ _
  terminate _ := noting_without _ _
  kill _ := noting_without _ _
  descendants _ := noting_without _ _
  status _ := noting_without _ _
  waitAll _ _ := noting_without _ _
  now := .inner_without _
  reap _ _ := noting_without _ _
  poll _ := noting_without _ _
  pipe _ _ := .inner_without _
  closePipe _ _ := .inner_without _
  inBackground name act act' same := by
    rintro y _ rfl
    -- with any ledger given the first action is the second one
    have plain : given y.1 act = act' := funext fun s =>
      have h := same (y.1, s) s rfl
      Prod.ext h.1 h.2
    exact plain ▸ ⟨rfl, rfl⟩

/-- **Where two systems answer alike, they are asked for the same.** -/
theorem Host.Mirrors.recorded {R : σ → τ → Prop} {h : Host T σ} {k : Host T τ}
    (hm : h.Mirrors R k) : h.recorded.Mirrors (Beside R) k.recorded where
  note r same := ⟨same.1, hm.note r same.2⟩
  spawn what := noting_agrees (hm.spawn what) _
  find pid := noting_agrees (hm.find pid) _
  terminate pid := noting_agrees (hm.terminate pid) _
  kill pid := noting_agrees (hm.kill pid) _
  descendants pid := noting_agrees (hm.descendants pid) _
  status pid := noting_agrees (hm.status pid) _
  waitAll pids time := noting_agrees (hm.waitAll pids time) _
  now := hm.now.inner
  reap pid time := noting_agrees (hm.reap pid time) _
  poll pid := noting_agrees (hm.poll pid) _
  pipe pid channel := (hm.pipe pid channel).inner
  closePipe pid channel := (hm.closePipe pid channel).inner
  inBackground name act act' same := by
    rintro ⟨l, s⟩ ⟨_, t⟩ ⟨rfl, hst⟩
    have given : Agrees R (given l act) (given l act') := fun s t hst =>
      have h := same (l, s) (l, t) ⟨rfl, hst⟩
      ⟨h.1, h.2.2⟩
    have h := hm.inBackground name given s t hst
    exact ⟨h.1, rfl, h.2⟩

/-! ## 3. What is started -/

/-- One more request, which starts nothing but the invocation. -/
def Asks (i : Invocation) (l l' : List (Errand T)) : Prop :=
  ∃ d, l' = l ++ [d] ∧ ∀ what, d = .spawn what → what.invocation = i

/-- Nothing was started but the invocation. -/
def Only (i : Invocation) (l : List (Errand T)) : Prop :=
  ∀ what, .spawn what ∈ l → what.invocation = i

theorem Only.asks {i : Invocation} {l l' : List (Errand T)} (h : Only i l)
    (moves : ReflTransGen (Asks i) l l') : Only i l' := by
  induction moves with
  | refl => exact h
  | tail _ step ih =>
    obtain ⟨d, rfl, told⟩ := step
    intro what hw
    rcases List.mem_append.1 hw with before | last
    · exact ih what before
    · exact told what (List.mem_singleton.1 last).symm

/-- What was asked for stays in the ledger. -/
theorem mem_of_asks {i : Invocation} {d : Errand T} {l l' : List (Errand T)}
    (moves : ReflTransGen (Asks i) l l') (h : d ∈ l) : d ∈ l' := by
  induction moves with
  | refl => exact h
  | tail _ step ih =>
    obtain ⟨e, rfl, -⟩ := step
    exact List.mem_append_left _ ih

omit [Log.Logbook σ] in
theorem noting_asks {i : Invocation} {d : Errand T}
    (h : ∀ what, d = .spawn what → what.invocation = i)
    (x : Action σ α) : Drifts (Asks i) Prod.fst (noting d x) := .of_move fun _ => ⟨d, rfl, h⟩

theorem recorded_calm (i : Invocation) (h : Host T σ) : Calm (Asks i) Prod.fst h.recorded where
  note _ := .of_eq fun _ => rfl
  find _ := noting_asks (by nofun) _
  terminate _ := noting_asks (by nofun) _
  kill _ := noting_asks (by nofun) _
  descendants _ := noting_asks (by nofun) _
  status _ := noting_asks (by nofun) _
  waitAll _ _ := noting_asks (by nofun) _
  now := .of_eq fun _ => rfl
  reap _ _ := noting_asks (by nofun) _
  poll _ := noting_asks (by nofun) _
  pipe _ _ := .of_eq fun _ => rfl
  closePipe _ _ := .of_eq fun _ => rfl
  inBackground _ _ _ := .of_eq fun _ => rfl

variable [LE T] [DecidableLE T] [Deferrable T] [LT T] [DecidableLT T] [Zero T]

theorem stop_asks (i : Invocation) (h : Host T σ) (plan : StopPlan T) (polls : Nat) (c : Handle) :
    Drifts (Asks i) Prod.fst (stop h.recorded plan polls c) :=
  stop_calm (recorded_calm i h) plan polls c

theorem launch_asks (i : Invocation) (h : Host T σ) (stopPlan : StopPlan T) (plan : LaunchPlan T)
    (polls : Nat) : Drifts (Asks i) Prod.fst (launch h.recorded stopPlan plan polls i) := by
  refine launch_calm (recorded_calm i h) stopPlan plan polls (noting_asks ?_ _)
  rintro _ ⟨⟩
  rfl

/-- What a launch asks for first. -/
def LaunchPlan.request (plan : LaunchPlan T) (i : Invocation) : Errand T :=
  .spawn ⟨i, plan.capture, plan.isolation⟩

/-- **A launch asks for its process before it asks for anything else.** Whatever the system answers,
    the request is made. -/
theorem launch_spawns (i : Invocation) (h : Host T σ) (stopPlan : StopPlan T) (plan : LaunchPlan T)
    (polls : Nat) (y : List (Errand T) × σ) : Ends (launch h.recorded stopPlan plan polls i) y
      fun _ z => ReflTransGen (Asks i) (y.1 ++ [plan.request i]) z.1 := by
  have calm := recorded_calm i h
  obtain ⟨l, s⟩ := y
  have requested (t : σ) : Ends (h.recorded.spawn ⟨i, plan.capture, plan.isolation⟩) (l, t)
    fun _ z => ReflTransGen (Asks i) (l ++ [plan.request i]) z.1 := .refl
  have spawned (t : σ) : Ends (spawn h.recorded plan i) (l, t)
      fun _ z => ReflTransGen (Asks i) (l ++ [plan.request i]) z.1 := by
    refine (requested t).recover (fun _ _ asked => asked) (fun f z act asked told => ?_)
      (fun _ _ asked _ => asked) fun _ asked => asked
    -- a refusal is told as a failed start, which asks for nothing
    split at told
    · cases told
      exact asked
    · cases told
  have held (t : σ) : Ends (takeHold h.recorded plan i) (l, t)
      fun _ z => ReflTransGen (Asks i) (l ++ [plan.request i]) z.1 :=
    (spawned t).seq (fun _ asked => asked) fun pid z asked =>
      asked.trans (found_calm calm plan i pid z)
  exact Ends.of_modify ((held _).seq (fun _ asked => asked) fun c z asked =>
    asked.trans (attended_calm calm stopPlan plan polls i c z))

end Respawn.Child
