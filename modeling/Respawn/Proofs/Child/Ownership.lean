import Respawn.Proofs.Child.Nursery
import Respawn.Proofs.Child.Verdict

/-!
# Who owns a process that was started

From the moment a process has been started it is either handed out with the handle on it, or a stop
has been run on it before the fault leaves. There is one gap: a fault of the look-up of its number
leaves at once, and nobody owns the process then. A stop that ends by a fault of its own has that one
take the place of the first.

* `Fate`: what becomes of a process that was started;
* `launch_fate`: each launch gives its process one of these fates;
* `launch_owned`: and it tells of a failed start exactly where there was one and the stop after it
  did not fail.
-/

namespace Respawn.Child

open Respawn.Action (Ends Raises)

variable {T σ : Type}

/-! ## 1. The steps of a launch -/

/-- Looks a process up by its number. -/
def lookUp (h : Host T σ) (pid : Pid) : Action σ Bool :=
  unlessGone (do h.find pid; pure true) (pure false)

/-- The handle that a launch gives on a process. -/
def handleOn (plan : LaunchPlan T) (i : Invocation) (pid : Pid) (found : Bool) : Handle :=
  ⟨pid, found, i.argv, plan.name⟩

/-- Only a fault of another kind than that the process is gone ends the look-up. -/
theorem lookUp_raised {h : Host T σ} {pid : Pid} {s t : σ} {f : Fault}
    (hl : lookUp h pid s = (.raised f, t)) : h.find pid s = (.raised f, t) ∧ ¬ Missing f := by
  have asked : Ends (do h.find pid; pure true : Action σ Bool) s fun o t =>
      ∀ f, o = .raised f → h.find pid s = (.raised f, t) := by
    refine (Ends.here (h.find pid) s).bind (fun _ _ _ _ => nofun) (fun f t ht g hg => ?_)
      fun _ _ _ => nofun
    cases hg
    exact ht
  have looked : Ends (lookUp h pid) s fun o t =>
      ∀ f, o = .raised f → h.find pid s = (.raised f, t) ∧ ¬ Missing f := by
    refine asked.recover (fun _ _ _ _ => nofun) (fun f t y _ hy => ?_) (fun f t hf hn g hg => ?_)
      fun _ _ _ => nofun
    · split at hy
      · cases hy
        exact fun _ => nofun
      · cases hy
    · cases hg
      refine ⟨hf f rfl, fun missing => ?_⟩
      obtain ⟨n, rfl⟩ := missing
      cases hn
  exact looked.result hl f rfl

variable [Log.Logbook σ]

/-- Attaches the readers of the output. -/
def attach (h : Host T σ) (plan : LaunchPlan T) (pid : Pid) : Action σ Unit :=
  if plan.capture then Handle.readOutput h pid plan.name else pure ()

section Window

variable [LT T] [DecidableLT T] [Zero T]

/-- Watches a process through the startup window. -/
def watch (h : Host T σ) (plan : LaunchPlan T) (i : Invocation) (pid : Pid) : Action σ Unit :=
  if 0 < plan.window then do
    let code ← h.reap pid plan.window
    .ofExcept (verdict i code)
  else pure ()

theorem seeThrough_eq (h : Host T σ) (plan : LaunchPlan T) (i : Invocation) (pid : Pid) :
    seeThrough h plan i pid = attach h plan pid >>= fun _ => watch h plan i pid := by
  unfold seeThrough attach watch
  by_cases captured : plan.capture = true
  · rw [if_pos captured, if_pos captured]
  · rw [if_neg captured, if_neg captured]
    rfl

/-- The process ends with a failure within a window that is open. -/
def DiesEarly (h : Host T σ) (plan : LaunchPlan T) (pid : Pid) (code : Int) (s t : σ) : Prop :=
  ∃ u, attach h plan pid s = (.done (), u) ∧ 0 < plan.window ∧
    h.reap pid plan.window u = (.done (some code), t) ∧ code ≠ 0

/-- A process that ends with a failure has not started. -/
theorem DiesEarly.fails {h : Host T σ} {plan : LaunchPlan T} {pid : Pid} {code : Int} {s t : σ}
    (hd : DiesEarly h plan pid code s t) (i : Invocation) : seeThrough h plan i pid s =
      (.raised (.startFailed i.argv s!"exited with code {code}" (.int code)), t) := by
  obtain ⟨u, attached, isOpen, reaped, failure⟩ := hd
  have watched : watch h plan i pid u =
      (.raised (.startFailed i.argv s!"exited with code {code}" (.int code)), t) := by
    rw [watch, if_pos isOpen, Action.bind_done reaped, verdict_of_failure i failure]
    rfl
  rw [seeThrough_eq, Action.bind_done attached, watched]

/-- A fault that tells of a failed start. -/
def StartFailure (f : Fault) : Prop := ∃ argv reason code, f = .startFailed argv reason code

/-- Nothing else is told of as a failed start. -/
theorem DiesEarly.of_failure {p : Fault → Prop} {h : Host T σ} (ht : Troubled p h)
    (apart : ∀ f, p f → ¬ StartFailure f) {plan : LaunchPlan T} {i : Invocation} {pid : Pid}
    {s t : σ} {f : Fault} (fails : seeThrough h plan i pid s = (.raised f, t))
    (hf : StartFailure f) : ∃ code, DiesEarly h plan pid code s t := by
  have readers : Raises p (attach h plan pid) := by
    unfold attach
    split
    · exact readOutput_raises ht pid plan.name
    · exact .pure ()
  have attached := (readers.ends s).and (.here (attach h plan pid) s)
  have watched : Ends (seeThrough h plan i pid) s fun o t =>
      ∀ f, o = .raised f → StartFailure f → ∃ code, DiesEarly h plan pid code s t := by
    rw [seeThrough_eq]
    refine attached.bind (fun _ u hu => ?_) (fun f u hu g hg failure => ?_) fun _ _ _ => nofun
    · unfold watch
      split
      · next isOpen =>
        have reaped := ((ht.reap pid plan.window).ends u).and (.here (h.reap pid plan.window) u)
        refine reaped.bind (fun code v hv f hf failure => ?_) (fun f v hv g hg failure => ?_)
          fun _ _ _ => nofun
        · cases code with
          | none => cases hf
          | some code =>
            by_cases zero : code = 0
            · rw [zero] at hf
              cases hf
            · show ∃ code', DiesEarly h plan pid code' s (Action.ofExcept (verdict i (some code)) v).2
              rw [verdict_of_failure i zero]
              exact ⟨code, u, hu.2, isOpen, hv.2, zero⟩
        · cases hg
          exact absurd failure (apart f (hv.1 f rfl))
      · exact fun f => nofun
    · cases hg
      exact absurd failure (apart f (hu.1 f rfl))
  exact watched.result fails f rfl hf

end Window

/-! ## 2. What becomes of the process -/

variable [Deferrable T] [LT T] [DecidableLT T] [LE T] [DecidableLE T] [Zero T]

/-- The look-up of a process, the watch over it or the stop of it does not come to an end. -/
def Endless (h : Host T σ) (stopPlan : StopPlan T) (plan : LaunchPlan T) (polls : Nat)
    (i : Invocation) (pid : Pid) (s : σ) : Prop :=
  (lookUp h pid s).1 = .unfinished ∨ ∃ found t, lookUp h pid s = (.done found, t) ∧
    ((seeThrough h plan i pid t).1 = .unfinished ∨ ∃ f u, seeThrough h plan i pid t = (.raised f, u) ∧
      (stop h stopPlan polls (handleOn plan i pid found) u).1 = .unfinished)

/-- What becomes of a process that a launch has started, from the state in which it was there: it is
    handed out, or it is stopped and the fault that was met leaves, or the fault of that stop does. If
    the look-up ends by a fault, the process is lost. -/
inductive Fate (h : Host T σ) (stopPlan : StopPlan T) (plan : LaunchPlan T) (polls : Nat)
    (i : Invocation) (pid : Pid) (s : σ) : Outcome Handle → σ → Prop
  | owned {found t u} (looked : lookUp h pid s = (.done found, t))
      (seen : seeThrough h plan i pid t = (.done (), u)) :
    Fate h stopPlan plan polls i pid s (.done (handleOn plan i pid found))
      (launchLog .info s!"{capitalized plan.name} started with PID: {pid}" u).2
  | stopped {found t f u v} (looked : lookUp h pid s = (.done found, t))
      (fails : seeThrough h plan i pid t = (.raised f, u))
      (stops : stop h stopPlan polls (handleOn plan i pid found) u = (.done (), v)) :
    Fate h stopPlan plan polls i pid s (.raised f) v
  | survives {found t f u q v} (looked : lookUp h pid s = (.done found, t))
      (fails : seeThrough h plan i pid t = (.raised f, u))
      (stops : stop h stopPlan polls (handleOn plan i pid found) u =
        (.raised (.complaint (.childSurvived q)), v)) :
    Fate h stopPlan plan polls i pid s (.raised f) (launchLog .critical
      s!"Could not clean up {plan.name} after an aborted start: {Fault.complaint (.childSurvived q)}" v).2
  | masked {found t f u g v} (looked : lookUp h pid s = (.done found, t))
      (fails : seeThrough h plan i pid t = (.raised f, u))
      (stops : stop h stopPlan polls (handleOn plan i pid found) u = (.raised g, v))
      (other : ∀ q, g ≠ .complaint (.childSurvived q)) : Fate h stopPlan plan polls i pid s (.raised g) v
  | lost {f t} (looked : lookUp h pid s = (.raised f, t)) (found : h.find pid s = (.raised f, t))
      (hf : ¬ Missing f) : Fate h stopPlan plan polls i pid s (.raised f) t
  | stuck {z} (endless : Endless h stopPlan plan polls i pid s) :
    Fate h stopPlan plan polls i pid s .unfinished z

section Launch

variable {h : Host T σ} {stopPlan : StopPlan T} {plan : LaunchPlan T} {polls : Nat}
  {i : Invocation} {pid : Pid} {s t : σ}

/-- What leaves a launch if the system ends the spawning by a fault: what it refuses is a failed
    start. -/
def refusal (i : Invocation) : Fault → Fault
  | .os e => .startFailed i.argv e.message .null
  | f => f

theorem refusal_cases (i : Invocation) (f : Fault) : refusal i f = f ∨ ∃ e, f = .os e := by
  cases f with
  | os e => exact .inr ⟨e, rfl⟩
  | _ => exact .inl rfl

/-- Once the process is there, a launch is what is left of it. -/
theorem launch_spawned (spawned : h.spawn ⟨i, plan.capture, plan.isolation⟩ (hail plan i s).2 =
    (.done pid, t)) : launch h stopPlan plan polls i s = (do
      let found ← lookUp h pid
      (seeThrough h plan i pid).onFault (discard h stopPlan polls (handleOn plan i pid found))
      launchLog .info s!"{capitalized plan.name} started with PID: {pid}"
      pure (handleOn plan i pid found)) t := by
  have taken : spawn h plan i (hail plan i s).2 = (.done pid, t) :=
    Action.recover_of_done spawned _
  have parts (k : Handle → Action σ Handle) : takeHold h plan i >>= k = (do
      let pid ← spawn h plan i
      let found ← lookUp h pid
      k (handleOn plan i pid found)) := by
    simp only [takeHold, lookUp, Action.bind_assoc]
    rfl
  exact (congrFun (parts _) _).trans (Action.bind_done taken _)

/-- The fault that was met leaves, unless the stop ends by one that is no survival. -/
theorem discard_fate {found : Bool} {t u v : σ} {f : Fault} (looked : lookUp h pid t = (.done found, u))
    (fails : seeThrough h plan i pid u = (.raised f, v)) :
    Ends (discard h stopPlan polls (handleOn plan i pid found)) v fun o z => match o with
      | .done _ => Fate h stopPlan plan polls i pid t (.raised f) z
      | .raised g => Fate h stopPlan plan polls i pid t (.raised g) z
      | .unfinished => Endless h stopPlan plan polls i pid t := by
  refine (Ends.here (stop h stopPlan polls (handleOn plan i pid found)) v).recover
    (fun _ _ stops => .stopped looked fails stops) (fun g w y stops hy => ?_)
    (fun g w stops hn => .masked looked fails stops fun q survival => ?_)
    fun w stops => .inr ⟨found, u, looked, .inr ⟨f, v, fails, by rw [stops]⟩⟩
  · split at hy
    · cases hy
      exact .survives looked fails stops
    · cases hy
  · subst survival
    cases hn

/-- **Each launch gives the process that it has started one of these fates.** -/
theorem launch_fate (spawned : h.spawn ⟨i, plan.capture, plan.isolation⟩ (hail plan i s).2 =
    (.done pid, t)) :
    Ends (launch h stopPlan plan polls i) s (Fate h stopPlan plan polls i pid t) := by
  unfold Ends
  rw [launch_spawned spawned]
  refine (Ends.here (lookUp h pid) t).bind (fun found u looked => ?_) (fun f u looked => ?_)
    fun u looked => .stuck (.inl (by rw [looked]))
  · refine Ends.bind (P := fun o z => match o with
      | .done _ => seeThrough h plan i pid u = (.done (), z)
      | .raised f => Fate h stopPlan plan polls i pid t (.raised f) z
      | .unfinished => Endless h stopPlan plan polls i pid t) ?_
      (fun _ v seen => .owned looked seen) (fun f v fate => fate) fun _ endless => .stuck endless
    refine (Ends.here (seeThrough h plan i pid) u).recover (fun _ _ seen => seen)
      (fun f v y fails hy => ?_) (fun f v _ hn => nomatch hn)
      fun v seen => .inr ⟨found, u, looked, .inl (by rw [seen])⟩
    cases hy
    refine Ends.bind (x := discard h stopPlan polls (handleOn plan i pid found))
      (discard_fate looked fails) (fun _ _ fate => fate) (fun _ _ fate => fate)
      fun _ endless => endless
  · obtain ⟨found, other⟩ := lookUp_raised looked
    exact .lost looked found other

theorem launch_stuck (stuck : h.spawn ⟨i, plan.capture, plan.isolation⟩ (hail plan i s).2 =
    (.unfinished, t)) : launch h stopPlan plan polls i s = (.unfinished, t) := by
  have taken : spawn h plan i (hail plan i s).2 = (.unfinished, t) := by
    unfold spawn Action.recover
    rw [stuck]
  exact Action.bind_unfinished (Action.bind_unfinished taken _) _

omit [LT T] [DecidableLT T] [Zero T] [Deferrable T] [LE T] [DecidableLE T] [Log.Logbook σ] in
theorem spawn_refused {f : Fault} {s : σ}
    (refused : h.spawn ⟨i, plan.capture, plan.isolation⟩ s = (.raised f, t)) :
    spawn h plan i s = (.raised (refusal i f), t) := by
  unfold spawn Action.recover
  rw [refused]
  cases f <;> rfl

theorem launch_unspawned {f : Fault} (refused : h.spawn ⟨i, plan.capture, plan.isolation⟩
    (hail plan i s).2 = (.raised f, t)) :
    launch h stopPlan plan polls i s = (.raised (refusal i f), t) :=
  Action.bind_raised (Action.bind_raised (spawn_refused refused) _) _

/-- The stop was done, or it told of a survivor. -/
def Cleaned (o : Outcome Unit) : Prop :=
  o = .done () ∨ ∃ q, o = .raised (.complaint (.childSurvived q))

/-- A process that has died early and was stopped makes a failed start. -/
theorem Fate.of_dead {found : Bool} {code : Int} {u v z : σ} {o : Outcome Handle}
    (looked : lookUp h pid t = (.done found, u)) (dead : DiesEarly h plan pid code u v)
    (cleaned : Cleaned (stop h stopPlan polls (handleOn plan i pid found) v).1)
    (fate : Fate h stopPlan plan polls i pid t o z) :
    o = .raised (.startFailed i.argv s!"exited with code {code}" (.int code)) := by
  have fails := dead.fails i
  cases fate with
  | owned looked' seen =>
    cases looked.symm.trans looked'
    cases fails.symm.trans seen
  | stopped looked' fails' stops =>
    cases looked.symm.trans looked'
    cases fails.symm.trans fails'
    rfl
  | survives looked' fails' stops =>
    cases looked.symm.trans looked'
    cases fails.symm.trans fails'
    rfl
  | masked looked' fails' stops other =>
    cases looked.symm.trans looked'
    cases fails.symm.trans fails'
    rw [stops] at cleaned
    rcases cleaned with never | ⟨q, survival⟩
    · cases never
    · cases survival
      exact absurd rfl (other q)
  | lost looked' found hf => cases looked.symm.trans looked'
  | stuck endless =>
    rcases endless with never | ⟨found', u', looked', never | ⟨f, v', fails', never⟩⟩
    · rw [looked] at never
      cases never
    · cases looked.symm.trans looked'
      rw [fails] at never
      cases never
    · cases looked.symm.trans looked'
      cases fails.symm.trans fails'
      rw [never] at cleaned
      rcases cleaned with never | ⟨q, never⟩ <;> cases never

/-- A fate that is a failed start is that of a process that has died early and was stopped. -/
theorem Fate.dead {p : Fault → Prop} (ht : Troubled p h) (hp : Punctual p stopPlan)
    (apart : ∀ f, p f → ¬ StartFailure f) {f : Fault} {z : σ}
    (fate : Fate h stopPlan plan polls i pid t (.raised f) z) (failure : StartFailure f) :
    ∃ found u code v, lookUp h pid t = (.done found, u) ∧ DiesEarly h plan pid code u v ∧
      Cleaned (stop h stopPlan polls (handleOn plan i pid found) v).1 := by
  cases fate with
  | stopped looked fails stops =>
    obtain ⟨code, dead⟩ := DiesEarly.of_failure ht apart fails failure
    exact ⟨_, _, code, _, looked, dead, .inl (by rw [stops])⟩
  | survives looked fails stops =>
    obtain ⟨code, dead⟩ := DiesEarly.of_failure ht apart fails failure
    exact ⟨_, _, code, _, looked, dead, .inr ⟨_, by rw [stops]⟩⟩
  | masked looked fails stops other =>
    rcases stop_raises ht hp polls _ _ f (by rw [stops]) with ⟨q, rfl⟩ | hf
    · exact absurd rfl (other _)
    · exact absurd failure (apart f hf)
  | lost looked found hf =>
    rcases ht.find pid _ f (by rw [found]) with missing | hf'
    · exact absurd missing hf
    · exact absurd failure (apart f hf')

/-- **A process that was started is owned, or it was stopped, or its look-up has failed**; and a
    failed start is told of exactly if there was one and the stop after it did not fail otherwise. -/
theorem launch_owned {p : Fault → Prop} (ht : Troubled p h) (hp : Punctual p stopPlan)
    (apart : ∀ f, p f → ¬ StartFailure f) (plan : LaunchPlan T) (polls : Nat) (i : Invocation)
    (s : σ) : Ends (launch h stopPlan plan polls i) s fun o z =>
      (∀ pid t, h.spawn ⟨i, plan.capture, plan.isolation⟩ (hail plan i s).2 = (.done pid, t) →
        Fate h stopPlan plan polls i pid t o z) ∧
      ((∃ f, o = .raised f ∧ StartFailure f) ↔
        (∃ e t, h.spawn ⟨i, plan.capture, plan.isolation⟩ (hail plan i s).2 =
          (.raised (.os e), t)) ∨
        ∃ pid t found u code v,
          h.spawn ⟨i, plan.capture, plan.isolation⟩ (hail plan i s).2 = (.done pid, t) ∧
          lookUp h pid t = (.done found, u) ∧ DiesEarly h plan pid code u v ∧
          Cleaned (stop h stopPlan polls (handleOn plan i pid found) v).1) := by
  have fate {pid : Pid} {t : σ} (spawned : h.spawn ⟨i, plan.capture, plan.isolation⟩
      (hail plan i s).2 = (.done pid, t)) :
      Ends (launch h stopPlan plan polls i) s (Fate h stopPlan plan polls i pid t) :=
    launch_fate spawned
  refine ⟨fun pid t spawned => fate spawned, fun failed => ?_, fun cause => ?_⟩
  · obtain ⟨f, raised, failure⟩ := failed
    rcases hs : h.spawn ⟨i, plan.capture, plan.isolation⟩ (hail plan i s).2 with ⟨r, t⟩
    cases r with
    | unfinished =>
      rw [launch_stuck hs] at raised
      cases raised
    | raised g =>
      rw [launch_unspawned hs] at raised
      rcases ht.spawn _ _ g (by rw [hs]) with ⟨e, rfl⟩ | hg
      · exact .inl ⟨e, t, rfl⟩
      · rcases refusal_cases i g with same | ⟨e, rfl⟩
        · rw [same] at raised
          cases raised
          exact absurd failure (apart f hg)
        · exact .inl ⟨e, t, rfl⟩
    | done pid =>
      have ended := fate hs
      unfold Ends at ended
      rw [raised] at ended
      obtain ⟨found, u, code, v, looked, dead, cleaned⟩ := ended.dead ht hp apart failure
      exact .inr ⟨pid, t, found, u, code, v, rfl, looked, dead, cleaned⟩
  · rcases cause with ⟨e, t, refused⟩ | ⟨pid, t, found, u, code, v, spawned, looked, dead, cleaned⟩
    · rw [launch_unspawned refused]
      exact ⟨_, rfl, _, _, _, rfl⟩
    · exact ⟨_, Fate.of_dead looked dead cleaned (fate spawned), _, _, _, rfl⟩

end Launch

/-! ## 3. A process that is lost -/

section Lost

/-- A nursery in which an interrupt arrives while a process is looked up. -/
def distracted : Host Seconds Nursery :=
  { Nursery.host with
    find := fun _ => .raise .interrupted
    inBackground := fun _ _ => pure () }

theorem ask_raises {α : Type} {p : Fault → Prop} (pid : Pid) (answer : Nursery → α) :
    Raises (goneOr p) (Nursery.ask pid answer) := by
  intro s f hf
  unfold Nursery.ask at hf
  split at hf
  · cases hf
  · cases hf
    exact .inl ⟨pid, rfl⟩

theorem troubled_distracted : Troubled (· = .interrupted) distracted where
  spawn _ _ _ := nofun
  find _ := .raise (.inr rfl)
  terminate _ := .modify _
  kill _ := .modify _
  descendants pid := ask_raises pid _
  status pid := ask_raises pid _
  waitAll _ _ := .read _
  now := .read _
  reap _ _ _ _ := nofun
  poll _ _ _ := nofun
  pipe _ _ := .pure none
  inBackground _ _ := .pure ()

/-- A launch with a startup window. -/
def careful : LaunchPlan Seconds := ⟨"server", false, .whole 1, .session⟩

/-- The command line of the program, in the topmost directory. -/
def serving : Invocation := ⟨["server"], .ofText "/"⟩

/-- The launch is over, and the process runs on without an owner. -/
theorem launch_owned_lost :
    let run := launch distracted hasty careful 2 serving (Nursery.empty [])
    run.1 = .raised .interrupted ∧ run.2.living = [1] ∧
      Fate distracted hasty careful 2 serving 1 (Nursery.enrol 1 (Nursery.empty [])) run.1 run.2 ∧
      ¬ ∃ f, run.1 = .raised f ∧ StartFailure f := by
  intro run
  have ended : run.1 = .raised .interrupted := by with_unfolding_all rfl
  obtain ⟨fate, -⟩ := launch_owned troubled_distracted (punctual_hasty _)
    (fun f hf failure => by
      obtain ⟨_, _, _, rfl⟩ := failure
      cases hf) careful 2 serving (Nursery.empty [])
  refine ⟨ended, by with_unfolding_all rfl, fate 1 _ (by with_unfolding_all rfl), fun failed => ?_⟩
  obtain ⟨f, raised, _, _, _, rfl⟩ := failed
  cases ended.symm.trans raised

end Lost

end Respawn.Child
