import Respawn.Proofs.Actions
import Respawn.Supervisor

/-!
# What the operations of the supervisor come to

Every operation is made of three: a start, a stop and a look at the instance. Each of the three makes
at most one call on the crew, and what follows depends on how that call ends.

* `started`, `stopped`, `checked`: all the ways in which the three can end;
* `Keeps.run`, `Keeps.shutdown`: what the three keep, and waiting keeps, every operation keeps.
-/

namespace Respawn.Supervisor

open Respawn.Action (Ends)

variable {T σ : Type} [Log.Logbook σ]

/-! ## 1. Starting -/

/-- A fault that says that the program did not start. -/
def isStartFailure : Fault → Bool
  | .complaint (.childStart ..) => true
  | _ => false

/-- How a start ends. -/
inductive Started (crew : Crew T σ) : Supervisor × σ → Outcome Bool × Supervisor × σ → Prop
  | refused {s w c} (held : s.child = some c) :
      Started crew (s, w) (.raised (.alreadyHeld c.pid), s, w)
  | launched {s w w' c} (free : s.child = none)
      (call : crew.launch s.invocation w = (.done c, w')) :
      Started crew (s, w) (.done true, { s with child := some c, phase := .running }, w')
  | failed {s w w' f} (free : s.child = none)
      (call : crew.launch s.invocation w = (.raised f, w')) (hf : isStartFailure f = true) :
      Started crew (s, w)
        (.done false, { s with phase := .idle }, Log.Logbook.note (unstartedRecord f) w')
  | broken {s w w' f} (free : s.child = none)
      (call : crew.launch s.invocation w = (.raised f, w')) (hf : isStartFailure f = false) :
      Started crew (s, w) (.raised f, s, w')
  | unfinished {s w w'} (free : s.child = none)
      (call : crew.launch s.invocation w = (.unfinished, w')) :
      Started crew (s, w) (.unfinished, s, w')

section tryLaunch

variable {crew : Crew T σ} {i : Invocation} {w w' : σ}

theorem tryLaunch_of_done {c : Child.Handle} (h : crew.launch i w = (.done c, w')) :
    tryLaunch crew i w = (.done (some c), w') := by
  simp [tryLaunch, Action.recover, Action.after, h]

theorem tryLaunch_of_unfinished (h : crew.launch i w = (.unfinished, w')) :
    tryLaunch crew i w = (.unfinished, w') := by
  simp [tryLaunch, Action.recover, Action.after, h]

theorem tryLaunch_of_failure {f : Fault} (h : crew.launch i w = (.raised f, w'))
    (hf : isStartFailure f = true) :
    tryLaunch crew i w = (.done none, Log.Logbook.note (unstartedRecord f) w') := by
  unfold isStartFailure at hf
  split at hf
  · simp [tryLaunch, Action.recover, Action.after, h]
  · cases hf

theorem tryLaunch_of_fault {f : Fault} (h : crew.launch i w = (.raised f, w'))
    (hf : isStartFailure f = false) : tryLaunch crew i w = (.raised f, w') := by
  unfold isStartFailure at hf
  split at hf
  · cases hf
  · simp only [tryLaunch, Action.recover, Action.bind_apply, Action.after, h]

end tryLaunch

/-- With nothing held, a start depends on how the launch ends. -/
theorem start_free (crew : Crew T σ) {s : Supervisor} (h : s.child = none) (w : σ) :
    start crew (s, w) = match tryLaunch crew s.invocation w with
      | (.done none, w') => (.done false, { s with phase := .idle }, w')
      | (.done (some c), w') => (.done true, { s with child := some c, phase := .running }, w')
      | (.raised f, w') => (.raised f, s, w')
      | (.unfinished, w') => (.unfinished, s, w') := by
  rcases hl : tryLaunch crew s.invocation w with ⟨o, w'⟩
  cases o with
  | done c => cases c <;> simp [start, own, change, Action.after, h, hl]
  | raised f => simp [start, own, Action.after, h, hl]
  | unfinished => simp [start, own, Action.after, h, hl]

theorem started (crew : Crew T σ) (x : Supervisor × σ) : Started crew x (start crew x) := by
  obtain ⟨s, w⟩ := x
  cases hc : s.child with
  | some c =>
    rw [start_held crew (s := (s, w)) hc]
    exact .refused hc
  | none =>
    rw [start_free crew hc]
    rcases hl : crew.launch s.invocation w with ⟨o, w'⟩
    cases o with
    | done c => rw [tryLaunch_of_done hl]; exact .launched hc hl
    | unfinished => rw [tryLaunch_of_unfinished hl]; exact .unfinished hc hl
    | raised f =>
      cases hf : isStartFailure f with
      | true =>
        rw [tryLaunch_of_failure hl hf]
        exact .failed hc hl hf
      | false => rw [tryLaunch_of_fault hl hf]; exact .broken hc hl hf

/-! ## 2. Stopping -/

/-- A fault that says that a process outlived the stop. -/
def isSurvival : Fault → Bool
  | .complaint (.childSurvived _) => true
  | _ => false

/-- How a stop ends. -/
inductive Stopped (crew : Crew T σ) : Supervisor × σ → Outcome Bool × Supervisor × σ → Prop
  | idle {s w} (free : s.child = none) :
      Stopped crew (s, w) (.done true, { s with phase := .idle }, w)
  | stopped {s w w' c} (held : s.child = some c) (call : crew.stop c w = (.done (), w')) :
      Stopped crew (s, w) (.done true, { s with child := none, phase := .idle }, w')
  | survived {s w w' c f} (held : s.child = some c) (call : crew.stop c w = (.raised f, w'))
      (hf : isSurvival f = true) :
      Stopped crew (s, w)
        (.done false, { s with phase := .running }, Log.Logbook.note (survivedRecord f) w')
  | broken {s w w' c f} (held : s.child = some c) (call : crew.stop c w = (.raised f, w'))
      (hf : isSurvival f = false) :
      Stopped crew (s, w) (.raised f, { s with phase := .stopping }, w')
  | unfinished {s w w' c} (held : s.child = some c) (call : crew.stop c w = (.unfinished, w')) :
      Stopped crew (s, w) (.unfinished, { s with phase := .stopping }, w')

section tryStop

variable {crew : Crew T σ} {c : Child.Handle} {w w' : σ}

theorem tryStop_of_done (h : crew.stop c w = (.done (), w')) :
    tryStop crew c w = (.done true, w') := by
  simp [tryStop, Action.recover, Action.after, h]

theorem tryStop_of_unfinished (h : crew.stop c w = (.unfinished, w')) :
    tryStop crew c w = (.unfinished, w') := by
  simp [tryStop, Action.recover, Action.after, h]

theorem tryStop_of_survival {f : Fault} (h : crew.stop c w = (.raised f, w'))
    (hf : isSurvival f = true) :
    tryStop crew c w = (.done false, Log.Logbook.note (survivedRecord f) w') := by
  unfold isSurvival at hf
  split at hf
  · simp [tryStop, Action.recover, Action.after, h]
  · cases hf

theorem tryStop_of_fault {f : Fault} (h : crew.stop c w = (.raised f, w'))
    (hf : isSurvival f = false) : tryStop crew c w = (.raised f, w') := by
  unfold isSurvival at hf
  split at hf
  · cases hf
  · simp only [tryStop, Action.recover, Action.bind_apply, Action.after, h]

end tryStop

/-- With an instance held, a stop depends on how the stopping of it ends. -/
theorem stop_some (crew : Crew T σ) {s : Supervisor} {c : Child.Handle} (h : s.child = some c)
    (w : σ) :
    stop crew (s, w) = match tryStop crew c w with
      | (.done true, w') => (.done true, { s with child := none, phase := .idle }, w')
      | (.done false, w') => (.done false, { s with phase := .running }, w')
      | (.raised f, w') => (.raised f, { s with phase := .stopping }, w')
      | (.unfinished, w') => (.unfinished, { s with phase := .stopping }, w') := by
  rcases hl : tryStop crew c w with ⟨o, w'⟩
  cases o with
  | done b => cases b <;> simp [stop, own, change, Action.after, h, hl]
  | raised f => simp [stop, own, change, Action.after, h, hl]
  | unfinished => simp [stop, own, change, Action.after, h, hl]

theorem stopped (crew : Crew T σ) (x : Supervisor × σ) : Stopped crew x (stop crew x) := by
  obtain ⟨s, w⟩ := x
  cases hc : s.child with
  | none =>
    rw [stop_none crew (s := (s, w)) hc]
    exact .idle hc
  | some c =>
    rw [stop_some crew hc]
    rcases hl : crew.stop c w with ⟨o, w'⟩
    cases o with
    | done u => rw [tryStop_of_done hl]; exact .stopped hc hl
    | unfinished => rw [tryStop_of_unfinished hl]; exact .unfinished hc hl
    | raised f =>
      cases hf : isSurvival f with
      | true =>
        rw [tryStop_of_survival hl hf]
        exact .survived hc hl hf
      | false => rw [tryStop_of_fault hl hf]; exact .broken hc hl hf

/-! ## 3. Looking at the instance -/

/-- How a look at the instance ends. -/
inductive Checked (crew : Crew T σ) : Supervisor × σ → Outcome Unit × Supervisor × σ → Prop
  | idle {s w} (free : s.child = none) : Checked crew (s, w) (.done (), s, w)
  | alive {s w w' c} (held : s.child = some c) (call : crew.poll c w = (.done none, w')) :
      Checked crew (s, w) (.done (), s, w')
  | ended {s w w' c code} (held : s.child = some c)
      (call : crew.poll c w = (.done (some code), w')) :
      Checked crew (s, w) (.done (), { s with child := none, phase := .idle },
        Log.Logbook.note (endedRecord c code) w')
  | broken {s w w' c f} (held : s.child = some c) (call : crew.poll c w = (.raised f, w')) :
      Checked crew (s, w) (.raised f, s, w')
  | unfinished {s w w' c} (held : s.child = some c) (call : crew.poll c w = (.unfinished, w')) :
      Checked crew (s, w) (.unfinished, s, w')

theorem checked (crew : Crew T σ) (x : Supervisor × σ) : Checked crew x (check crew x) := by
  obtain ⟨s, w⟩ := x
  cases hc : s.child with
  | none =>
    have : check crew (s, w) = (.done (), s, w) := by simp [check, own, Action.after, hc]
    rw [this]
    exact .idle hc
  | some c =>
    rcases hl : crew.poll c w with ⟨o, w'⟩
    cases o with
    | done code =>
      cases code with
      | none =>
        have : check crew (s, w) = (.done (), s, w') := by simp [check, own, Action.after, hc, hl]
        rw [this]
        exact .alive hc hl
      | some code =>
        have : check crew (s, w) = (.done (), { s with child := none, phase := .idle },
            Log.Logbook.note (endedRecord c code) w') := by
          simp [check, own, change, Action.after, hc, hl]
        rw [this]
        exact .ended hc hl
    | raised f =>
      have : check crew (s, w) = (.raised f, s, w') := by simp [check, own, Action.after, hc, hl]
      rw [this]
      exact .broken hc hl
    | unfinished =>
      have : check crew (s, w) = (.unfinished, s, w') := by
        simp [check, own, Action.after, hc, hl]
      rw [this]
      exact .unfinished hc hl

/-! ## 4. What every operation keeps -/

/-- Where an action came to its end `P` is true, and where it did not at least `R`. -/
def Lasts (P R : Supervisor × σ → Prop) {α : Type} (o : Outcome α) (y : Supervisor × σ) : Prop :=
  R y ∧ (o ≠ .unfinished → P y)

omit [Log.Logbook σ] in
/-- What lasted so far lasts through what follows. -/
theorem Lasts.bind {P R : Supervisor × σ → Prop} {α β : Type} {x : Supervisor × σ}
    {y : Action (Supervisor × σ) α} {k : α → Action (Supervisor × σ) β}
    (hy : Ends y x (Lasts P R)) (hk : ∀ a z, P z → Ends (k a) z (Lasts P R)) :
    Ends (y >>= k) x (Lasts P R) :=
  Ends.bind hy (fun a z hz => hk a z (hz.2 nofun)) (fun _ _ hz => ⟨hz.1, fun _ => hz.2 nofun⟩)
    fun _ hz => ⟨hz.1, fun h => absurd rfl h⟩

variable [Stoppable σ]

/-- A property that no single step breaks, as long as every step comes to its end. -/
structure Keeps (crew : Crew T σ) (P R : Supervisor × σ → Prop) : Prop where
  weaken {x} : P x → R x
  start {x y} : Started crew x y → P x → Lasts P R y.1 y.2
  stop {x y} : Stopped crew x y → P x → Lasts P R y.1 y.2
  check {x y} : Checked crew x y → P x → Lasts P R y.1 y.2
  count {s w} : P (s, w) → P ({ s with restarts := s.restarts + 1 }, w)
  note {s w} (r : Log.Record) : P (s, w) → P (s, Log.Logbook.note r w)
  ask {s w} : P (s, w) → P (s, Stoppable.ask w)
  wait {s w} (interval : T) : P (s, w) →
    Ends (crew.wait s.phase interval) w fun o w' => Lasts P R o (s, w')

namespace Keeps

variable {crew : Crew T σ} {P R : Supervisor × σ → Prop} {x : Supervisor × σ}

theorem pure (hk : Keeps crew P R) {α : Type} (a : α) (hx : P x) :
    Ends (Pure.pure a : Action (Supervisor × σ) α) x (Lasts P R) := ⟨hk.weaken hx, fun _ => hx⟩

theorem start_ends (hk : Keeps crew P R) (hx : P x) :
    Ends (Supervisor.start crew) x (Lasts P R) := hk.start (started crew x) hx

theorem stop_ends (hk : Keeps crew P R) (hx : P x) : Ends (Supervisor.stop crew) x (Lasts P R) :=
  hk.stop (stopped crew x) hx

theorem check_ends (hk : Keeps crew P R) (hx : P x) : Ends (Supervisor.check crew) x (Lasts P R) :=
  hk.check (checked crew x) hx

theorem restart (hk : Keeps crew P R) (hx : P x) :
    Ends (Supervisor.restart crew) x (Lasts P R) := by
  refine Ends.of_modify (Lasts.bind (hk.stop_ends (hk.count hx)) ?_)
  intro b y hy
  cases b with
  | true => exact hk.start_ends hy
  | false => exact hk.pure _ hy

theorem round (hk : Keeps crew P R) (interval : T) (hx : P x) :
    Ends (Supervisor.round crew interval) x (Lasts P R) := by
  obtain ⟨s, w⟩ := x
  refine Ends.of_read ?_
  have waits : Ends (crew.wait s.phase interval).inner (s, w) (Lasts P R) := hk.wait interval hx
  refine Lasts.bind waits ?_
  intro t y hy
  cases t with
  | none => exact hk.check_ends hy
  | some t =>
    refine Ends.of_read (Ends.of_modify (Lasts.bind (hk.restart ?_) fun _ _ hz => hk.pure _ hz))
    exact hk.note _ hy

theorem rounds (hk : Keeps crew P R) (interval : T) (patience : Nat) :
    ∀ {x}, P x → Ends (Supervisor.rounds crew interval patience) x (Lasts P R) := by
  induction patience with
  | zero => exact fun hx => ⟨hk.weaken hx, fun h => absurd rfl h⟩
  | succ patience ih =>
    intro x hx
    refine Ends.of_read ?_
    split
    · exact hk.pure _ hx
    · exact Lasts.bind (hk.round interval hx) fun _ _ hy => ih hy

theorem run (hk : Keeps crew P R) (interval : T) (patience : Nat) (hx : P x) :
    Ends (Supervisor.run crew interval patience) x (Lasts P R) := by
  refine Ends.of_read (Ends.of_modify (Lasts.bind (hk.start_ends (hk.note _ hx)) ?_))
  exact fun _ _ hy => hk.rounds interval patience hy

theorem shutdown (hk : Keeps crew P R) (hx : P x) :
    Ends (Supervisor.shutdown crew) x (Lasts P R) := by
  refine Ends.of_modify (Ends.of_read ?_)
  have asked : P (x.1, Stoppable.ask x.2) := hk.ask hx
  split
  · exact Ends.of_modify (Lasts.bind (hk.stop_ends (hk.note _ asked)) fun _ _ hy => hk.pure _ hy)
  · exact Lasts.bind (hk.stop_ends asked) fun _ _ hy => hk.pure _ hy

end Keeps

end Respawn.Supervisor
