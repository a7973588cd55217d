import Respawn.Proofs.Child.Images
import Respawn.Proofs.Supervisor.Images
import Respawn.Proofs.Watch.Images
import Respawn.Session

/-!
# Sessions in surroundings that agree

A session is made of what it asks of the system, of the observers and of its log. So where two
surroundings answer alike as long as they agree, and stay so, two sessions in them end alike.

* `Surroundings.Mirrors`: two surroundings that answer alike;
* `proceed_agrees`: two sessions in them, from the command line on;
* `run_agrees`: two whole sessions, where the log is set up alike as well.
-/

namespace Respawn

open Respawn.Action (Agrees Beside)

variable {O σ τ : Type} [Log.Logbook σ] [Watch.Mailboxed σ] [Stoppable σ] [Log.Logbook τ]
  [Watch.Mailboxed τ] [Stoppable τ]

/-- Where they agree, two surroundings show the same tree and let the same of it be read, answer every
    request alike, and a shutdown was asked for in both or in neither. Nothing is said of how the log
    is set up. -/
structure Surroundings.Mirrors (R : σ → τ → Prop) (w : Surroundings O σ) (v : Surroundings O τ) :
    Prop where
  cwd : w.cwd = v.cwd
  isolation : w.isolation = v.isolation
  tree {s t} : R s t → w.tree s = v.tree t
  mayRead {s t} : R s t → w.mayRead s = v.mayRead t
  readEnv : w.readEnv = v.readEnv
  asked {s t} : R s t → Stoppable.asked s = Stoppable.asked t
  ask {s t} : R s t → R (Stoppable.ask s) (Stoppable.ask t)
  processes : w.processes.Mirrors R v.processes
  observers : w.observers.Mirrors R v.observers
  setTitle (text) : Agrees R (w.setTitle text) (v.setTitle text)

namespace Session

open Watch (Watcher)

variable {R : σ → τ → Prop} {w : Surroundings O σ} {v : Surroundings O τ}

/-! ## 1. Before the watcher -/

omit [Log.Logbook σ] [Watch.Mailboxed σ] [Stoppable σ] [Log.Logbook τ] [Watch.Mailboxed τ]
  [Stoppable τ] in
theorem carrying_agrees {ρ : Type} {x : Action (ρ × σ) Unit} {y : Action (ρ × τ) Unit}
    (h : Agrees (Beside R) x y) (r : ρ) : Agrees R (carrying r x) (carrying r y) := by
  intro s t hst
  have ends := h (r, s) (r, t) ⟨rfl, hst⟩
  revert ends
  unfold carrying
  rcases x (r, s) with ⟨o, p, s'⟩
  rcases y (r, t) with ⟨o', p', t'⟩
  rintro ⟨rfl, same, agree⟩
  obtain rfl : p = p' := same
  cases o <;> exact ⟨rfl, agree⟩

variable (hm : w.Mirrors R v)
include hm

theorem note_agrees (r : Log.Record) :
    Agrees R (.modify (Log.Logbook.note r) : Action σ Unit) (.modify (Log.Logbook.note r)) :=
  Child.note_agrees hm.processes r

theorem invocationOf_agrees (r : Role) (s : Settings) :
    Agrees R (invocationOf r s : Action σ _) (invocationOf r s) := by
  refine .recover ?_ fun f => ?_
  · exact .bind (.bind (.ofExcept _) fun i => (note_agrees hm _).bind fun _ => .pure _)
      fun _ => .pure _
  · split
    · exact .some ((note_agrees hm _).bind fun _ => .pure _)
    · exact .none

theorem watcherOf_agrees (s : Settings) : Agrees R (watcherOf w s) (watcherOf v s) := by
  unfold watcherOf Watcher.ofPattern
  rw [hm.cwd]
  refine .bind (.ofExcept _) fun pattern => .bind (.ofExcept _) fun base => ?_
  refine .bind (.ofExcept _) fun debounce => .bind (.read fun _ _ => hm.tree) fun tree => ?_
  refine .bind (.read fun _ _ => hm.mayRead) fun mayRead => ?_
  refine .bind (.ofExcept _) fun spelled => .bind (.ofExcept _) fun paths => ?_
  exact (note_agrees hm _).bind fun _ => .ofExcept _

theorem startedWatcher_agrees (s : Settings) :
    Agrees R (startedWatcher w s) (startedWatcher v s) := by
  unfold startedWatcher
  rw [hm.cwd]
  refine .recover (.bind (watcherOf_agrees hm s) fun u => ?_) fun f => ?_
  · exact .bind (carrying_agrees (Watcher.start_agrees hm.observers v.cwd) u) fun _ => .pure _
  · split
    · exact .some ((note_agrees hm _).bind fun _ => .pure _)
    · exact .none

/-! ## 2. Supervision -/

theorem crew_mirrors (launch : Child.LaunchPlan Seconds) (stop : Child.StopPlan Seconds)
    (polls : Nat) : (crew w launch stop polls).Mirrors (Beside R) (crew v launch stop polls) where
  note r h := ⟨h.1, hm.processes.note r h.2⟩
  asked h := hm.asked h.2
  ask h := ⟨h.1, hm.ask h.2⟩
  launch i := (Child.launch_agrees hm.processes stop launch polls i).inner
  stop c := (Child.stop_agrees hm.processes stop polls c).inner
  poll c := (hm.processes.poll c.pid).inner
  wait _ interval := by
    have waits := Watcher.wait_agrees hm.observers v.cwd (some interval)
    unfold crew
    rw [hm.cwd]
    exact waits

theorem supervise_agrees (launch : Child.LaunchPlan Seconds) (stop : Child.StopPlan Seconds)
    (polls : Nat) (interval : Seconds) (rounds : Nat) : Agrees (Beside (Beside R))
      (supervise w (crew w launch stop polls) interval rounds)
      (supervise v (crew v launch stop polls) interval rounds) := by
  have mirrors := crew_mirrors hm launch stop polls
  refine .ensuring (.recover (Supervisor.run_agrees mirrors interval rounds) fun f => ?_) ?_
  · split
    · exact .some (Supervisor.note_agrees mirrors _)
    · exact .none
  · refine (Supervisor.shutdown_agrees mirrors).bind fun _ => ?_
    refine (Watcher.stop_agrees hm.observers).inner.bind fun _ => ?_
    refine Supervisor.own_agrees.bind fun _ => ?_
    exact Supervisor.note_agrees mirrors _

theorem superviseWith_agrees (s : Settings) (budget : Budget) (i : Invocation)
    (watcher : Watcher Seconds O) :
    Agrees R (superviseWith w s budget i watcher) (superviseWith v s budget i watcher) := by
  unfold superviseWith
  rw [hm.isolation]
  refine .bind (.ofExcept _) fun launch => .bind (.ofExcept _) fun stop => ?_
  refine .bind (.ofExcept _) fun interval => ?_
  have supervises := supervise_agrees hm launch stop budget.polls interval budget.rounds
  refine .bind (carrying_agrees ?_ watcher) fun _ => .pure _
  exact (carrying_agrees supervises _).bind fun _ => .pure _

/-! ## 3. The whole -/

/-- From the command line on. -/
theorem proceed_agrees (s : Settings) (budget : Budget) (r : Role) (i : Invocation) :
    Agrees R (proceed w s budget r i) (proceed v s budget r i) := by
  refine (hm.setTitle _).bind fun _ => (note_agrees hm _).bind fun _ => ?_
  refine (startedWatcher_agrees hm s).bind fun started => ?_
  cases started with
  | none => exact .pure _
  | some watcher => exact (superviseWith_agrees hm s budget i watcher).bind fun _ => .pure _

variable (setUpLog : ∀ level file, Agrees R (w.setUpLog level file) (v.setUpLog level file))
include setUpLog

theorem conduct_agrees (s : Settings) (budget : Budget) (args : List String) :
    Agrees R (conduct w s budget args) (conduct v s budget args) := by
  refine .bind (.ofExcept _) fun level => .bind (.ofExcept _) fun file => ?_
  refine (setUpLog level file).bind fun _ => .bind (.ofExcept _) fun role => ?_
  refine (invocationOf_agrees hm role s).bind fun found => ?_
  cases found with
  | none => exact .pure _
  | some i => exact proceed_agrees hm s budget role i

/-- Where the log is set up alike as well, two whole sessions end alike. -/
theorem run_agrees (environment : EnvFile.Bindings) (budget : Budget) (args : List String) :
    Agrees R (run w environment budget args) (run v environment budget args) := by
  unfold run
  rw [hm.cwd, hm.readEnv]
  refine .bind (.read fun _ _ => hm.tree) fun tree => ?_
  refine .bind (.each (note_agrees hm) _) fun _ => .bind (.ofExcept _) fun s => ?_
  exact conduct_agrees hm setUpLog s budget args

end Session

end Respawn
