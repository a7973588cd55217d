import Respawn.Proofs.Session.Indifference
import Respawn.Proofs.Session.Startup
import Respawn.Proofs.Supervisor.Steps

/-!
# What a session asks for

A session builds its command line once, and every start of the server is one of that command line. It
asks for a process as soon as it supervises, whatever the system answers, so that a session whose
watcher starts has asked for one.

* `errands`: what a session asks the system for about processes;
* `supervise_asks`, `supervise_spawns`: a supervision starts nothing but its command line, and does so
  before it asks for anything else;
* `Paved`: surroundings in which a session comes to its supervision;
* **`errands_only`**: every start of a session is one of its command line;
* **`run_spawns`**: where its way is paved, a session asks for a process.
-/

namespace Respawn.Session

open Respawn.Action (Beside Drifts Ends)
open Child (Asks Errand Only)
open Relation (ReflTransGen)
open Settings (Fit)
open Supervisor (Crew Keeps)
open Watch (Watcher)

variable {O σ α : Type} [Log.Logbook σ] [Watch.Mailboxed σ] [Stoppable σ]

/-- What a session asks the system for about processes, in order. -/
def errands (w : Surroundings O σ) (environment : EnvFile.Bindings) (budget : Budget)
    (args : List String) (x : σ) : List (Errand Seconds) :=
  (run w.recorded environment budget args ([], x)).2.1

/-! ## 1. What a supervision starts -/

section Supervision

variable {w : Surroundings O σ} {i : Invocation} {l : List (Errand Seconds)}

/-- The command line is the given one, and since `l` nothing else was started. -/
def Faithful (i : Invocation) (l : List (Errand Seconds))
    (y : Supervisor × (Watcher Seconds O × (List (Errand Seconds) × σ))) : Prop :=
  y.1.invocation = i ∧ ReflTransGen (Asks i) l y.2.2.1

omit [Log.Logbook σ] [Watch.Mailboxed σ] [Stoppable σ] in
theorem inner_asks {x : Action (List (Errand Seconds) × σ) α} (hx : Drifts (Asks i) Prod.fst x)
    {v v' : Watcher Seconds O × (List (Errand Seconds) × σ)} {o : Outcome α}
    (moves : ReflTransGen (Asks i) l v.2.1) (call : x.inner v = (o, v')) :
    ReflTransGen (Asks i) l v'.2.1 := by
  cases call
  exact moves.trans (hx v.2)

/-- No step of a supervision starts anything but its command line. -/
theorem faithful_keeps (launch : Child.LaunchPlan Seconds) (stop : Child.StopPlan Seconds)
    (polls : Nat) : Keeps (crew w.recorded launch stop polls) (Faithful i l) (Faithful i l) where
  weaken := id
  start {x y} h hx := by
    suffices faithful : Faithful i l y.2 from ⟨faithful, fun _ => faithful⟩
    obtain ⟨line, moves⟩ := hx
    -- the invocation of every launch is that of the supervisor
    have launched := Child.launch_asks i w.processes stop launch polls
    cases h with
    | refused held => exact ⟨line, moves⟩
    | launched free call => exact ⟨line, inner_asks launched moves (line ▸ call)⟩
    | failed free call hf =>
      have moved := inner_asks launched moves (line ▸ call)
      exact ⟨line, moved⟩
    | broken free call hf => exact ⟨line, inner_asks launched moves (line ▸ call)⟩
    | unfinished free call => exact ⟨line, inner_asks launched moves (line ▸ call)⟩
  stop {x y} h hx := by
    suffices faithful : Faithful i l y.2 from ⟨faithful, fun _ => faithful⟩
    obtain ⟨line, moves⟩ := hx
    have stopped := Child.stop_asks i w.processes stop polls
    cases h with
    | idle free => exact ⟨line, moves⟩
    | stopped held call => exact ⟨line, inner_asks (stopped _) moves call⟩
    | survived held call hf =>
      have moved := inner_asks (stopped _) moves call
      exact ⟨line, moved⟩
    | broken held call hf => exact ⟨line, inner_asks (stopped _) moves call⟩
    | unfinished held call => exact ⟨line, inner_asks (stopped _) moves call⟩
  check {x y} h hx := by
    suffices faithful : Faithful i l y.2 from ⟨faithful, fun _ => faithful⟩
    obtain ⟨line, moves⟩ := hx
    have polled := (Child.recorded_calm i w.processes).poll
    cases h with
    | idle free => exact ⟨line, moves⟩
    | alive held call => exact ⟨line, inner_asks (polled _) moves call⟩
    | ended held call =>
      have moved := inner_asks (polled _) moves call
      exact ⟨line, moved⟩
    | broken held call => exact ⟨line, inner_asks (polled _) moves call⟩
    | unfinished held call => exact ⟨line, inner_asks (polled _) moves call⟩
  count hx := hx
  note _ hx := hx
  ask hx := hx
  wait {s v} interval hx := by
    refine (Watcher.wait_besides w.observers w.cwd (some interval) v).mono fun _ z same => ?_
    have faithful : Faithful i l (s, z) := ⟨hx.1, same ▸ hx.2⟩
    exact ⟨faithful, fun _ => faithful⟩

/-- What the run of a supervision keeps, the closing keeps. -/
theorem closed_asks (launch : Child.LaunchPlan Seconds) (stop : Child.StopPlan Seconds)
    (polls : Nat) {interval : Seconds} {rounds : Nat}
    {y : Supervisor × (Watcher Seconds O × (List (Errand Seconds) × σ))}
    (run : Ends (Supervisor.run (crew w.recorded launch stop polls) interval rounds) y
      fun _ z => Faithful i l z) :
    Ends (supervise w.recorded (crew w.recorded launch stop polls) interval rounds) y
      fun _ z => Faithful i l z := by
  have keeps := faithful_keeps (w := w) (i := i) (l := l) launch stop polls
  refine Ends.ensuring ?_ fun z hz => ?_
  · refine run.recover (fun _ _ h => h) (fun f z act hz ha => ?_) (fun _ _ h _ => h) fun _ h => h
    split at ha
    · cases ha
      exact hz
    · cases ha
  · refine ((keeps.shutdown hz).mono fun _ _ h => h.1).seq (fun _ h => h) fun _ u hu => ?_
    obtain ⟨s, v⟩ := u
    have stopped : Ends (Watcher.stop w.observers.beside).inner (s, v) fun _ z => Faithful i l z :=
      ((Watcher.stop_besides w.observers v).inner s).mono fun _ _ h =>
        ⟨h.1 ▸ hu.1, h.2 ▸ hu.2⟩
    exact stopped.seq (fun _ h => h) fun _ _ hz => hz

/-- **A supervision starts nothing but its command line.** -/
theorem supervise_asks (launch : Child.LaunchPlan Seconds) (stop : Child.StopPlan Seconds)
    (polls : Nat) (interval : Seconds) (rounds : Nat)
    {y : Supervisor × (Watcher Seconds O × (List (Errand Seconds) × σ))} (hy : Faithful i l y) :
    Ends (supervise w.recorded (crew w.recorded launch stop polls) interval rounds) y
      fun _ z => Faithful i l z :=
  closed_asks launch stop polls
    (((faithful_keeps launch stop polls).run interval rounds hy).mono fun _ _ h => h.1)

omit [Stoppable σ] in
/-- With nothing held, a start asks for its process first. -/
theorem start_spawns (launch : Child.LaunchPlan Seconds) (stop : Child.StopPlan Seconds)
    (polls : Nat) {s : Supervisor} (free : s.child = none)
    (v : Watcher Seconds O × (List (Errand Seconds) × σ)) :
    Ends (Supervisor.start (crew w.recorded launch stop polls)) (s, v)
      fun _ z => Faithful s.invocation (v.2.1 ++ [launch.request s.invocation]) z := by
  have asked {o : Outcome Child.Handle} {v' : Watcher Seconds O × (List (Errand Seconds) × σ)}
      (call : (crew w.recorded launch stop polls).launch s.invocation v = (o, v')) :
      ReflTransGen (Asks s.invocation) (v.2.1 ++ [launch.request s.invocation]) v'.2.1 := by
    cases call
    exact Child.launch_spawns s.invocation w.processes stop launch polls v.2
  have begun := Supervisor.started (crew w.recorded launch stop polls) (s, v)
  unfold Ends
  generalize Supervisor.start (crew w.recorded launch stop polls) (s, v) = r at begun
  cases begun with
  | refused held => cases free.symm.trans held
  | launched _ call => exact ⟨rfl, asked call⟩
  | failed _ call hf =>
    have told := asked call
    exact ⟨rfl, told⟩
  | broken _ call hf => exact ⟨rfl, asked call⟩
  | unfinished _ call => exact ⟨rfl, asked call⟩

/-- **A supervision asks for its process before it asks for anything else.** -/
theorem supervise_spawns (launch : Child.LaunchPlan Seconds) (stop : Child.StopPlan Seconds)
    (polls : Nat) (interval : Seconds) (rounds : Nat) {s : Supervisor} (free : s.child = none)
    (v : Watcher Seconds O × (List (Errand Seconds) × σ)) :
    Ends (supervise w.recorded (crew w.recorded launch stop polls) interval rounds) (s, v)
      fun _ z => Faithful s.invocation (v.2.1 ++ [launch.request s.invocation]) z := by
  refine closed_asks launch stop polls (Ends.of_read (Ends.of_modify ?_))
  refine (start_spawns launch stop polls free _).seq (fun _ begun => begun) fun _ z begun => ?_
  exact ((faithful_keeps launch stop polls).rounds interval rounds begun).mono fun _ _ h => h.1

end Supervision

/-! ## 2. What a session starts -/

section Starts

variable {w : Surroundings O σ} {s : Settings} {i : Invocation}

omit [Stoppable σ] in
/-- Before the supervision nobody is asked about processes. -/
theorem unmanned_asks {y z : List (Errand Seconds) × σ}
    (moves : ReflTransGen (Unmanned w.recorded) y z) : ReflTransGen (Asks i) y.1 z.1 := by
  induction moves with
  | refl => exact .refl
  | tail _ step ih =>
    cases step with
    | early step => cases step <;> exact ih
    | _ => exact ih

theorem superviseWith_asks (hs : Fit s) (budget : Budget) (watcher : Watcher Seconds O) :
    Drifts (Asks i) Prod.fst (superviseWith w.recorded s budget i watcher) := by
  intro y
  obtain ⟨means⟩ := means_of_fit hs w.recorded
  have begun : Faithful i y.1 (Supervisor.ofInvocation i, watcher, y) := ⟨rfl, .refl⟩
  have ends := supervise_asks (w := w) means.launch means.stop budget.polls means.interval
    budget.rounds begun
  rw [superviseWith_eq w.recorded budget means]
  exact ends.2

/-- Where there is a watcher, a process is asked for. -/
theorem superviseWith_spawns (hs : Fit s) (budget : Budget) (i : Invocation)
    (watcher : Watcher Seconds O) (y : List (Errand Seconds) × σ) :
    Ends (superviseWith w.recorded s budget i watcher) y
      fun _ z => ∃ launch : Child.LaunchPlan Seconds, launch.request i ∈ z.1 := by
  obtain ⟨means⟩ := means_of_fit hs w.recorded
  have begun := supervise_spawns (w := w) means.launch means.stop budget.polls means.interval
    budget.rounds (s := .ofInvocation i) rfl (watcher, y)
  refine .of_result (superviseWith_eq w.recorded budget means i watcher y) ⟨means.launch, ?_⟩
  exact Child.mem_of_asks begun.2 (List.mem_append_right _ List.mem_cons_self)

theorem proceed_asks (hs : Fit s) (budget : Budget) (r : Role) :
    Drifts (Asks i) Prod.fst (proceed w.recorded s budget r i) := by
  refine .bind (.of_eq fun _ => rfl) fun _ => .bind (.of_eq fun _ => rfl) fun _ => ?_
  refine .bind (fun y => unmanned_asks (startedWatcher_drifts w.recorded s y)) fun started => ?_
  cases started with
  | none => exact .pure _
  | some watcher => exact (superviseWith_asks hs budget watcher).bind fun _ => .pure _

/-- A session whose command line can only be the given one starts nothing else. -/
theorem conduct_asks (hs : Fit s) (budget : Budget) {args : List String}
    (built : ∀ r j, Role.derive (Request.parse args).selector s = .ok r →
      Invocation.build r s = .ok j → j = i) :
    Drifts (Asks i) Prod.fst (conduct w.recorded s budget args) := by
  refine .bind (.ofExcept _) fun level => .bind (.ofExcept _) fun file => ?_
  refine .bind (.of_eq fun _ => rfl) fun _ => ?_
  cases hr : Role.derive (Request.parse args).selector s with
  | error f => exact .raise f
  | ok r =>
    intro y
    show Ends (invocationOf r s >>= _) y fun _ z => ReflTransGen (Asks i) y.1 z.1
    refine (invocationOf_cases hs hr y).bind (fun found z h => ?_) (fun f z h => ?_)
      fun z h => nomatch h
    · cases h with
      | built hb =>
        cases built r _ hr hb
        exact proceed_asks (w := w) hs budget r (Log.Logbook.note _ y)
      | empty hb => exact .refl
    · cases h with
      | unspeakable h => exact .refl

/-- **Every start of a session is one of its command line.** -/
theorem errands_only (environment : EnvFile.Bindings) (budget : Budget) (args : List String) {x : σ}
    (loaded : (Settings.effective environment w.cwd (w.tree x) w.readEnv).result = .ok s)
    (built : ∀ r j, Role.derive (Request.parse args).selector s = .ok r →
      Invocation.build r s = .ok j → j = i) :
    Only i (errands w environment budget args x) := by
  have fit := Settings.fit_of_effective loaded
  have asked : Drifts (Asks i) Prod.fst (do
      Child.noteAll (Settings.effective environment w.cwd (w.tree x) w.readEnv).records
      conduct w.recorded s budget args : Action (List (Errand Seconds) × σ) Ending) :=
    .bind (.each (fun _ => .of_eq fun _ => rfl) _) fun _ => conduct_asks fit budget built
  have none : Only i ([] : List (Errand Seconds)) := fun _ hw => absurd hw List.not_mem_nil
  unfold errands
  rw [run_of_loaded (w := w.recorded) (x := ([], x)) loaded]
  exact none.asks (asked ([], x))

end Starts

/-! ## 3. Sessions that come to their supervision -/

section Paved

variable {w : Surroundings O σ} {s : Settings} {P : σ → Prop} {level : Value} {file : Option Path}

/-- Nothing that a session does before its watcher keeps it from its supervision: the log can be set
    up and the title set, both leave `P` as it is, as every record does, and where `P` is true the
    watcher starts. -/
structure Paved (w : Surroundings O σ) (s : Settings) (level : Value) (file : Option Path)
    (P : σ → Prop) : Prop where
  note (r) {y} : P y → P (Log.Logbook.note r y)
  setUpLog {y} : P y → Ends (w.setUpLog level file) y fun o z => o = .done () ∧ P z
  setTitle (text) {y} : P y → Ends (w.setTitle text) y fun o z => o = .done () ∧ P z
  watcher {y} : P y → ∃ found, (startedWatcher w s y).1 = .done (some found)

/-- The watcher starts with a ledger as it does without one. -/
theorem Paved.starts (paved : Paved w s level file P) {y : List (Errand Seconds) × σ}
    (hy : P y.2) :
    Ends (startedWatcher w.recorded s) y fun o _ => ∃ found, o = .done (some found) := by
  obtain ⟨found, started⟩ := paved.watcher hy
  have same := startedWatcher_agrees w.recorded_mirrors s y y.2 rfl
  exact ⟨found, same.1.trans started⟩

/-- **Where its way is paved, a session asks for a process.** -/
theorem run_spawns (paved : Paved w s level file P) {environment : EnvFile.Bindings}
    (budget : Budget) {args : List String} {x : σ} {r : Role} {i : Invocation} (hx : P x)
    (loaded : (Settings.effective environment w.cwd (w.tree x) w.readEnv).result = .ok s)
    (console : consoleLevel (Request.parse args) s = .ok level) (filed : logFile s = .ok file)
    (hr : Role.derive (Request.parse args).selector s = .ok r)
    (hb : Invocation.build r s = .ok i) :
    ∃ what, .spawn what ∈ errands w environment budget args x := by
  have fit := Settings.fit_of_effective loaded
  have kept (r : Log.Record) {y : List (Errand Seconds) × σ} (hy : P y.2) :
    P (Log.Logbook.note r y).2 := paved.note r hy
  suffices asked : Ends (do
      Child.noteAll (Settings.effective environment w.cwd (w.tree x) w.readEnv).records
      conduct w.recorded s budget args : Action (List (Errand Seconds) × σ) Ending) ([], x)
      fun _ z => ∃ launch : Child.LaunchPlan Seconds, launch.request i ∈ z.1 by
    unfold errands
    rw [run_of_loaded (w := w.recorded) (x := ([], x)) loaded]
    obtain ⟨launch, asked⟩ := asked
    exact ⟨_, asked⟩
  refine (noteAll_keeps kept _ hx).bind_of_done fun y hy => ?_
  unfold conduct
  dsimp only
  rw [console, filed, hr]
  refine Ends.of_ok (Ends.of_ok ?_)
  refine Ends.bind_of_done (((paved.setUpLog hy).inner y.1).mono fun _ _ h => h.2) fun z hz => ?_
  have built : Ends (invocationOf r s) z fun o u => o = .done (some i) ∧ P u.2 :=
    .of_result (invocationOf_built hb z) ⟨rfl, kept _ hz⟩
  refine Ends.of_ok (built.bind_of_done fun z hz => ?_)
  refine Ends.bind_of_done (((paved.setTitle _ hz).inner z.1).mono fun _ _ h => h.2) fun z hz => ?_
  refine Ends.of_modify ((paved.starts (kept _ hz)).bind ?_ ?_ ?_)
  · rintro _ u ⟨watcher, ⟨⟩⟩
    exact (superviseWith_spawns fit budget i watcher u).seq (fun _ asked => asked)
      fun _ _ asked => asked
  · rintro _ _ ⟨_, ⟨⟩⟩
  · rintro _ ⟨_, ⟨⟩⟩

end Paved

end Respawn.Session
