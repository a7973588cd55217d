import Respawn.Proofs.Child.Faults
import Respawn.Proofs.Supervisor.Faults
import Respawn.Proofs.Supervisor.Freshness
import Respawn.Proofs.Watch.Faults
import Respawn.Session

/-!
# What a run takes, and what it lets through

A run is surrounded by things that fail. A program that does not start and a process that survives
its stop are taken and told to the log, and the run goes on. Every other fault of a call ends it:
those of the system that are about no missing process, and those of an observer that replaces a dead
one.

* `Reported`: between two calls there is nothing but records, and the first one tells of the call;
* `breaks_of_made`: with which faults a call of a session's crew can break a run;
* `run_contained`: how a run ends.
-/

namespace Respawn.Supervisor

open Respawn.Action (Ends Raises)
open Relation (ReflTransGen)

variable {T O σ : Type}

/-! ## 1. Reports -/

/-- What is said of a call that failed and was taken, or that found the instance to have ended. -/
def Call.report : Call σ → Option Log.Record
  | .launch _ (.raised f) _ => if isStartFailure f then some (unstartedRecord f) else none
  | .stop _ _ (.raised f) _ => if isSurvival f then some (survivedRecord f) else none
  | .poll _ c (.done (some code)) _ => some (endedRecord c code)
  | _ => none

section Reports

variable [Log.Logbook σ] [Stoppable σ]

/-- The surroundings after a call, once it was said what there is to say of it. -/
def Call.told (call : Call σ) : σ :=
  match call.report with
  | some r => Log.Logbook.note r call.after
  | none => call.after

/-- The supervisor itself only writes to the log and asks for a shutdown. -/
def Between : σ → σ → Prop :=
  ReflTransGen fun a b => (∃ r, b = Log.Logbook.note r a) ∨ b = Stoppable.ask a

/-- From every call on, with its report as the first thing, there was nothing but records up to the
    next call, or up to now. -/
def Reported (l : List (Call σ)) (w : σ) : Prop :=
  ∀ pre call post, l = pre ++ call :: post →
    Between call.told ((post.head?.map Call.before).getD w)

variable {l l' : List (Call σ)} {call : Call σ} {w w' : σ}

theorem Between.note (r : Log.Record) (w : σ) : Between w (Log.Logbook.note r w) :=
  .single (.inl ⟨r, rfl⟩)

theorem Between.ask (w : σ) : Between w (Stoppable.ask w) := .single (.inr rfl)

theorem Reported.nil (w : σ) : Reported [] w := fun pre call post h => by simp at h

theorem Reported.between (h : Reported l w) (hw : Between w w') : Reported l w' := by
  intro pre call post he
  have before := h pre call post he
  cases post with
  | nil => exact ReflTransGen.trans before hw
  | cons next post => exact before

theorem Reported.concat (h : Reported l call.before) (hw : Between call.told w) :
    Reported (l ++ [call]) w := by
  intro pre other post he
  rcases cut_concat he with ⟨rfl, rfl, rfl⟩ | ⟨post', rfl, before⟩
  · exact hw
  · have told := h pre other post' before
    cases post' with
    | nil => exact told
    | cons next post => exact told

/-- A call with nothing to report of it. -/
theorem Reported.silent (led : l' = l ++ [call]) (h : Reported l call.before)
    (hr : call.report = none) : Reported l' call.after := by
  rw [led]
  refine h.concat ?_
  rw [Call.told, hr]
  exact .refl

/-- A call and the report of it. -/
theorem Reported.noted {r : Log.Record} (led : l' = l ++ [call]) (h : Reported l call.before)
    (hr : call.report = some r) : Reported l' (Log.Logbook.note r call.after) := by
  rw [led]
  refine h.concat ?_
  rw [Call.told, hr]
  exact .refl

/-- **A supervisor reports what it takes**, and does nothing else between two calls. -/
theorem Reported.keeps (crew : Crew T σ) :
    Keeps crew.recorded (fun x => Reported x.2.1 x.2.2) fun x => Reported x.2.1 x.2.2 where
  weaken := id
  start {x y} h hx := by
    suffices reported : Reported y.2.2.1 y.2.2.2 from ⟨reported, fun _ => reported⟩
    cases h with
    | refused held => exact hx
    | launched free call => exact .silent (recorded_launch call) hx rfl
    | failed free call hf =>
      have led := recorded_launch call
      exact .noted led hx (if_pos hf)
    | broken free call hf =>
      exact .silent (recorded_launch call) hx (if_neg (Bool.eq_false_iff.1 hf))
    | unfinished free call => exact .silent (recorded_launch call) hx rfl
  stop {x y} h hx := by
    suffices reported : Reported y.2.2.1 y.2.2.2 from ⟨reported, fun _ => reported⟩
    cases h with
    | idle free => exact hx
    | stopped held call => exact .silent (recorded_stop call) hx rfl
    | survived held call hf =>
      have led := recorded_stop call
      exact .noted led hx (if_pos hf)
    | broken held call hf =>
      exact .silent (recorded_stop call) hx (if_neg (Bool.eq_false_iff.1 hf))
    | unfinished held call => exact .silent (recorded_stop call) hx rfl
  check {x y} h hx := by
    suffices reported : Reported y.2.2.1 y.2.2.2 from ⟨reported, fun _ => reported⟩
    cases h with
    | idle free => exact hx
    | alive held call => exact .silent (recorded_poll call) hx rfl
    | ended held call =>
      have led := recorded_poll call
      exact .noted led hx rfl
    | broken held call => exact .silent (recorded_poll call) hx rfl
    | unfinished held call => exact .silent (recorded_poll call) hx rfl
  count hx := hx
  note r hx := hx.between (.note r _)
  ask hx := hx.between (.ask _)
  wait {s y} interval hx := by
    rcases call : crew.recorded.wait s.phase interval y with ⟨o, y'⟩
    have reported := Reported.silent (recorded_wait call) hx rfl
    exact Ends.of_result call ⟨reported, fun _ => reported⟩

end Reports

/-! ## 2. The calls of a run -/

section Made

variable [Log.Logbook σ] [Stoppable σ]

/-- The crew, waiting for the same time whatever it is asked. -/
def Crew.paced (crew : Crew T σ) (interval : T) : Crew T σ :=
  { crew with wait := fun phase _ => crew.wait phase interval }

theorem rounds_paced (crew : Crew T σ) (interval : T) (patience : Nat) :
    rounds (crew.paced interval) interval patience = rounds crew interval patience := by
  induction patience with
  | zero => rfl
  | succ patience ih =>
    simp only [rounds, ih]
    rfl

theorem run_paced (crew : Crew T σ) (interval : T) (patience : Nat) :
    run (crew.paced interval) interval patience = run crew interval patience := by
  simp only [run, rounds_paced]
  rfl

/-- Every call of a run is one on its crew, and every wait is for the interval of the run. -/
theorem run_made (crew : Crew T σ) (interval : T) (patience : Nat) (s : Supervisor) (w : σ) :
    Ends (run crew.recorded interval patience) (s, [], w) fun _ y =>
      ∀ call ∈ y.2.1, call.Made (crew.paced interval) := by
  have carries : Carries (crew.paced interval) fun _ l _ =>
      ∀ call ∈ l, call.Made (crew.paced interval) := by
    refine ⟨fun {held l call} made _ _ before other hm => ?_, fun _ h => h, fun h => h⟩
    rcases List.mem_append.1 hm with hm | hm
    · exact before other hm
    · rwa [List.mem_singleton.1 hm]
  have none : ∀ call ∈ ([] : List (Call σ)), call.Made (crew.paced interval) :=
    fun _ hm => absurd hm List.not_mem_nil
  have paced := carries.keeps.run interval patience (x := (s, [], w))
    ⟨none, fun _ hm => absurd hm List.not_mem_nil⟩
  rw [← run_paced crew.recorded]
  exact paced.mono fun _ _ h => h.1

end Made

/-! ## 3. A session's crew -/

section Session

variable [Log.Logbook σ] [Watch.Mailboxed σ] [Stoppable σ] {w : Surroundings O σ}
  {launch : Child.LaunchPlan Seconds} {stop : Child.StopPlan Seconds} {polls : Nat}
  {p q : Fault → Prop} {interval : Seconds}

omit [Stoppable σ] in
/-- **What breaks a run.** A launch, a stop or a poll breaks it with a fault of the system that is
    not taken, and a wait with one of the observers. -/
theorem breaks_of_made (hp : Child.Troubled p w.processes) (ht : Child.Punctual p stop)
    (hq : Watch.Troubled q w.observers) (hi : interval < 0 → q .negativeTimeout)
    {call : Call (Watch.Watcher Seconds O × σ)} {f : Fault}
    (made : call.Made ((Session.crew w launch stop polls).paced interval)) (hf : call.Breaks f) :
    if call.isWait then q f else p f := by
  cases call with
  | launch b r a =>
    obtain ⟨i, made⟩ := made
    obtain ⟨rfl, hf⟩ := hf
    obtain ⟨argv, reason, code, rfl⟩ | hp :=
      Child.launch_raises hp ht launch polls i b.2 f (congrArg Prod.fst made)
    · cases hf
    · exact hp
  | stop b c r a =>
    obtain ⟨rfl, hf⟩ := hf
    obtain ⟨pid, rfl⟩ | hp := Child.stop_raises hp ht polls c b.2 f (congrArg Prod.fst made)
    · cases hf
    · exact hp
  | poll b c r a =>
    obtain rfl : r = .raised f := hf
    exact hp.poll c.pid b.2 f (congrArg Prod.fst made)
  | wait b r a =>
    obtain ⟨phase, t, made⟩ := made
    obtain rfl : r = .raised f := hf
    exact Watch.Watcher.wait_raises hq w.cwd hi b f (congrArg Prod.fst made)

/-- **What a run takes, and what it lets through.** Whatever fails around it, a run reports every
    failed start and every survivor of a stop before it does anything else, and goes on. It ends
    with an answer only once a shutdown is asked for. It ends with a fault only if it was begun with
    an instance held, or if its last call ended with one of the faults that are not taken: for a
    launch, a stop or a poll one of the system's that is neither about a missing process nor the
    refusal to spawn one, and for a wait one of the observers'. -/
theorem run_contained (hp : Child.Troubled p w.processes) (ht : Child.Punctual p stop)
    (hq : Watch.Troubled q w.observers) (hi : interval < 0 → q .negativeTimeout) (s : Supervisor)
    (x : Watch.Watcher Seconds O × σ) (patience : Nat) :
    Ends (run (Session.crew w launch stop polls).recorded interval patience) (s, [], x) fun o y =>
      Reported y.2.1 y.2.2 ∧
      match o with
      | .done _ => Smooth y.2.1 ∧ Stoppable.asked y.2.2 = true
      | .raised f => (y.2.1 = [] ∧ ∃ c, s.child = some c ∧ f = .alreadyHeld c.pid) ∨
          ∃ pre call, y.2.1 = pre ++ [call] ∧ Smooth pre ∧ call.Breaks f ∧
            if call.isWait then q f else p f
      | .unfinished =>
        Smooth y.2.1 ∧ (waits y.2.1 = patience ∨ ∃ call ∈ y.2.1, ¬ call.Finished) := by
  have keeps := Reported.keeps (Session.crew w launch stop polls)
  have reported := keeps.run interval patience (x := (s, [], x)) (Reported.nil x)
  refine Ends.and (reported.mono fun _ _ h => h.1) ?_
  cases held : s.child with
  | some c => exact Ends.of_result (run_held held interval patience) (.inl ⟨rfl, c, rfl, rfl⟩)
  | none =>
    have made := run_made (Session.crew w launch stop polls) interval patience s x
    have told : Ends (run (Session.crew w launch stop polls).recorded interval patience) (s, [], x)
        fun o y => Looped (0 + patience) o y.2 := run_told .nil rfl held interval patience
    refine (told.and made).mono fun o y h => ?_
    obtain ⟨looped, made⟩ := h
    rw [Nat.zero_add] at looped
    cases o with
    | done u => exact looped
    | unfinished => exact looped
    | raised f =>
      obtain ⟨pre, call, led, hf, smooth⟩ := looped
      have last : call ∈ y.2.1 := led ▸ List.mem_append_right _ List.mem_cons_self
      exact .inr ⟨pre, call, led, smooth, hf, breaks_of_made hp ht hq hi (made call last) hf⟩

end Session

/-! ## 4. Where nobody may be killed -/

section Lookout

open Watch (Lookout)
open Watch.Lookout (root sentry guarded edit)

/-- Processes that run, and that nobody may kill. -/
def wardens : Child.Host Seconds Lookout where
  spawn _ := pure 1
  find _ := pure ()
  terminate _ := pure ()
  kill pid := .raise (.accessDenied pid)
  descendants _ := pure []
  status _ := pure .running
  waitAll ps _ := pure ps
  now := pure 0
  reap _ _ := pure none
  poll _ := pure none
  pipe _ _ := pure none
  closePipe _ _ := pure ()
  inBackground _ _ := pure ()

/-- A lookout with processes that nobody may kill. -/
def barracks : Surroundings Nat Lookout where
  cwd := root
  tree _ := .empty
  mayRead _ _ := true
  readEnv _ _ _ := ⟨[], .ok []⟩
  processes := wardens
  observers := Lookout.host root
  isolation := .session
  setUpLog _ _ := pure ()
  setTitle _ := pure ()

theorem troubled_wardens : Child.Troubled (fun f => ∃ pid, f = .accessDenied pid) wardens where
  spawn _ := .pure _
  find _ := .pure _
  terminate _ := .pure _
  kill pid := .raise (.inr ⟨pid, rfl⟩)
  descendants _ := .pure _
  status _ := .pure _
  waitAll _ _ := .pure _
  now := .pure _
  reap _ _ := .pure _
  poll _ := .pure _
  pipe _ _ := .pure _
  inBackground _ _ := .pure _

theorem troubled_host (cwd : Path) :
    Watch.Troubled (· = Lookout.refused) (Lookout.host cwd) where
  build _ _ := nofun
  schedule _ _ _ := .modify _
  start o s f := by
    intro hf
    unfold Lookout.host Lookout.begin at hf
    simp only at hf
    split at hf
    · cases hf
    · cases hf
      rfl
  stop _ := .modify _
  alive _ := .read _
  await _ := (Raises.modify _).inner
  pause _ := (Raises.modify _).inner.bind fun _ => .read _
  others := (Raises.modify _).inner

/-- How the crew of the barracks stops. -/
def barracksStop : Child.StopPlan Seconds := ⟨.whole 0, .whole 5, .whole 1⟩

theorem punctual_barracksStop (p : Fault → Prop) : Child.Punctual p barracksStop := by
  intro time ht now f late
  simp only [barracksStop, List.mem_cons, List.not_mem_nil, or_false] at ht
  rcases ht with rfl | rfl
  · exact absurd late (Child.later_whole (i := 0) (r := .ofInt 0) rfl now f)
  · exact absurd late (Child.later_whole (i := 5) (r := .ofInt 5) rfl now f)

/-- The crew of the barracks. -/
def barracksCrew : Crew Seconds (Watch.Watcher Seconds Nat × Lookout) :=
  Session.crew barracks ⟨"server", false, .whole 0, .session⟩ barracksStop 3

/-- A run in the barracks, where a change arrives during the first wait. -/
def barracksRun : Outcome Unit × Supervisor × List (Call (Watch.Watcher Seconds Nat × Lookout)) ×
    Watch.Watcher Seconds Nat × Lookout :=
  run barracksCrew.recorded (.whole 1) 3
    (ofInvocation ⟨["server"], root⟩, [], guarded ([[], [.event edit], [], []]))

/-- The change is answered by a stop that is denied, and with that the run is over. -/
theorem run_contained_denied :
    barracksRun.1 = .raised (.accessDenied 1) ∧
      ∃ pre call, barracksRun.2.2.1 = pre ++ [call] ∧ Smooth pre ∧
        call.Breaks (.accessDenied 1) ∧ call.isWait = false := by
  have ended : barracksRun.1 = .raised (.accessDenied 1) := by with_unfolding_all rfl
  have positive : ¬ (Seconds.whole 1 < 0) := by decide
  have contained : Ends (run barracksCrew.recorded (.whole 1) 3)
      (ofInvocation ⟨["server"], root⟩, [], guarded [[], [.event edit], [], []]) _ :=
    run_contained troubled_wardens (punctual_barracksStop _) (troubled_host root)
      (fun h => absurd h positive) _ _ 3
  obtain ⟨-, ⟨-, c, held, -⟩ | ⟨pre, call, led, smooth, breaks, allowed⟩⟩ :=
    contained.result (Prod.ext ended rfl)
  · cases held
  · refine ⟨ended, pre, call, led, smooth, breaks, ?_⟩
    cases waited : call.isWait with
    | false => rfl
    | true =>
      rw [waited] at allowed
      cases allowed

end Lookout

end Respawn.Supervisor
