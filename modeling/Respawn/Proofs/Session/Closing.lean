import Respawn.Proofs.Child.Steady
import Respawn.Proofs.Supervisor.Containment
import Respawn.Proofs.Watch.Sole

/-!
# The closing of a session

However the supervision ends, what is held is stopped, and then the watcher. The second step is
taken only if the first one came to its end with an answer: a fault of the last stop takes the place
of everything that would have come after it.

* `Heedful`: a crew that brings no observer to life;
* `shutdown_stopped`: a shutdown is one stop of what is held;
* `supervise_closed`: what a session leaves behind.
-/

namespace Respawn.Session

open Respawn.Action (Ends)
open Supervisor (Between Crew Keeps Lasts Started Stopped Checked isSurvival)
open Watch (Dwindles Tame Watcher)
open Watch.Watcher (Dismissive Sole)

variable {O σ : Type} [Log.Logbook σ] [Watch.Mailboxed σ] [Stoppable σ]

/-! ## 1. While the session is going on -/

/-- A crew with the watcher for its triggers. Nothing else that it does, and no request for a
    shutdown, brings an observer to life. -/
structure Heedful (w : Surroundings O σ) (living : σ → O → Prop)
    (crew : Crew Seconds (Watcher Seconds O × σ)) : Prop where
  ask (s) : Dwindles living s (Stoppable.ask s)
  launch (i v s) : Ends (crew.launch i) (v, s) fun _ y => y.1 = v ∧ Dwindles living s y.2
  stop (c v s) : Ends (crew.stop c) (v, s) fun _ y => y.1 = v ∧ Dwindles living s y.2
  poll (c v s) : Ends (crew.poll c) (v, s) fun _ y => y.1 = v ∧ Dwindles living s y.2
  wait (phase interval) : crew.wait phase interval = Watcher.wait w.observers w.cwd (some interval)

/-- A session's own crew is heedful if no call on the system brings an observer to life. -/
theorem heedful_crew {w : Surroundings O σ} {living : σ → O → Prop}
    (ask : ∀ s, Dwindles living s (Stoppable.ask s))
    (hs : Child.Steady (Dwindles living) id w.processes) (launch : Child.LaunchPlan Seconds)
    (stop : Child.StopPlan Seconds) (polls : Nat) :
    Heedful w living (crew w launch stop polls) := by
  have dwindles {s t : σ} (h : Relation.ReflTransGen (Dwindles living) s t) :
      Dwindles living s t := by
    induction h with
    | refl => exact .refl s
    | tail _ h ih => exact ih.trans h
  exact {
    ask
    launch := fun i v s => ⟨rfl, dwindles (Child.launch_steady hs stop launch polls i s)⟩
    stop := fun c v s => ⟨rfl, dwindles (Child.stop_steady hs stop polls c s)⟩
    poll := fun c v s => ⟨rfl, dwindles (hs.poll c.pid s)⟩
    wait := fun _ _ => rfl }

section Going

variable {w : Surroundings O σ} {living : σ → O → Prop}
  {crew : Crew Seconds (Watcher Seconds O × σ)}

/-- No observer lives but the one that the watcher of the session holds. -/
def Orderly (living : σ → O → Prop) (x : Supervisor × (Watcher Seconds O × σ)) : Prop :=
  Sole living x.2

theorem Heedful.keeps (ht : Tame w.observers living) (hc : Heedful w living crew) :
    Keeps crew (Orderly living) (Orderly living) where
  weaken := id
  start {x y} h hx := by
    suffices orderly : Orderly living y.2 from ⟨orderly, fun _ => orderly⟩
    have launch {v v' : Watcher Seconds O × σ} {i o} (sole : Sole living v)
        (call : crew.launch i v = (o, v')) : Sole living v' :=
      (sole.while_others (hc.launch i)).result call
    cases h with
    | refused held => exact hx
    | launched free call => exact launch hx call
    | failed free call hf => exact (launch hx call).dwindles rfl (ht.note _ _)
    | broken free call hf => exact launch hx call
    | unfinished free call => exact launch hx call
  stop {x y} h hx := by
    suffices orderly : Orderly living y.2 from ⟨orderly, fun _ => orderly⟩
    have stop {v v' : Watcher Seconds O × σ} {c o} (sole : Sole living v)
        (call : crew.stop c v = (o, v')) : Sole living v' :=
      (sole.while_others (hc.stop c)).result call
    cases h with
    | idle free => exact hx
    | stopped held call => exact stop hx call
    | survived held call hf => exact (stop hx call).dwindles rfl (ht.note _ _)
    | broken held call hf => exact stop hx call
    | unfinished held call => exact stop hx call
  check {x y} h hx := by
    suffices orderly : Orderly living y.2 from ⟨orderly, fun _ => orderly⟩
    have poll {v v' : Watcher Seconds O × σ} {c o} (sole : Sole living v)
        (call : crew.poll c v = (o, v')) : Sole living v' :=
      (sole.while_others (hc.poll c)).result call
    cases h with
    | idle free => exact hx
    | alive held call => exact poll hx call
    | ended held call => exact (poll hx call).dwindles rfl (ht.note _ _)
    | broken held call => exact poll hx call
    | unfinished held call => exact poll hx call
  count hx := hx
  note r hx := hx.dwindles rfl (ht.note r _)
  ask hx := hx.dwindles rfl (hc.ask _)
  wait {s v} interval hx := by
    rw [hc.wait]
    exact (Watch.Watcher.wait_sole ht (some interval) hx).mono fun _ _ h => ⟨h, fun _ => h⟩

/-- However the supervision ends, no observer lives but the one that is held. -/
theorem untilInterrupted_orderly (ht : Tame w.observers living) (hc : Heedful w living crew)
    (interval : Seconds) (rounds : Nat) {x : Supervisor × (Watcher Seconds O × σ)}
    (hx : Orderly living x) :
    Ends (untilInterrupted crew interval rounds) x fun _ y => Orderly living y := by
  have run := ((hc.keeps ht).run interval rounds hx).mono fun _ _ h => h.1
  refine run.recover (fun _ _ h => h) (fun f y act hy ha => ?_) (fun _ _ h _ => h) fun _ h => h
  split at ha
  · cases ha
    exact hy.dwindles rfl (ht.note _ _)
  · cases ha

end Going

/-! ## 2. The last stop -/

section Shutdown

variable {crew : Crew Seconds (Watcher Seconds O × σ)}

/-- What a shutdown comes to, as the stop that it consists of. -/
def verdictOf : Outcome Bool → Outcome Unit
  | .done _ => .done ()
  | .raised f => .raised f
  | .unfinished => .unfinished

omit [Log.Logbook σ] [Watch.Mailboxed σ] [Stoppable σ] in
theorem ignoring {x : Action (Supervisor × (Watcher Seconds O × σ)) Bool}
    {s z : Supervisor × (Watcher Seconds O × σ)} {r : Outcome Bool} (h : x s = (r, z)) :
    (do let _ ← x : Action (Supervisor × (Watcher Seconds O × σ)) Unit) s = (verdictOf r, z) := by
  cases r <;> simp [Action.after, h, verdictOf]

omit [Watch.Mailboxed σ] in
/-- **A shutdown is one stop of what is held**, after a request and at most one record. -/
theorem shutdown_stopped (crew : Crew Seconds (Watcher Seconds O × σ)) (s : Supervisor)
    (v : Watcher Seconds O × σ) : ∃ v' r z, Between v v' ∧ Stopped crew (s, v') (r, z) ∧
      Supervisor.shutdown crew (s, v) = (verdictOf r, z) := by
  have asked : Between v (Stoppable.ask v) := .ask v
  have told : ∃ v', Between v v' ∧
      Supervisor.shutdown crew (s, v) = (do let _ ← Supervisor.stop crew) (s, v') := by
    cases held : s.child with
    | none =>
      refine ⟨_, asked, ?_⟩
      simp [Supervisor.shutdown, Supervisor.own, Action.after, held]
    | some c =>
      refine ⟨_, .trans asked (Between.note Supervisor.shutdownRecord _), ?_⟩
      simp [Supervisor.shutdown, Supervisor.own, Action.after, held]
  obtain ⟨v', between, shut⟩ := told
  have stopped := Supervisor.stopped crew (s, v')
  rcases stop : Supervisor.stop crew (s, v') with ⟨r, z⟩
  rw [stop] at stopped
  exact ⟨v', r, z, between, stopped, shut.trans (ignoring stop)⟩

end Shutdown

/-! ## 3. What is left behind -/

section Closed

variable {w : Surroundings O σ} {living : σ → O → Prop}
  {crew : Crew Seconds (Watcher Seconds O × σ)}

theorem between_orderly (ht : Tame w.observers living) (hc : Heedful w living crew)
    {v v' : Watcher Seconds O × σ} (h : Between v v') (hv : Sole living v) :
    Sole living v' ∧ v'.1 = v.1 := by
  induction h with
  | refl => exact ⟨hv, rfl⟩
  | tail _ step ih =>
    obtain ⟨sole, same⟩ := ih
    rcases step with ⟨r, rfl⟩ | rfl
    · exact ⟨sole.dwindles rfl (ht.note r _), same⟩
    · exact ⟨sole.dwindles rfl (hc.ask _), same⟩

/-- What the closing comes to where the last stop came to its end with an answer. -/
theorem close_of_done (ht : Tame w.observers living) (hd : Dismissive w.observers living)
    {s u : Supervisor} {v v' : Watcher Seconds O × σ} (sole : Sole living v')
    (h : Supervisor.shutdown crew (s, v) = (.done (), u, v')) :
    ∃ y, close w crew (s, v) = (.done (), u, y) ∧ y.1.observer = none ∧ (∀ o, ¬ living y.2 o) ∧
      (Watch.Mailboxed.mailbox y).stopped = true := by
  rcases stop : Watcher.stop w.observers v' with ⟨r, y⟩
  obtain ⟨rfl, held, none, told⟩ := (Watch.Watcher.stop_ends ht hd sole).result stop
  refine ⟨Log.Logbook.note ⟨.info, logger, s!"Supervisor stopped after {u.restarts} restart(s)."⟩ y,
    ?_, held, (ht.note _ y.2).none none, (hd.note _ y.2).trans told⟩
  simp [close, Supervisor.own, Action.after, h, stop]

/-- **What a session leaves behind.** The watcher was started where no observer lived. However the
    supervision has ended, by the time the session is over what was still held has been stopped once
    more, and then:

    * if that stop ended with a survivor or with success, the watcher has been stopped, it holds no
      observer and none lives, and nothing is held exactly if the stop succeeded. The session ends
      as the supervision did;
    * if any other fault ended that stop, the session ends with this fault, and the watcher is left
      as the supervision left it. -/
theorem supervise_closed (ht : Tame w.observers living) (hd : Dismissive w.observers living)
    (hc : Heedful w living crew) (x₀ : Watcher Seconds O × σ) (none : ∀ o, ¬ living x₀.2 o)
    (started : (Watcher.start w.observers w.cwd x₀).1 = .done ()) (u : Supervisor)
    (interval : Seconds) (rounds : Nat)
    (finished : (supervise w crew interval rounds (u, (Watcher.start w.observers w.cwd x₀).2)).1 ≠
      .unfinished) :
    let loop := untilInterrupted crew interval rounds (u, (Watcher.start w.observers w.cwd x₀).2)
    let whole := supervise w crew interval rounds (u, (Watcher.start w.observers w.cwd x₀).2)
    ∃ v r z, Between loop.2.2 v ∧ Stopped crew (loop.2.1, v) (r, z) ∧
      ((∃ b, r = .done b ∧ whole.1 = loop.1 ∧ whole.2.1 = z.1 ∧ (b = true ↔ z.1.child = .none) ∧
          whole.2.2.1.observer = .none ∧ (∀ o, ¬ living whole.2.2.2 o) ∧
          (Watch.Mailboxed.mailbox whole.2.2).stopped = true) ∨
        ∃ f, r = .raised f ∧ isSurvival f = false ∧ whole = (.raised f, z) ∧
          whole.2.2.1 = loop.2.2.1) := by
  intro loop whole
  have begun : Orderly living (u, (Watcher.start w.observers w.cwd x₀).2) :=
    Watch.Watcher.start_sole ht x₀.1 none started
  have orderly : Orderly living loop.2 := untilInterrupted_orderly ht hc interval rounds begun
  obtain ⟨v, r, z, between, stopped, shut⟩ := shutdown_stopped crew loop.2.1 loop.2.2
  obtain ⟨sole, same⟩ := between_orderly ht hc between orderly
  have last : Orderly living z := ((hc.keeps ht).stop stopped sole).1
  refine ⟨v, r, z, between, stopped, ?_⟩
  obtain ⟨loop_over, close_over⟩ := Action.ended_of_ensuring finished
  cases r with
  | unfinished =>
    have closed : close w crew loop.2 = (.unfinished, z) := by
      simp [close, Action.after, shut, verdictOf]
    exact absurd (congrArg Prod.fst closed) close_over
  | raised f =>
    have closed : close w crew loop.2 = (.raised f, z) := Action.bind_raised shut _
    have ended : whole = (.raised f, z) := Action.ensuring_of_fault rfl loop_over closed
    refine .inr ⟨f, rfl, ?_, ended, ?_⟩
    · cases stopped with
      | broken held call hf => exact hf
    · rw [ended]
      cases stopped with
      | broken held call hf =>
        have left := (hc.stop _ v.1 v.2).result call
        exact left.1.trans same
  | done b =>
    obtain ⟨y, closed, observer, none, told⟩ := close_of_done (w := w) ht hd last shut
    have ended : whole = (loop.1, z.1, y) := Action.ensuring_of_clean rfl loop_over closed
    refine .inl ⟨b, rfl, ?_⟩
    rw [ended]
    refine ⟨rfl, rfl, ?_, observer, none, told⟩
    cases stopped with
    | idle free => exact iff_of_true rfl free
    | stopped held call => exact iff_of_true rfl rfl
    | survived held call hf =>
      refine iff_of_false Bool.false_ne_true fun free => ?_
      cases held.symm.trans free

end Closed

/-! ## 4. A last stop that is denied -/

section Lookout

open Watch (Lookout)
open Watch.Lookout (root sentry guarded)
open Supervisor (barracks barracksCrew barracksStop ofInvocation wardens)

theorem dismissive_host (cwd : Path) :
    Dismissive (Lookout.host cwd) fun s => (Lookout.view s).alive where
  note _ _ := rfl
  dismiss o s := by
    have buried : o ∉ (s.bury o).living := by simp [Lookout.bury]
    have dismissed : (do
        (Lookout.host cwd).stop o
        if ← (Lookout.host cwd).alive o then
          (Lookout.host cwd).join o Watcher.joinLimit : Action Lookout Unit) s =
          (.done (), s.bury o) := by
      simp [Lookout.host, Action.after, buried]
    refine Ends.of_result dismissed ⟨rfl, ?_, ?_, rfl⟩
    · exact fun _ ho => (Lookout.passes_bury cwd o s).later.alive ho
    · exact buried

theorem steady_wardens (living : Lookout → Nat → Prop) :
    Child.Steady (Dwindles living) id wardens where
  note _ := .of_eq fun _ => rfl
  spawn _ := .pure _
  find _ := .pure _
  terminate _ := .pure _
  kill _ := .raise _
  descendants _ := .pure _
  status _ := .pure _
  waitAll _ _ := .pure _
  now := .pure _
  reap _ _ := .pure _
  poll _ := .pure _
  pipe _ _ := .pure _
  closePipe _ _ := .pure _
  inBackground _ _ _ := .pure _

/-- The supervision ends as it should, the last stop is denied, and the observer lives on. -/
theorem supervise_closed_denied :
    let whole := supervise barracks barracksCrew (.whole 1) 3
      (ofInvocation ⟨["server"], root⟩, guarded [])
    whole.1 = .raised (.accessDenied 1) ∧ whole.2.2.2.living = [0] ∧
      ∃ s v z, Stopped barracksCrew (s, v) (.raised (.accessDenied 1), z) ∧ whole.2 = z := by
  intro whole
  have ended : whole.1 = .raised (.accessDenied 1) := by with_unfolding_all rfl
  have lives : whole.2.2.2.living = [0] := by with_unfolding_all rfl
  have heedful : Heedful barracks (fun s => (Lookout.view s).alive) barracksCrew :=
    heedful_crew (fun s _ ho => ho) (steady_wardens _) ⟨"server", false, .whole 0, .session⟩
      barracksStop 3
  have nobody : ∀ o, ¬ (Lookout.view (Lookout.waiting [])).alive o := fun o => List.not_mem_nil
  obtain ⟨v, r, z, -, stopped, ⟨b, -, -, -, -, -, none, -⟩ | ⟨f, rfl, -, fault, -⟩⟩ :=
    supervise_closed (Lookout.faithful_host root).tame (dismissive_host root) heedful
      (sentry, Lookout.waiting []) nobody (Lookout.start_sentry [])
      (ofInvocation ⟨["server"], root⟩) (.whole 1) 3
      (fun h => by cases ended.symm.trans h)
  · refine absurd ?_ (none 0)
    show 0 ∈ whole.2.2.2.living
    rw [lives]
    exact List.mem_cons_self
  · obtain rfl : Fault.accessDenied 1 = f := by
      have both : whole.1 = .raised f := congrArg Prod.fst fault
      exact Outcome.raised.inj (ended.symm.trans both)
    exact ⟨ended, lives, _, v, z, stopped, congrArg Prod.snd fault⟩

end Lookout

end Respawn.Session
