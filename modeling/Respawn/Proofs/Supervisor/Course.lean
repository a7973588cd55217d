import Respawn.Proofs.Supervisor.Containment
import Respawn.Rehearsal.StandIns

/-!
# The course of a run

A run is one launch and then rounds, and a round begins with a wait. Where no trigger is given, the
instance that is held is looked at. Where one is given, what is held is stopped and, unless it
survives, a launch follows. All this comes to its end before the next wait.

* `Response`: what is done between two waits, by what is held and by what the first of them gave;
* `round_course`, `run_course`: every round adds one wait with its response, and so does a run;
* `one_restart_per_trigger`: how many restarts, launches and stops there are in a run that returns.
-/

namespace Respawn.Supervisor

open Respawn.Action (Ends)

variable {T σ : Type}

/-! ## 1. Counting calls -/

/-- A wait that gave a trigger. -/
def Call.isTrigger : Call σ → Bool
  | .wait _ (.done (some _)) _ => true
  | _ => false

def Call.isLaunch : Call σ → Bool
  | .launch .. => true
  | _ => false

/-- A stop that failed. -/
def Call.isFailedStop : Call σ → Bool
  | .stop _ _ (.raised _) _ => true
  | _ => false

def triggers (l : List (Call σ)) : Nat := l.countP Call.isTrigger

def launches (l : List (Call σ)) : Nat := l.countP Call.isLaunch

def failedStops (l : List (Call σ)) : Nat := l.countP Call.isFailedStop

/-- What is held after all the calls. -/
def holding (l : List (Call σ)) : Option Child.Handle := l.foldl Call.leaves none

/-- The calls before the next wait. -/
def untilWait (l : List (Call σ)) : List (Call σ) := l.takeWhile fun call => !call.isWait

theorem holding_append (l m : List (Call σ)) :
    holding (l ++ m) = m.foldl Call.leaves (holding l) := List.foldl_append

theorem untilWait_of_no_wait {l : List (Call σ)} (h : ∀ call ∈ l, call.isWait = false) :
    untilWait l = l := by
  induction l with
  | nil => rfl
  | cons first rest ih =>
    have through : (!first.isWait) = true := by rw [h first List.mem_cons_self]; rfl
    have rest := ih fun call hm => h call (List.mem_cons_of_mem _ hm)
    unfold untilWait at rest ⊢
    rw [List.takeWhile_cons, if_pos through, rest]

/-- What comes after a wait does not count. -/
theorem untilWait_append {call : Call σ} (h : call.isWait = true) (l m : List (Call σ)) :
    untilWait (l ++ call :: m) = untilWait l := by
  have stops : untilWait (call :: m) = [] := List.takeWhile_cons_of_neg (by simp [h])
  induction l with
  | nil => exact stops
  | cons first rest ih =>
    unfold untilWait at ih ⊢
    rw [List.cons_append, List.takeWhile_cons, List.takeWhile_cons, ih]

/-! ## 2. Responses -/

/-- A launch of the invocation that gives an instance, or says that the program did not start. -/
structure Attempt (crew : Crew T σ) (i : Invocation) (b : σ) (r : Outcome Child.Handle) (a : σ) :
    Prop where
  made : crew.launch i b = (r, a)
  taken : (∃ c, r = .done c) ∨ ∃ f, r = .raised f ∧ isStartFailure f = true

/-- What is done between two waits, by what is held and by what the first of them gave. -/
inductive Response (crew : Crew T σ) (i : Invocation) :
    Option Child.Handle → Option Watch.Trigger → List (Call σ) → Prop
  | quiet : Response crew i none none []
  | looked {b c r a} : Response crew i (some c) none [.poll b c r a]
  | started {t b r a} (attempt : Attempt crew i b r a) :
      Response crew i none (some t) [.launch b r a]
  | replaced {t b c a b' r a'} (attempt : Attempt crew i b' r a') :
      Response crew i (some c) (some t) [.stop b c (.done ()) a, .launch b' r a']
  | kept {t b c f a} (survived : isSurvival f = true) :
      Response crew i (some c) (some t) [.stop b c (.raised f) a]

/-- A launch, and then waits that came to their end, each with its response. -/
inductive Course (crew : Crew T σ) (i : Invocation) : List (Call σ) → Prop
  | begun {b r a} (attempt : Attempt crew i b r a) : Course crew i [.launch b r a]
  | round {l b given a calls} (course : Course crew i l)
      (response : Response crew i (holding l) given calls) :
      Course crew i (l ++ .wait b (.done given) a :: calls)

section Course

variable {crew : Crew T σ} {i : Invocation} {l calls : List (Call σ)}
  {held : Option Child.Handle} {given : Option Watch.Trigger}

/-- There is no wait within a response. -/
theorem Response.no_wait (h : Response crew i held given calls) :
    ∀ call ∈ calls, call.isWait = false := by
  cases h <;> simp [Call.isWait]

/-- One wait with its response: a trigger is answered by a launch or by a failed stop. -/
theorem Response.counts (h : Response crew i held given calls) (b a : σ) :
    launches calls + failedStops calls = triggers (.wait b (.done given) a :: calls) := by
  cases h <;> rfl

/-- Nor does a response give a trigger. -/
theorem Response.untriggered (h : Response crew i held given calls) : triggers calls = 0 := by
  cases h <;> rfl

theorem Response.attempt (h : Response crew i held given calls) {b r a}
    (hm : .launch b r a ∈ calls) : Attempt crew i b r a := by
  cases h with
  | quiet => exact absurd hm List.not_mem_nil
  | looked => exact nomatch List.mem_singleton.1 hm
  | started attempt =>
    cases List.mem_singleton.1 hm
    exact attempt
  | replaced attempt =>
    rcases List.mem_cons.1 hm with hm | hm
    · exact nomatch hm
    · cases List.mem_singleton.1 hm
      exact attempt
  | kept => exact nomatch List.mem_singleton.1 hm

/-- There is one launch more than there are triggers whose stop did not fail. -/
theorem Course.counts (h : Course crew i l) : launches l + failedStops l = 1 + triggers l := by
  induction h with
  | begun attempt => rfl
  | @round l b given a calls course response ih =>
    have here := response.counts b a
    have split (p : Call σ → Bool) : (l ++ .wait b (.done given) a :: calls).countP p =
        l.countP p + (Call.wait b (.done given) a :: calls).countP p := List.countP_append
    have launch : launches (.wait b (.done given) a :: calls) = launches calls := rfl
    have failed : failedStops (.wait b (.done given) a :: calls) = failedStops calls := rfl
    unfold launches failedStops triggers at *
    rw [split, split, split]
    omega

/-- Only stops that are made for a trigger can fail. -/
theorem Course.failedStops_le (h : Course crew i l) : failedStops l ≤ triggers l := by
  induction h with
  | begun attempt => exact Nat.le_refl 0
  | @round l b given a calls course response ih =>
    have here : failedStops (.wait b (.done given) a :: calls) ≤
        triggers (.wait b (.done given) a :: calls) := by
      rw [← response.counts b a]
      exact Nat.le_add_left _ _
    unfold failedStops triggers at *
    rw [List.countP_append, List.countP_append]
    exact Nat.add_le_add ih here

theorem Course.attempt (h : Course crew i l) {b r a} (hm : .launch b r a ∈ l) :
    Attempt crew i b r a := by
  induction h with
  | begun attempt =>
    cases List.mem_singleton.1 hm
    exact attempt
  | round course response ih =>
    rcases List.mem_append.1 hm with hm | hm
    · exact ih hm
    · rcases List.mem_cons.1 hm with hm | hm
      · exact nomatch hm
      · exact response.attempt hm

theorem Course.untilWait_eq (h : Course crew i l) : ∃ b r a, untilWait l = [.launch b r a] := by
  induction h with
  | begun attempt => exact ⟨_, _, _, rfl⟩
  | round course response ih =>
    rw [untilWait_append rfl]
    exact ih

/-- **Wherever a trigger was waited for**, the wait came to its end and was answered by the response
    that is due. -/
theorem Course.response_at (h : Course crew i l) :
    ∀ {pre call post}, l = pre ++ call :: post → call.isWait = true → ∃ b given a,
      call = .wait b (.done given) a ∧ Response crew i (holding pre) given (untilWait post) := by
  induction h with
  | begun attempt =>
    intro pre call post he hw
    have hm := he ▸ List.mem_append_right pre (List.mem_cons_self (a := call) (l := post))
    rw [List.mem_singleton.1 hm] at hw
    cases hw
  | @round l b given a calls course response ih =>
    intro pre call post he hw
    have last : call = .wait b (.done given) a ∧ post = calls → pre = l → ∃ b given a,
        call = .wait b (.done given) a ∧ Response crew i (holding pre) given (untilWait post) := by
      rintro ⟨rfl, rfl⟩ rfl
      refine ⟨b, given, a, rfl, ?_⟩
      rwa [untilWait_of_no_wait response.no_wait]
    rcases List.append_eq_append_iff.1 he with ⟨mid, rfl, hmid⟩ | ⟨mid, rfl, hmid⟩
    · cases mid with
      | nil =>
        obtain ⟨rfl, rfl⟩ := List.cons.inj hmid
        exact last ⟨rfl, rfl⟩ (List.append_nil l)
      | cons first mid =>
        -- The place would lie within the response, where nothing is waited for.
        have hm : call ∈ calls := by
          rw [(List.cons.inj hmid).2]
          exact List.mem_append_right _ List.mem_cons_self
        rw [response.no_wait call hm] at hw
        cases hw
    · cases mid with
      | nil =>
        obtain ⟨rfl, rfl⟩ := List.cons.inj hmid
        exact last ⟨rfl, rfl⟩ (List.append_nil pre).symm
      | cons first mid =>
        rw [List.cons_append] at hmid
        obtain ⟨rfl, rfl⟩ := List.cons.inj hmid
        obtain ⟨b', given', a', hcall, due⟩ := ih rfl hw
        refine ⟨b', given', a', hcall, ?_⟩
        rwa [untilWait_append rfl]

end Course

/-! ## 3. Operations -/

/-- A supervisor with the course of its calls so far. -/
structure OnCourse (crew : Crew T σ) (i : Invocation) (x : Supervisor × List (Call σ) × σ) :
    Prop where
  invocation : x.1.invocation = i
  held : x.1.child = holding x.2.1
  restarts : x.1.restarts = triggers x.2.1
  course : Course crew i x.2.1

/-- What an operation has added to the calls so far, and what of the supervisor follows from that. -/
structure Adds (x y : Supervisor × List (Call σ) × σ) (added : List (Call σ)) : Prop where
  ledger : y.2.1 = x.2.1 ++ added
  invocation : y.1.invocation = x.1.invocation
  held : y.1.child = added.foldl Call.leaves x.1.child
  restarts : y.1.restarts = x.1.restarts

theorem Adds.none {x y : Supervisor × List (Call σ) × σ} (ledger : y.2.1 = x.2.1)
    (invocation : y.1.invocation = x.1.invocation) (held : y.1.child = x.1.child)
    (restarts : y.1.restarts = x.1.restarts) : Adds x y [] :=
  ⟨ledger.trans (List.append_nil _).symm, invocation, held, restarts⟩

theorem Adds.trans {x y z : Supervisor × List (Call σ) × σ} {added more : List (Call σ)}
    (h : Adds x y added) (h' : Adds y z more) : Adds x z (added ++ more) where
  ledger := by rw [h'.ledger, h.ledger, List.append_assoc]
  invocation := h'.invocation.trans h.invocation
  held := by rw [h'.held, h.held, List.foldl_append]
  restarts := h'.restarts.trans h.restarts

/-- What is written down of a launch is what the crew answered. -/
theorem launch_of_recorded {crew : Crew T σ} {i : Invocation} {x y : List (Call σ) × σ}
    {r : Outcome Child.Handle} (h : crew.recorded.launch i x = (r, y)) :
    crew.launch i x.2 = (r, y.2) :=
  have written : writing .launch (crew.launch i) x = (r, y) := h
  (writing_eq written).1

variable [Log.Logbook σ] {crew : Crew T σ} {i : Invocation}

/-- A start that answers is a launch of the invocation. -/
theorem start_course {s : Supervisor} (free : s.child = none) (l : List (Call σ)) (w : σ) :
    Ends (start crew.recorded) (s, l, w) fun o y => ∀ started, o = .done started →
      ∃ b r a, Attempt crew s.invocation b r a ∧ Adds (s, l, w) y [.launch b r a] := by
  refine Ends.mono (P := fun o y => Started crew.recorded (s, l, w) (o, y)) (started _ _) ?_
  intro o y begun
  cases begun with
  | refused held => exact nomatch free.symm.trans held
  | @launched _ _ y c _ call =>
    intro _ _
    have made := launch_of_recorded call
    exact ⟨w, .done c, y.2, ⟨made, .inl ⟨c, rfl⟩⟩, recorded_launch call, rfl, rfl, rfl⟩
  | @failed _ _ y f _ call hf =>
    intro _ _
    have made := launch_of_recorded call
    have led := recorded_launch call
    exact ⟨w, .raised f, y.2, ⟨made, .inr ⟨f, rfl, hf⟩⟩, led, rfl, rfl, rfl⟩
  | broken free call hf => exact nofun
  | unfinished free call => exact nofun

/-- A restart that answers is the response to a trigger. -/
theorem restart_course (s : Supervisor) (l : List (Call σ)) (w : σ) (t : Watch.Trigger) :
    Ends (restart crew.recorded) (s, l, w) fun o y => ∀ restarted, o = .done restarted →
      ∃ added, Response crew s.invocation s.child (some t) added ∧
        Adds ({ s with restarts := s.restarts + 1 }, l, w) y added := by
  refine Ends.of_modify ?_
  have stopping : Ends (stop crew.recorded) ({ s with restarts := s.restarts + 1 }, l, w) fun o y =>
      Stopped crew.recorded ({ s with restarts := s.restarts + 1 }, l, w) (o, y) := stopped _ _
  refine stopping.bind ?_ (fun _ _ _ => nofun) fun _ _ => nofun
  intro b y ended
  cases ended with
  | idle free =>
    refine (start_course (s := { s with restarts := s.restarts + 1, phase := .idle }) free l w).mono ?_
    intro o y started b hb
    obtain ⟨b, r, a, attempt, adds⟩ := started b hb
    refine ⟨_, ?_, adds.ledger, adds.invocation, adds.held, adds.restarts⟩
    have free : s.child = none := free
    rw [free]
    exact .started attempt
  | @stopped _ _ y c held call =>
    obtain ⟨l', w'⟩ := y
    have led := recorded_stop call
    refine (start_course (s := { s with restarts := _, child := none, phase := .idle }) rfl l' w').mono ?_
    intro o z started b hb
    obtain ⟨b, r, a, attempt, adds⟩ := started b hb
    have held : s.child = some c := held
    refine ⟨[.stop w c (.done ()) w', .launch b r a], ?_, ?_⟩
    · rw [held]
      exact .replaced attempt
    · have first : Adds ({ s with restarts := s.restarts + 1 }, l, w)
          ({ s with restarts := s.restarts + 1, child := none, phase := .idle }, l', w')
          [.stop w c (.done ()) w'] := ⟨led, rfl, rfl, rfl⟩
      exact first.trans adds
  | @survived _ _ y c f held call hf =>
    intro b _
    have led := recorded_stop call
    have held : s.child = some c := held
    refine ⟨[.stop w c (.raised f) y.2], ?_, led, rfl, rfl, rfl⟩
    rw [held]
    exact .kept hf

/-- A look at the instance is the response where no trigger is given. -/
theorem check_course (s : Supervisor) (l : List (Call σ)) (w : σ) :
    Ends (check crew.recorded) (s, l, w) fun o y => ∀ looked, o = .done looked →
      ∃ added, Response crew s.invocation s.child none added ∧ Adds (s, l, w) y added := by
  refine Ends.mono (P := fun o y => Checked crew.recorded (s, l, w) (o, y)) (checked _ _) ?_
  intro o y looked
  cases looked with
  | idle free =>
    intro _ _
    refine ⟨[], ?_, .none rfl rfl rfl rfl⟩
    rw [free]
    exact .quiet
  | @alive _ _ y c held call =>
    intro _ _
    refine ⟨[.poll w c (.done none) y.2], ?_, recorded_poll call, rfl, held.symm ▸ rfl, rfl⟩
    rw [held]
    exact .looked
  | @ended _ _ y c code held call =>
    intro _ _
    have led := recorded_poll call
    refine ⟨[.poll w c (.done (some code)) y.2], ?_, led, rfl, rfl, rfl⟩
    rw [held]
    exact .looked
  | broken held call => exact nofun
  | unfinished held call => exact nofun

/-! ## 4. The loop -/

section Rounds

variable {s : Supervisor} {l added : List (Call σ)} {w w' v : σ} {given : Option Watch.Trigger}
  {n : Nat} {x y : Supervisor × List (Call σ) × σ}

omit [Log.Logbook σ] in
/-- One more wait and its response. -/
theorem OnCourse.extend (h : OnCourse crew i (s, l, w))
    (response : Response crew s.invocation s.child given added)
    (adds : Adds ({ s with restarts := n }, l ++ [.wait w (.done given) w'], v) y added)
    (count : n = s.restarts + triggers [.wait w (.done given) w']) : OnCourse crew i y where
  invocation := adds.invocation.trans h.invocation
  held := by
    have before : s.child = holding l := h.held
    have waited : holding (l ++ [.wait w (.done given) w']) = s.child := by
      rw [holding_append, before]
      rfl
    rw [adds.held, adds.ledger, holding_append, waited]
  restarts := by
    have before : s.restarts = triggers l := h.restarts
    have none : triggers added = 0 := response.untriggered
    have counted : triggers (l ++ [.wait w (.done given) w'] ++ added) =
        triggers l + triggers [.wait w (.done given) w'] + triggers added := by
      unfold triggers
      rw [List.countP_append, List.countP_append]
    rw [adds.restarts, adds.ledger, counted, none, Nat.add_zero, ← before]
    exact count
  course := by
    have held : s.child = holding l := h.held
    have same : s.invocation = i := h.invocation
    rw [held, same] at response
    rw [adds.ledger, List.append_assoc]
    exact h.course.round response

/-- **A round is a wait and its response.** -/
theorem round_course (interval : T) (h : OnCourse crew i x) :
    Ends (round crew.recorded interval) x fun o y => ∀ u, o = .done u → OnCourse crew i y := by
  obtain ⟨s, l, w⟩ := x
  have waits : Ends (crew.recorded.wait s.phase interval).inner (s, l, w) fun o y =>
      y = (s, l ++ [.wait w o y.2.2], y.2.2) := rfl
  refine Ends.of_read (waits.bind ?_ (fun _ _ _ => nofun) fun _ _ => nofun)
  intro given y waited
  rw [waited]
  cases given with
  | none =>
    refine (check_course s _ y.2.2).mono fun o z looked u done => ?_
    obtain ⟨added, response, adds⟩ := looked u done
    exact h.extend response adds rfl
  | some t =>
    refine Ends.of_read (Ends.of_modify ((restart_course s _ _ t).bind ?_ (fun _ _ _ => nofun)
      fun _ _ => nofun))
    intro b z restarted u _
    obtain ⟨added, response, adds⟩ := restarted b rfl
    exact h.extend response adds rfl

variable [Stoppable σ]

theorem rounds_course (interval : T) (patience : Nat) : ∀ {x}, OnCourse crew i x →
    Ends (rounds crew.recorded interval patience) x fun o y =>
      ∀ u, o = .done u → OnCourse crew i y := by
  induction patience with
  | zero => exact fun _ => nofun
  | succ patience ih =>
    intro x h
    refine Ends.of_read ?_
    split
    · exact fun _ _ => h
    · refine (round_course interval h).bind ?_ (fun _ _ _ => nofun) fun _ _ => nofun
      exact fun u y once => ih (once u rfl)

/-- **A run is a launch, and then waits with their responses.** -/
theorem run_course (interval : T) (patience : Nat) (w : σ) :
    Ends (run crew.recorded interval patience) (ofInvocation i, [], w) fun o y =>
      ∀ u, o = .done u → OnCourse crew i y := by
  refine Ends.of_read (Ends.of_modify ?_)
  refine (start_course (s := ofInvocation i) rfl [] _).bind ?_ (fun _ _ _ => nofun) fun _ _ => nofun
  intro b y begun
  obtain ⟨b, r, a, attempt, adds⟩ := begun b rfl
  refine rounds_course interval patience ⟨adds.invocation, ?_, ?_, ?_⟩
  · rw [adds.held, adds.ledger]
    rfl
  · rw [adds.restarts, adds.ledger]
    rfl
  · rw [adds.ledger]
    exact .begun attempt

/-- **One restart for each trigger.** Where a run returns, its restarts are as many as the triggers
    it was given, and its launches are one more, less the triggers whose stop failed. Every launch
    is of the invocation that the supervisor was made with. The first wait comes after one launch,
    and every wait is answered before the next: without a trigger by a look at what is held, and for
    a trigger by a stop if an instance is held, and by a launch unless that stop failed. -/
theorem one_restart_per_trigger {interval : T} {patience : Nat} {w w' : σ} {s : Supervisor}
    (returned : run crew interval patience (ofInvocation i, w) = (.done (), s, w')) :
    ∃ l, run crew.recorded interval patience (ofInvocation i, [], w) = (.done (), s, l, w') ∧
      s.restarts = triggers l ∧
      launches l = 1 + triggers l - failedStops l ∧ failedStops l ≤ triggers l ∧
      (∀ b r a, .launch b r a ∈ l → Attempt crew i b r a) ∧
      (∃ b r a, untilWait l = [.launch b r a]) ∧
      (∀ pre call post, l = pre ++ call :: post → call.isWait = true → ∃ b given a,
        call = .wait b (.done given) a ∧ Response crew i (holding pre) given (untilWait post)) ∧
      s.child = holding l ∧ Reported l w' := by
  have covers : Action.Covers unwritten (run crew.recorded interval patience)
      (run crew interval patience) := run_covers interval patience
  have covered := covers (ofInvocation i, [], w)
  rcases written : run crew.recorded interval patience (ofInvocation i, [], w) with ⟨o, s', l, v⟩
  have same : run crew interval patience (ofInvocation i, w) = (o, s', v) := by
    rw [written] at covered
    exact covered
  obtain ⟨rfl, rfl, rfl⟩ : o = .done () ∧ s' = s ∧ v = w' := by
    simpa only [Prod.mk.injEq] using same.symm.trans returned
  have h := (run_course interval patience w).result written () rfl
  have reported := (Reported.keeps crew).run interval patience
    (x := (ofInvocation i, [], w)) (Reported.nil w)
  have counts := h.course.counts
  refine ⟨l, rfl, h.restarts, ?_, h.course.failedStops_le, fun b r a hm => h.course.attempt hm,
    h.course.untilWait_eq, fun pre call post he hw => h.course.response_at he hw, h.held,
    (Ends.result reported written).1⟩
  exact (Nat.sub_eq_of_eq_add counts.symm).symm

end Rounds

/-! ## 5. A rehearsal -/

section Rehearsed

open Rehearsal (StandIns)

/-- The second launch fails, and the first stop. -/
def understudies : StandIns :=
  { StandIns.waiting "server" [.success, .failure "no such program" none] [.survived] with
    turns := [.turn none false (some 1), .turn none false (some 2), .turn none false none,
      .turn none false (some 3), .turn (some 1) false none, .turn none false (some 4)] }

/-- The program that is rehearsed. -/
def rehearsed : Invocation := ⟨["server"], .top⟩

/-- A run of four triggers. -/
def performance : Outcome Unit × Supervisor × StandIns :=
  run StandIns.crew (.whole 1) 8 (ofInvocation rehearsed, understudies)

/-- Whether an action has given its answer. -/
instance {α : Type} : (o : Outcome α) → Decidable (∃ a, o = .done a)
  | .done a => isTrue ⟨a, rfl⟩
  | .raised _ => isFalse nofun
  | .unfinished => isFalse nofun

/-- Four triggers, of which one met an instance that survived: four launches. -/
theorem one_restart_per_trigger_rehearsed :
    performance.1 = .done () ∧ performance.2.1.restarts = 4 ∧
      ∃ l : List (Call StandIns), triggers l = 4 ∧ failedStops l = 1 ∧ launches l = 4 := by
  obtain ⟨u, ended⟩ : ∃ u, performance.1 = .done u := by decide +kernel
  have four : performance.2.1.restarts = 4 := by decide +kernel
  have survived : failedStops (run StandIns.crew.recorded (.whole 1) 8
      (ofInvocation rehearsed, [], understudies)).2.2.1 = 1 := by decide +kernel
  refine ⟨ended, four, ?_⟩
  unfold performance at ended four
  rcases returned : run StandIns.crew (.whole 1) 8 (ofInvocation rehearsed, understudies) with
    ⟨o, s, w⟩
  rw [returned] at ended four
  obtain rfl : o = .done u := ended
  obtain ⟨l, written, restarts, launched, -⟩ := one_restart_per_trigger returned
  rw [written] at survived
  have triggered : triggers l = 4 := restarts.symm.trans four
  rw [triggered, survived] at launched
  exact ⟨l, triggered, survived, launched⟩

end Rehearsed

end Respawn.Supervisor
