import Respawn.Proofs.Supervisor.Images
import Respawn.Proofs.Supervisor.Steps

/-!
# The ledger of calls

A supervisor does everything through its crew. Here each call on the crew is written down: what the
surroundings were before it, how it ended, and what they were after it. What is said of a whole life
of a supervisor is then said of its ledger.

* `recorded_mirrors`, `run_covers`, `carryOut_covers`: writing the calls down changes nothing;
* `Keeps.carryOut`: what every step keeps holds after any list of orders;
* `Carries.keeps`: what every call keeps, every step keeps. What is held follows the calls.
-/

namespace Respawn.Supervisor

open Respawn.Action (Agrees Covers Ends Without)

variable {T σ : Type}

/-! ## 1. Calls -/

/-- One call on the crew. -/
inductive Call (σ : Type) where
  | launch (before : σ) (result : Outcome Child.Handle) (after : σ)
  | stop (before : σ) (c : Child.Handle) (result : Outcome Unit) (after : σ)
  | poll (before : σ) (c : Child.Handle) (result : Outcome (Option Int)) (after : σ)
  | wait (before : σ) (result : Outcome (Option Watch.Trigger)) (after : σ)

namespace Call

/-- The surroundings when the call begins. -/
def before : Call σ → σ
  | .launch b _ _ | .stop b _ _ _ | .poll b _ _ _ | .wait b _ _ => b

/-- The surroundings when the call has ended. -/
def after : Call σ → σ
  | .launch _ _ a | .stop _ _ _ a | .poll _ _ _ a | .wait _ _ a => a

/-- The instance that a launch has given. -/
def launched : Call σ → Option Child.Handle
  | .launch _ (.done c) _ => some c
  | _ => none

/-- The instance that has been stopped. -/
def stopped : Call σ → Option Child.Handle
  | .stop _ c (.done _) _ => some c
  | _ => none

/-- The instance that was seen to have ended. -/
def ended : Call σ → Option Child.Handle
  | .poll _ c (.done (some _)) _ => some c
  | _ => none

/-- The instance that need not be held any longer. -/
def released (call : Call σ) : Option Child.Handle := call.stopped.or call.ended

/-- What is held after a call. -/
def leaves (held : Option Child.Handle) (call : Call σ) : Option Child.Handle :=
  if call.released.isSome then none else call.launched.or held

/-- What has to be held for a call: nothing for a launch, and for a stop or a poll the instance that
    it is about. -/
def Fits (held : Option Child.Handle) : Call σ → Prop
  | .launch _ _ _ => held = none
  | .stop _ c _ _ | .poll _ c _ _ => held = some c
  | .wait _ _ _ => True

/-- A call that came to its end. -/
def Finished : Call σ → Prop
  | .launch _ r _ => r ≠ .unfinished
  | .stop _ _ r _ => r ≠ .unfinished
  | .poll _ _ r _ => r ≠ .unfinished
  | .wait _ r _ => r ≠ .unfinished

/-- A call as the crew answers it. -/
def Made (crew : Crew T σ) : Call σ → Prop
  | .launch b r a => ∃ i, crew.launch i b = (r, a)
  | .stop b c r a => crew.stop c b = (r, a)
  | .poll b c r a => crew.poll c b = (r, a)
  | .wait b r a => ∃ phase interval, crew.wait phase interval b = (r, a)

end Call

/-- A place in a ledger that has one more call: the last one, or one of those before. -/
theorem cut_concat {l pre post : List (Call σ)} {call other : Call σ}
    (h : l ++ [call] = pre ++ other :: post) :
    (pre = l ∧ other = call ∧ post = []) ∨
      ∃ post', post = post' ++ [call] ∧ l = pre ++ other :: post' := by
  rcases List.eq_nil_or_concat post with rfl | ⟨post', last, rfl⟩
  · obtain ⟨rfl, he⟩ := List.append_inj' h rfl
    cases he
    exact .inl ⟨rfl, rfl, rfl⟩
  · rw [List.concat_eq_append, ← List.cons_append, ← List.append_assoc] at h
    obtain ⟨rfl, he⟩ := List.append_inj' h rfl
    cases he
    exact .inr ⟨post', List.concat_eq_append, rfl⟩

/-- An action as a call that is written down. -/
def writing {α : Type} (call : σ → Outcome α → σ → Call σ) (x : Action σ α) :
    Action (List (Call σ) × σ) α := fun y =>
  ((x y.2).1, y.1 ++ [call y.2 (x y.2).1 (x y.2).2], (x y.2).2)

@[simp] theorem writing_apply {α : Type} (call : σ → Outcome α → σ → Call σ) (x : Action σ α)
    (l : List (Call σ)) (w : σ) :
    writing call x (l, w) = ((x w).1, l ++ [call w (x w).1 (x w).2], (x w).2) := rfl

/-- A crew whose calls are written down. -/
def Crew.recorded (crew : Crew T σ) : Crew T (List (Call σ) × σ) where
  launch i := writing .launch (crew.launch i)
  stop c := writing (.stop · c) (crew.stop c)
  poll c := writing (.poll · c) (crew.poll c)
  wait phase interval := writing .wait (crew.wait phase interval)

/-- What is written down of a call, and what the call was. -/
theorem writing_eq {α : Type} {call : σ → Outcome α → σ → Call σ} {x : Action σ α}
    {l l' : List (Call σ)} {w w' : σ} {o : Outcome α}
    (h : writing call x (l, w) = (o, l', w')) : x w = (o, w') ∧ l' = l ++ [call w o w'] := by
  simp only [writing_apply, Prod.mk.injEq] at h
  obtain ⟨rfl, rfl, rfl⟩ := h
  exact ⟨rfl, rfl⟩

section Recorded

variable {crew : Crew T σ} {y y' : List (Call σ) × σ}

theorem recorded_launch {i : Invocation} {o : Outcome Child.Handle}
    (h : crew.recorded.launch i y = (o, y')) : y'.1 = y.1 ++ [.launch y.2 o y'.2] :=
  have made : writing .launch (crew.launch i) y = (o, y') := h
  (writing_eq made).2

theorem recorded_stop {c : Child.Handle} {o : Outcome Unit}
    (h : crew.recorded.stop c y = (o, y')) : y'.1 = y.1 ++ [.stop y.2 c o y'.2] :=
  have made : writing (.stop · c) (crew.stop c) y = (o, y') := h
  (writing_eq made).2

theorem recorded_poll {c : Child.Handle} {o : Outcome (Option Int)}
    (h : crew.recorded.poll c y = (o, y')) : y'.1 = y.1 ++ [.poll y.2 c o y'.2] :=
  have made : writing (.poll · c) (crew.poll c) y = (o, y') := h
  (writing_eq made).2

theorem recorded_wait {phase : Phase} {interval : T} {o : Outcome (Option Watch.Trigger)}
    (h : crew.recorded.wait phase interval y = (o, y')) : y'.1 = y.1 ++ [.wait y.2 o y'.2] :=
  have made : writing .wait (crew.wait phase interval) y = (o, y') := h
  (writing_eq made).2

end Recorded

/-! ## 2. The ledger changes nothing -/

/-- A supervisor and its surroundings without the ledger. -/
def unwritten : Supervisor × List (Call σ) × σ → Supervisor × σ := Prod.map id Prod.snd

theorem writing_agrees {α : Type} (call : σ → Outcome α → σ → Call σ) (x : Action σ α) :
    Agrees Without (writing call x) x := by
  rintro y _ rfl
  exact ⟨rfl, rfl⟩

section Operations

variable [Log.Logbook σ] [Stoppable σ]

/-- A crew answers whether or not it is written down. -/
theorem recorded_mirrors (crew : Crew T σ) : crew.recorded.Mirrors Without crew where
  note r same := congrArg (Log.Logbook.note r) same
  asked same := congrArg Stoppable.asked same
  ask same := congrArg Stoppable.ask same
  launch i := writing_agrees .launch (crew.launch i)
  stop c := writing_agrees (.stop · c) (crew.stop c)
  poll c := writing_agrees (.poll · c) (crew.poll c)
  wait phase interval := writing_agrees .wait (crew.wait phase interval)

theorem run_covers {crew : Crew T σ} (interval : T) (patience : Nat) :
    Covers unwritten (run crew.recorded interval patience) (run crew interval patience) :=
  (run_agrees (recorded_mirrors crew) interval patience).covers_beside

end Operations

/-! ## 3. Orders -/

/-- What can be asked of a supervisor. Each run has its own source of triggers. -/
inductive Order (T σ : Type) where
  | start
  | stop
  | restart
  | check
  | shutdown
  | run (wait : Phase → T → Action σ (Option Watch.Trigger)) (interval : T) (patience : Nat)

namespace Order

/-- The crew that carries out an order. -/
def crew (crew : Crew T σ) : Order T σ → Crew T σ
  | .run wait _ _ => { crew with wait := wait }
  | _ => crew

/-- An order with its triggers written down. -/
def recorded : Order T σ → Order T (List (Call σ) × σ)
  | .start => .start
  | .stop => .stop
  | .restart => .restart
  | .check => .check
  | .shutdown => .shutdown
  | .run wait interval patience =>
    .run (fun phase t => writing .wait (wait phase t)) interval patience

theorem crew_recorded (c : Crew T σ) (o : Order T σ) :
    o.recorded.crew c.recorded = (o.crew c).recorded := by cases o <;> rfl

end Order

variable [Log.Logbook σ] [Stoppable σ]

/-- What an order makes the supervisor do. -/
def obey (crew : Crew T σ) : Order T σ → Action (Supervisor × σ) Unit
  | .start => do let _ ← start crew
  | .stop => do let _ ← stop crew
  | .restart => do let _ ← restart crew
  | .check => check crew
  | .shutdown => shutdown crew
  | .run wait interval patience => run { crew with wait := wait } interval patience

/-- One order after the other. Where a fault ends one, the next is given all the same; where one
    does not come to its end, there is no next. -/
def carryOut (crew : Crew T σ) : List (Order T σ) → Supervisor × σ → Supervisor × σ
  | [], x => x
  | o :: os, x =>
    match obey crew o x with
    | (.unfinished, y) => y
    | (_, y) => carryOut crew os y

/-- The life of a supervisor from its making on, with its ledger. -/
def life (crew : Crew T σ) (i : Invocation) (os : List (Order T σ)) (w : σ) :
    Supervisor × List (Call σ) × σ :=
  carryOut crew.recorded (os.map Order.recorded) (ofInvocation i, [], w)

theorem obey_covers (crew : Crew T σ) (o : Order T σ) :
    Covers unwritten (obey crew.recorded o.recorded) (obey crew o) := by
  have hm := recorded_mirrors crew
  refine Agrees.covers_beside ?_
  cases o with
  | start => exact (start_agrees hm).bind fun _ => .pure _
  | stop => exact (stop_agrees hm).bind fun _ => .pure _
  | restart => exact (restart_agrees hm).bind fun _ => .pure _
  | check => exact check_agrees hm
  | shutdown => exact shutdown_agrees hm
  | run wait interval patience =>
    exact run_agrees (recorded_mirrors { crew with wait := wait }) interval patience

/-- **The ledger changes nothing.** -/
theorem carryOut_covers (crew : Crew T σ) (os : List (Order T σ)) :
    ∀ x, unwritten (carryOut crew.recorded (os.map Order.recorded) x) =
      carryOut crew os (unwritten x) := by
  induction os with
  | nil => exact fun _ => rfl
  | cons o os ih =>
    intro x
    have h := obey_covers crew o x
    simp only [List.map_cons, carryOut]
    revert h
    rcases obey crew.recorded o.recorded x with ⟨r, y⟩
    intro h
    rw [h]
    cases r with
    | done u => exact ih y
    | raised f => exact ih y
    | unfinished => rfl

namespace Keeps

variable {crew : Crew T σ} {P R : Supervisor × σ → Prop}

theorem obey {o : Order T σ} (hk : Keeps (o.crew crew) P R) {x : Supervisor × σ} (hx : P x) :
    Ends (Supervisor.obey crew o) x (Lasts P R) := by
  cases o with
  | start => exact Lasts.bind (hk.start_ends hx) fun _ _ hy => hk.pure _ hy
  | stop => exact Lasts.bind (hk.stop_ends hx) fun _ _ hy => hk.pure _ hy
  | restart => exact Lasts.bind (hk.restart hx) fun _ _ hy => hk.pure _ hy
  | check => exact hk.check_ends hx
  | shutdown => exact hk.shutdown hx
  | run wait interval patience => exact hk.run interval patience hx

/-- **What every step keeps, every list of orders keeps.** -/
theorem carryOut {os : List (Order T σ)} (weaken : ∀ {x}, P x → R x)
    (hk : ∀ o ∈ os, Keeps (o.crew crew) P R) :
    ∀ {x : Supervisor × σ}, P x → R (Supervisor.carryOut crew os x) := by
  induction os with
  | nil => exact weaken
  | cons o os ih =>
    intro x hx
    have hy := (hk o List.mem_cons_self).obey hx
    have ih := fun {y} => ih (fun o ho => hk o (List.mem_cons_of_mem _ ho)) (x := y)
    unfold Ends at hy
    simp only [Supervisor.carryOut]
    revert hy
    rcases Supervisor.obey crew o x with ⟨r, y⟩
    intro hy
    cases r with
    | done u => exact ih (hy.2 nofun)
    | raised f => exact ih (hy.2 nofun)
    | unfinished => exact hy.1

end Keeps

/-! ## 4. What every call keeps -/

/-- A property of what is held, of the ledger and of the surroundings that no call breaks. No call
    follows on one that does not come to its end. -/
structure Carries (crew : Crew T σ) (Q : Option Child.Handle → List (Call σ) → σ → Prop) :
    Prop where
  call {held l call} : call.Made crew → call.Fits held → (∀ c ∈ l, c.Finished) →
    Q held l call.before → Q (call.leaves held) (l ++ [call]) call.after
  note {held l w} (r : Log.Record) : Q held l w → Q held l (Log.Logbook.note r w)
  ask {held l w} : Q held l w → Q held l (Stoppable.ask w)

namespace Carries

variable {crew : Crew T σ} {Q : Option Child.Handle → List (Call σ) → σ → Prop}

/-- The property, of a supervisor with its ledger. -/
def Now (Q : Option Child.Handle → List (Call σ) → σ → Prop)
    (x : Supervisor × List (Call σ) × σ) : Prop := Q x.1.child x.2.1 x.2.2

/-- The property, while every call so far has come to its end. -/
def Going (Q : Option Child.Handle → List (Call σ) → σ → Prop)
    (x : Supervisor × List (Call σ) × σ) : Prop := Now Q x ∧ ∀ c ∈ x.2.1, c.Finished

/-- One call, with what it leaves held. -/
theorem lasts_call (hc : Carries crew Q) {s s' : Supervisor} {l : List (Call σ)} {call : Call σ}
    {α : Type} {o : Outcome α} (made : call.Made crew) (fits : call.Fits s.child)
    (hq : Going Q (s, l, call.before)) (leaves : s'.child = call.leaves s.child)
    (finished : o ≠ .unfinished → call.Finished) :
    Lasts (Going Q) (Now Q) o (s', l ++ [call], call.after) := by
  have now : Now Q (s', l ++ [call], call.after) := by
    unfold Now
    rw [leaves]
    exact hc.call made fits hq.2 hq.1
  refine ⟨now, fun ho => ⟨now, fun c hm => ?_⟩⟩
  rcases List.mem_append.1 hm with hm | hm
  · exact hq.2 c hm
  · rw [List.mem_singleton.1 hm]
    exact finished ho

theorem lasts_note (hc : Carries crew Q) {s : Supervisor} {y : List (Call σ) × σ} {α : Type}
    {o : Outcome α} (r : Log.Record) (h : Lasts (Going Q) (Now Q) o (s, y)) :
    Lasts (Going Q) (Now Q) o (s, Log.Logbook.note r y) :=
  ⟨hc.note r h.1, fun ho => ⟨hc.note r (h.2 ho).1, (h.2 ho).2⟩⟩

/-- What every call keeps, every step keeps. -/
theorem keeps (hc : Carries crew Q) : Keeps crew.recorded (Going Q) (Now Q) where
  weaken := And.left
  start := by
    intro y _ h hq
    obtain ⟨s, l, w⟩ := y
    have launch {o y s'} {α : Type} {r : Outcome α} (free : s.child = none)
        (call : writing .launch (crew.launch s.invocation) (l, w) = (o, y))
        (leaves : s'.child = Call.leaves s.child (.launch w o y.2))
        (ends : r ≠ .unfinished → o ≠ .unfinished) : Lasts (Going Q) (Now Q) r (s', y) := by
      obtain ⟨l', w'⟩ := y
      obtain ⟨made, rfl⟩ := writing_eq call
      have made : (Call.launch w o w').Made crew := ⟨_, made⟩
      exact hc.lasts_call made free hq leaves ends
    cases h with
    | refused held => exact ⟨hq.1, fun _ => hq⟩
    | launched free call => exact launch free call rfl fun _ => nofun
    | failed free call hf =>
      exact hc.lasts_note _ (launch free call rfl fun _ => nofun)
    | broken free call hf => exact launch free call rfl fun _ => nofun
    | unfinished free call => exact launch free call rfl fun h => absurd rfl h
  stop := by
    intro y _ h hq
    obtain ⟨s, l, w⟩ := y
    have stop {c o y s'} {α : Type} {r : Outcome α} (held : s.child = some c)
        (call : writing (.stop · c) (crew.stop c) (l, w) = (o, y))
        (leaves : s'.child = Call.leaves s.child (.stop w c o y.2))
        (ends : r ≠ .unfinished → o ≠ .unfinished) : Lasts (Going Q) (Now Q) r (s', y) := by
      obtain ⟨l', w'⟩ := y
      obtain ⟨made, rfl⟩ := writing_eq call
      have made : (Call.stop w c o w').Made crew := made
      exact hc.lasts_call made held hq leaves ends
    cases h with
    | idle free => exact ⟨hq.1, fun _ => hq⟩
    | stopped held call => exact stop held call rfl fun _ => nofun
    | survived held call hf =>
      exact hc.lasts_note _ (stop held call rfl fun _ => nofun)
    | broken held call hf => exact stop held call rfl fun _ => nofun
    | unfinished held call => exact stop held call rfl fun h => absurd rfl h
  check := by
    intro y _ h hq
    obtain ⟨s, l, w⟩ := y
    have poll {c o y s'} {α : Type} {r : Outcome α} (held : s.child = some c)
        (call : writing (.poll · c) (crew.poll c) (l, w) = (o, y))
        (leaves : s'.child = Call.leaves s.child (.poll w c o y.2))
        (ends : r ≠ .unfinished → o ≠ .unfinished) : Lasts (Going Q) (Now Q) r (s', y) := by
      obtain ⟨l', w'⟩ := y
      obtain ⟨made, rfl⟩ := writing_eq call
      have made : (Call.poll w c o w').Made crew := made
      exact hc.lasts_call made held hq leaves ends
    cases h with
    | idle free => exact ⟨hq.1, fun _ => hq⟩
    | alive held call => exact poll held call rfl fun _ => nofun
    | ended held call => exact hc.lasts_note _ (poll held call rfl fun _ => nofun)
    | broken held call => exact poll held call rfl fun _ => nofun
    | unfinished held call => exact poll held call rfl fun h => absurd rfl h
  count := id
  note r hq := ⟨hc.note r hq.1, hq.2⟩
  ask hq := ⟨hc.ask hq.1, hq.2⟩
  wait := by
    intro s y interval hq
    obtain ⟨l, w⟩ := y
    have made : (Call.wait w _ _).Made crew := ⟨s.phase, interval, rfl⟩
    exact hc.lasts_call made trivial hq rfl fun h => h

/-- **What every call keeps holds through a whole life.** -/
theorem life (i : Invocation) (os : List (Order T σ)) (hc : ∀ o ∈ os, Carries (o.crew crew) Q)
    (w : σ) (hw : Q none [] w) : Q (life crew i os w).1.child (life crew i os w).2.1
      (life crew i os w).2.2 := by
  have begun : Going Q (ofInvocation i, [], w) := ⟨hw, fun c hm => absurd hm List.not_mem_nil⟩
  have keeps : ∀ o ∈ os.map Order.recorded, Keeps (o.crew crew.recorded) (Going Q) (Now Q) := by
    intro recorded hr
    obtain ⟨o, ho, rfl⟩ := List.mem_map.1 hr
    rw [Order.crew_recorded]
    exact (hc o ho).keeps
  exact Keeps.carryOut (fun h => h.1) keeps begun

end Carries

end Respawn.Supervisor
