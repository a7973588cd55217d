import Respawn.Proofs.Supervisor.Faults

/-!
# The phase of a supervisor

What is held and the phase are two fields, and a fault can end an operation between a change of the
one and a change of the other. The phase follows what is held all the same, and after a stop that
was broken off it says so until the next attempt.

* `Latest`: how the latest attempt to stop the instance at hand has ended;
* `Phased`: what the phase says about what is held and about the ledger. Every step keeps it;
* `phase_life`: it is true after any list of orders, and no order but one that begins with a start
  can be refused.
-/

namespace Respawn.Supervisor

open Respawn.Action (Ends)

variable {T σ : Type}

/-! ## 1. The latest attempt to stop -/

/-- A call that neither launched an instance nor tried to stop one. -/
def Call.Aside : Call σ → Prop
  | .stop .. => False
  | call => call.launched = none

/-- The latest attempt to stop the instance that was launched last was on `c` and ended with `r`. -/
def Latest (l : List (Call σ)) (c : Child.Handle) (r : Outcome Unit) : Prop :=
  ∃ pre b a post, l = pre ++ .stop b c r a :: post ∧ ∀ call ∈ post, call.Aside

/-- A stop that came to its end neither with an answer nor with a survival. -/
def BrokenOff (r : Outcome Unit) : Prop :=
  r = .unfinished ∨ ∃ f, r = .raised f ∧ isSurvival f = false

section Latest

variable {l : List (Call σ)} {c c' : Child.Handle} {r r' : Outcome Unit}

theorem latest_stop (l : List (Call σ)) (b : σ) (c : Child.Handle) (r : Outcome Unit) (a : σ) :
    Latest (l ++ [.stop b c r a]) c' r' ↔ c' = c ∧ r' = r := by
  refine ⟨fun ⟨pre, b', a', post, he, hp⟩ => ?_, fun ⟨hc, hr⟩ => ?_⟩
  · rcases cut_concat he with ⟨-, hcall, -⟩ | ⟨post', rfl, -⟩
    · cases hcall
      exact ⟨rfl, rfl⟩
    · exact (hp _ (List.mem_append_right _ List.mem_cons_self)).elim
  · exact ⟨l, b, a, [], by rw [hc, hr], fun _ hm => absurd hm List.not_mem_nil⟩

theorem latest_aside {call : Call σ} (h : call.Aside) :
    Latest (l ++ [call]) c r ↔ Latest l c r := by
  refine ⟨fun ⟨pre, b, a, post, he, hp⟩ => ?_, fun ⟨pre, b, a, post, he, hp⟩ => ?_⟩
  · rcases cut_concat he with ⟨-, rfl, -⟩ | ⟨post', rfl, before⟩
    · exact h.elim
    · exact ⟨pre, b, a, post', before, fun o ho => hp o (List.mem_append_left _ ho)⟩
  · refine ⟨pre, b, a, post ++ [call], by rw [he]; simp, fun o ho => ?_⟩
    rcases List.mem_append.1 ho with ho | ho
    · exact hp o ho
    · rwa [List.mem_singleton.1 ho]

/-- Nothing was tried yet on an instance that has just been launched. -/
theorem not_latest_launch (l : List (Call σ)) (b : σ) (d : Child.Handle) (a : σ) :
    ¬ Latest (l ++ [.launch b (.done d) a]) c r := by
  intro ⟨pre, b', a', post, he, hp⟩
  rcases cut_concat he with ⟨-, hcall, -⟩ | ⟨post', rfl, -⟩
  · cases hcall
  · exact nomatch hp _ (List.mem_append_right _ List.mem_cons_self)

end Latest

/-! ## 2. What the phase says -/

/-- Nothing is held exactly in the idle phase, and the phase is that of stopping exactly if the
    latest attempt to stop what is held was broken off. -/
structure Phased (x : Supervisor × List (Call σ) × σ) : Prop where
  idle : x.1.child = none ↔ x.1.phase = .idle
  stopping : x.1.phase = .stopping ↔
    ∃ c r, x.1.child = some c ∧ Latest x.2.1 c r ∧ BrokenOff r

namespace Phased

variable {s s' : Supervisor} {y y' : List (Call σ) × σ} {c : Child.Handle}

theorem of_free (hc : s.child = none) (hp : s.phase = .idle) : Phased (s, y) where
  idle := iff_of_true hc hp
  stopping := iff_of_false (fun h => nomatch hp.symm.trans h)
    fun ⟨_, _, h, _⟩ => nomatch hc.symm.trans h

theorem of_running (hc : s.child = some c) (hp : s.phase = .running)
    (h : ∀ r, Latest y.1 c r → ¬ BrokenOff r) : Phased (s, y) where
  idle := iff_of_false (fun hn => nomatch hc.symm.trans hn) fun h => nomatch hp.symm.trans h
  stopping := by
    refine iff_of_false (fun h => nomatch hp.symm.trans h) fun ⟨d, r, hd, latest, broken⟩ => ?_
    cases hc.symm.trans hd
    exact h r latest broken

theorem of_stopping {r : Outcome Unit} (hc : s.child = some c) (hp : s.phase = .stopping)
    (h : Latest y.1 c r) (hr : BrokenOff r) : Phased (s, y) where
  idle := iff_of_false (fun hn => nomatch hc.symm.trans hn) fun h => nomatch hp.symm.trans h
  stopping := iff_of_true hp ⟨c, r, hc, h, hr⟩

/-- What is neither held, nor the phase, nor an attempt to stop does not matter. -/
theorem of_aside (h : Phased (s, y)) (hc : s'.child = s.child) (hp : s'.phase = s.phase)
    (hl : ∀ c r, Latest y'.1 c r ↔ Latest y.1 c r) : Phased (s', y') where
  idle := by
    show s'.child = none ↔ s'.phase = .idle
    rw [hc, hp]
    exact h.idle
  stopping := by
    show s'.phase = .stopping ↔ ∃ c r, s'.child = some c ∧ Latest y'.1 c r ∧ BrokenOff r
    simp only [hc, hp, hl]
    exact h.stopping

theorem phase_of_free (h : Phased (s, y)) (hc : s.child = none) : s.phase = .idle := h.idle.1 hc

theorem lasts {α : Type} {x : Supervisor × List (Call σ) × σ} (h : Phased x) (o : Outcome α) :
    Lasts Phased Phased o x := ⟨h, fun _ => h⟩

end Phased

variable [Log.Logbook σ] [Stoppable σ] {crew : Crew T σ}

/-- **Every step keeps what the phase says**, whether it comes to its end or not. -/
theorem Phased.keeps : Keeps crew.recorded (@Phased σ) Phased where
  weaken := id
  start := by
    intro x y h hx
    refine Phased.lasts ?_ _
    cases h with
    | refused held => exact hx
    | launched free call =>
      refine .of_running rfl rfl fun r latest => ?_
      rw [recorded_launch call] at latest
      exact absurd latest (not_latest_launch _ _ _ _)
    | failed free call hf => exact .of_free free rfl
    | broken free call hf => exact .of_free free (hx.phase_of_free free)
    | unfinished free call => exact .of_free free (hx.phase_of_free free)
  stop := by
    intro x y h hx
    refine Phased.lasts ?_ _
    have stop {x y : List (Call σ) × σ} {c o} (call : crew.recorded.stop c x = (o, y))
        (r : Outcome Unit) : Latest y.1 c r ↔ r = o := by
      rw [recorded_stop call]
      exact (latest_stop _ _ _ _ _).trans (and_iff_right rfl)
    cases h with
    | idle free => exact .of_free free rfl
    | stopped held call => exact .of_free rfl rfl
    | @survived s x y c f held call hf =>
      refine .of_running held rfl fun r latest broken => ?_
      obtain rfl : r = .raised f := (stop call r).1 latest
      obtain h | ⟨g, ⟨⟩, hg⟩ := broken
      · cases h
      · exact nomatch hf.symm.trans hg
    | @broken s x y c f held call hf =>
      exact .of_stopping held rfl ((stop call _).2 rfl) (.inr ⟨f, rfl, hf⟩)
    | unfinished held call => exact .of_stopping held rfl ((stop call _).2 rfl) (.inl rfl)
  check := by
    intro x y h hx
    refine Phased.lasts ?_ _
    have poll {s : Supervisor} {x y : List (Call σ) × σ} {c o} (hx : Phased (s, x))
        (call : crew.recorded.poll c x = (o, y)) : Phased (s, y) := by
      refine hx.of_aside rfl rfl fun d r => ?_
      rw [recorded_poll call]
      exact latest_aside rfl
    cases h with
    | idle free => exact hx
    | alive held call => exact poll hx call
    | ended held call => exact .of_free rfl rfl
    | broken held call => exact poll hx call
    | unfinished held call => exact poll hx call
  count hx := hx.of_aside rfl rfl fun _ _ => Iff.rfl
  note _ hx := hx.of_aside rfl rfl fun _ _ => Iff.rfl
  ask hx := hx.of_aside rfl rfl fun _ _ => Iff.rfl
  wait {s y} interval hx := by
    rcases call : crew.recorded.wait s.phase interval y with ⟨o, y'⟩
    refine Ends.of_result call (Phased.lasts (hx.of_aside rfl rfl fun c r => ?_) o)
    rw [recorded_wait call]
    exact latest_aside rfl

/-! ## 3. What is refused -/

/-- An order that begins with a start. -/
def Order.Begins : Order T σ → Prop
  | .start | .run .. => True
  | _ => False

/-- The fault of an order is that of its last call, or its start was refused. -/
def Blamed (o : Order T σ) (s : Supervisor) (r : Outcome Unit) (l : List (Call σ)) : Prop :=
  ∀ f, r = .raised f → Broken f l ∨ (o.Begins ∧ ∃ c, s.child = some c ∧ f = .alreadyHeld c.pid)

/-- **An order ends with a fault only if its last call broke, or if it begins with a start while an
    instance is held.** -/
theorem obey_blamed (crew : Crew T σ) (o : Order T σ) (s : Supervisor) (w : σ) :
    Ends (obey crew.recorded o.recorded) (s, [], w) fun r y => Blamed o s r y.2.1 := by
  have told {n : Nat} {r : Outcome Unit} {l : List (Call σ)} (h : Told n r l) : Blamed o s r l := by
    rintro f rfl
    exact .inl h
  have looped {m : Nat} {r : Outcome Unit} {y : List (Call σ) × σ} (h : Looped m r y) :
      Blamed o s r y.1 := by
    rintro f rfl
    exact .inl h
  have whole {α : Type} {x : Action (Supervisor × List (Call σ) × σ) α}
      (h : Ends x (s, [], w) fun r y => Told 0 r y.2.1) :
      Ends (do let _ ← x) (s, [], w) fun r y => Blamed o s r y.2.1 :=
    h.bind (fun _ _ _ f hf => nomatch hf) (fun f y hf => told (n := 0) hf)
      fun _ _ f hf => nomatch hf
  cases o with
  | start =>
    cases held : s.child with
    | none => exact whole (start_told .nil rfl held)
    | some c =>
      have refused := start_held crew.recorded (s := (s, [], w)) held
      refine Ends.of_result (Action.bind_raised refused fun _ => pure ()) ?_
      rintro f ⟨⟩
      exact .inr ⟨trivial, c, held, rfl⟩
  | stop => exact whole ((stop_told .nil rfl).mono fun _ _ h => h.1)
  | restart => exact whole (restart_told .nil rfl)
  | check => exact (check_told .nil rfl).mono fun _ _ => told
  | shutdown => exact (shutdown_told .nil rfl).mono fun _ _ => told
  | run wait interval patience =>
    cases held : s.child with
    | none =>
      have told : Ends (run { crew with wait := wait }.recorded interval patience) (s, [], w)
          fun o y => Looped (0 + patience) o y.2 := run_told .nil rfl held interval patience
      exact told.mono fun _ _ => looped
    | some c =>
      have refused : run { crew with wait := wait }.recorded interval patience (s, [], w) = _ :=
        run_held held interval patience
      refine Ends.of_result refused ?_
      rintro f ⟨⟩
      exact .inr ⟨trivial, c, held, rfl⟩

/-! ## 4. A whole life -/

/-- **The phase follows what is held.** After any list of orders, whatever the calls on the crew
    came to, nothing is held exactly in the idle phase, and the phase is that of stopping exactly if
    the latest attempt to stop what is held was broken off by a fault other than a survival, or has
    not come to its end. Whatever is ordered next, its fault is that of its last call, unless it
    begins with a start and an instance is held. -/
theorem phase_life (crew : Crew T σ) (i : Invocation) (os : List (Order T σ)) (w : σ) :
    let x := life crew i os w
    (x.1.child = none ↔ x.1.phase = .idle) ∧
    (x.1.phase = .stopping ↔ ∃ c r, x.1.child = some c ∧ Latest x.2.1 c r ∧
      (r = .unfinished ∨ ∃ f, r = .raised f ∧ isSurvival f = false)) ∧
    ∀ (o : Order T σ) (f : Fault) (y : Supervisor × List (Call σ) × σ),
      obey crew.recorded o.recorded (x.1, [], x.2.2) = (.raised f, y) →
        Broken f y.2.1 ∨ (o.Begins ∧ ∃ c, x.1.child = some c ∧ f = .alreadyHeld c.pid) := by
  have begun : Phased (ofInvocation i, ([] : List (Call σ)), w) := .of_free rfl rfl
  have keeps : ∀ o ∈ os.map Order.recorded, Keeps (o.crew crew.recorded) (@Phased σ) Phased := by
    intro recorded hr
    obtain ⟨o, -, rfl⟩ := List.mem_map.1 hr
    rw [Order.crew_recorded]
    exact Phased.keeps
  have phased : Phased (life crew i os w) := Keeps.carryOut id keeps begun
  exact ⟨phased.idle, phased.stopping, fun o f y ended =>
    (obey_blamed crew o _ _).result ended f rfl⟩

end Respawn.Supervisor
