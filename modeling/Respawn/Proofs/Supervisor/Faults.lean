import Respawn.Proofs.Supervisor.Ledger

/-!
# Where the faults of a supervisor come from

A failed start and a survived stop are taken by the supervisor. Every other fault that ends a call
on the crew ends the operation as well, and the call is then the last one. Of its own accord the
supervisor fails only where it would have to start a second instance.

* `Told`: how the end of an operation is told by its calls;
* `start_told`, `stop_told`, `check_told`, `restart_told`, `round_told`, `shutdown_told`: it is, for
  every operation that does not begin with a start;
* `rounds_told`, `run_told`: the loop ends with a fault, because a shutdown was asked for, or not at
  all.
-/

namespace Respawn.Supervisor

open Respawn.Action (Ends)

variable {T σ : Type}

/-! ## 1. Calls that break an operation -/

/-- The call ended with a fault that the supervisor does not take. -/
def Call.Breaks (f : Fault) : Call σ → Prop
  | .launch _ r _ => r = .raised f ∧ isStartFailure f = false
  | .stop _ _ r _ => r = .raised f ∧ isSurvival f = false
  | .poll _ _ r _ => r = .raised f
  | .wait _ r _ => r = .raised f

/-- No call ended with a fault that the supervisor does not take. -/
def Smooth (l : List (Call σ)) : Prop := ∀ call ∈ l, ∀ f, ¬ call.Breaks f

/-- The last call, and no other one, ended with a fault that the supervisor does not take. -/
def Broken (f : Fault) (l : List (Call σ)) : Prop :=
  ∃ pre call, l = pre ++ [call] ∧ call.Breaks f ∧ Smooth pre

/-- Whether the call waits for a trigger. -/
def Call.isWait : Call σ → Bool
  | .wait .. => true
  | _ => false

/-- How often a trigger was waited for. -/
def waits (l : List (Call σ)) : Nat := l.countP Call.isWait

section Calls

variable {l : List (Call σ)} {call : Call σ} {f : Fault}

theorem Smooth.nil : Smooth ([] : List (Call σ)) := fun _ hm => absurd hm List.not_mem_nil

theorem Smooth.concat (h : Smooth l) (hc : ∀ f, ¬ call.Breaks f) : Smooth (l ++ [call]) := by
  intro c hm
  rcases List.mem_append.1 hm with hm | hm
  · exact h c hm
  · rw [List.mem_singleton.1 hm]
    exact hc

theorem waits_concat (l : List (Call σ)) (call : Call σ) :
    waits (l ++ [call]) = waits l + if call.isWait then 1 else 0 := by
  rw [waits, List.countP_append, List.countP_singleton, waits]

end Calls

/-! ## 2. Outcomes that are told by the calls -/

/-- How an operation has ended that has led to the given calls, in which a trigger was waited for
    `n` times: with a fault exactly if the last call broke, and where a call does not come to its
    end, neither does the operation. -/
def Told {α : Type} (n : Nat) (o : Outcome α) (l : List (Call σ)) : Prop :=
  match o with
  | .done _ => Smooth l ∧ waits l = n
  | .raised f => Broken f l
  | .unfinished => Smooth l ∧ ∃ call ∈ l, ¬ call.Finished

namespace Told

variable {l l' : List (Call σ)} {call : Call σ} {n : Nat} {α β : Type}

theorem of_done {a : α} (led : l' = l ++ [call]) (hl : Smooth l) (hn : waits l = n)
    (hw : call.isWait = false) (hc : ∀ f, ¬ call.Breaks f) : Told n (.done a) l' := by
  rw [led]
  refine ⟨hl.concat hc, ?_⟩
  rw [waits_concat, hn, hw]
  rfl

theorem of_raised {f : Fault} (led : l' = l ++ [call]) (hl : Smooth l) (hc : call.Breaks f) :
    Told n (.raised f : Outcome α) l' := ⟨l, call, led, hc, hl⟩

theorem of_unfinished (led : l' = l ++ [call]) (hl : Smooth l) (hc : ∀ f, ¬ call.Breaks f)
    (hu : ¬ call.Finished) : Told n (.unfinished : Outcome α) l' := by
  rw [led]
  exact ⟨hl.concat hc, call, List.mem_append_right _ List.mem_cons_self, hu⟩

theorem bind {m : Nat} {x : Supervisor × List (Call σ) × σ}
    {y : Action (Supervisor × List (Call σ) × σ) α}
    {k : α → Action (Supervisor × List (Call σ) × σ) β}
    (hy : Ends y x fun o z => Told m o z.2.1)
    (hk : ∀ a z, Smooth z.2.1 → waits z.2.1 = m → Ends (k a) z fun o z' => Told n o z'.2.1) :
    Ends (y >>= k) x fun o z => Told n o z.2.1 :=
  Ends.bind hy (fun a z hz => hk a z hz.1 hz.2) (fun _ _ hz => hz) fun _ hz => hz

end Told

section Operations

variable [Log.Logbook σ] {crew : Crew T σ} {s : Supervisor} {l : List (Call σ)} {w : σ} {n : Nat}

/-- A start with nothing held is told by its launch. -/
theorem start_told (hl : Smooth l) (hn : waits l = n) (free : s.child = none) :
    Ends (start crew.recorded) (s, l, w) fun o y => Told n o y.2.1 := by
  refine Ends.mono (P := fun r y => Started crew.recorded (s, l, w) (r, y)) (started _ _) ?_
  intro r y begun
  cases begun with
  | refused held => exact absurd (free.symm.trans held) nofun
  | launched free call => exact .of_done (recorded_launch call) hl hn rfl nofun
  | failed free call hf =>
    have led := recorded_launch call
    refine .of_done led hl hn rfl fun g hg => ?_
    obtain ⟨⟨⟩, hg⟩ := hg
    exact nomatch hf.symm.trans hg
  | broken free call hf => exact .of_raised (recorded_launch call) hl ⟨rfl, hf⟩
  | unfinished free call =>
    exact .of_unfinished (recorded_launch call) hl nofun fun h => h rfl

/-- A stop is told by its call, and where it succeeds nothing is held any longer. -/
theorem stop_told (hl : Smooth l) (hn : waits l = n) :
    Ends (stop crew.recorded) (s, l, w) fun o y =>
      Told n o y.2.1 ∧ (o = .done true → y.1.child = none) := by
  refine Ends.mono (P := fun r y => Stopped crew.recorded (s, l, w) (r, y)) (stopped _ _) ?_
  intro r y begun
  cases begun with
  | idle free => exact ⟨⟨hl, hn⟩, fun _ => free⟩
  | stopped held call => exact ⟨.of_done (recorded_stop call) hl hn rfl nofun, fun _ => rfl⟩
  | survived held call hf =>
    have led := recorded_stop call
    refine ⟨.of_done led hl hn rfl fun g hg => ?_, nofun⟩
    obtain ⟨⟨⟩, hg⟩ := hg
    exact nomatch hf.symm.trans hg
  | broken held call hf => exact ⟨.of_raised (recorded_stop call) hl ⟨rfl, hf⟩, nofun⟩
  | unfinished held call =>
    exact ⟨.of_unfinished (recorded_stop call) hl nofun fun h => h rfl, nofun⟩

theorem check_told (hl : Smooth l) (hn : waits l = n) :
    Ends (check crew.recorded) (s, l, w) fun o y => Told n o y.2.1 := by
  refine Ends.mono (P := fun r y => Checked crew.recorded (s, l, w) (r, y)) (checked _ _) ?_
  intro r y begun
  cases begun with
  | idle free => exact ⟨hl, hn⟩
  | alive held call => exact .of_done (recorded_poll call) hl hn rfl nofun
  | ended held call =>
    have led := recorded_poll call
    exact .of_done led hl hn rfl nofun
  | broken held call => exact .of_raised (recorded_poll call) hl rfl
  | unfinished held call => exact .of_unfinished (recorded_poll call) hl nofun fun h => h rfl

/-- The start of a restart comes after a stop that succeeded, so it is never refused. -/
theorem restart_told (hl : Smooth l) (hn : waits l = n) :
    Ends (restart crew.recorded) (s, l, w) fun o y => Told n o y.2.1 := by
  refine Ends.of_modify (Ends.bind (stop_told hl hn) ?_ (fun f y hy => hy.1) fun y hy => hy.1)
  intro b y hy
  obtain ⟨s', l', w'⟩ := y
  obtain ⟨⟨smooth, count⟩, free⟩ := hy
  cases b with
  | true => exact start_told smooth count (free rfl)
  | false => exact ⟨smooth, count⟩

omit [Log.Logbook σ] in
theorem wait_told (hl : Smooth l) (hn : waits l = n) (phase : Phase) (interval : T) :
    Ends (crew.recorded.wait phase interval).inner (s, l, w) fun o y => Told (n + 1) o y.2.1 := by
  rcases call : crew.recorded.wait phase interval (l, w) with ⟨o, y⟩
  refine Ends.of_result (o := o) (t := (s, y)) ?_ ?_
  · rw [Action.inner_apply, call]
  · have led := recorded_wait call
    cases o with
    | done t =>
      refine ⟨led ▸ hl.concat nofun, ?_⟩
      rw [led, waits_concat, hn]
      rfl
    | raised f => exact .of_raised led hl rfl
    | unfinished => exact .of_unfinished led hl nofun fun h => h rfl

/-- A round waits for one trigger. -/
theorem round_told (hl : Smooth l) (hn : waits l = n) (interval : T) :
    Ends (round crew.recorded interval) (s, l, w) fun o y => Told (n + 1) o y.2.1 := by
  refine Ends.of_read (Told.bind (wait_told hl hn _ interval) ?_)
  intro t y smooth count
  obtain ⟨s', l', w'⟩ := y
  cases t with
  | none => exact check_told smooth count
  | some t =>
    exact Ends.of_read (Ends.of_modify
      (Told.bind (restart_told smooth count) fun _ _ hs hc => ⟨hs, hc⟩))

variable [Stoppable σ]

theorem shutdown_told (hl : Smooth l) (hn : waits l = n) :
    Ends (shutdown crew.recorded) (s, l, w) fun o y => Told n o y.2.1 := by
  have stop (w : σ) : Ends (do let _ ← stop crew.recorded) (s, l, w) fun o y => Told n o y.2.1 :=
    Told.bind ((stop_told hl hn).mono fun _ _ h => h.1) fun _ _ hs hc => ⟨hs, hc⟩
  refine Ends.of_modify (Ends.of_read ?_)
  split
  · exact Ends.of_modify (stop _)
  · exact stop _

/-! ## 3. The loop -/

/-- How a loop has ended in which at most `m` triggers were to be waited for: it gave up because a
    shutdown was asked for, or its last call broke, or it was still going on after the last trigger,
    unless a call had not come to its end. -/
def Looped (m : Nat) (o : Outcome Unit) (y : List (Call σ) × σ) : Prop :=
  match o with
  | .done _ => Smooth y.1 ∧ Stoppable.asked y.2 = true
  | .raised f => Broken f y.1
  | .unfinished => Smooth y.1 ∧ (waits y.1 = m ∨ ∃ call ∈ y.1, ¬ call.Finished)

theorem rounds_told (interval : T) (patience : Nat) : ∀ {s l w n}, Smooth l → waits l = n →
    Ends (rounds crew.recorded interval patience) (s, l, w) fun o y =>
      Looped (n + patience) o y.2 := by
  induction patience with
  | zero => exact fun hl hn => ⟨hl, .inl hn⟩
  | succ patience ih =>
    intro s l w n hl hn
    refine Ends.of_read ?_
    split
    · next asked => exact ⟨hl, asked⟩
    · refine (round_told hl hn interval).bind ?_ (fun _ _ hy => hy) fun _ hy => ⟨hy.1, .inr hy.2⟩
      intro u y hy
      obtain ⟨s', l', w'⟩ := y
      have rest := ih (s := s') (w := w') hy.1 hy.2
      rwa [Nat.add_right_comm, Nat.add_assoc] at rest

/-- **A run that begins with nothing held ends because a shutdown was asked for, or because a call
    broke, or not at all.** -/
theorem run_told (hl : Smooth l) (hn : waits l = n) (free : s.child = none) (interval : T)
    (patience : Nat) : Ends (run crew.recorded interval patience) (s, l, w) fun o y =>
      Looped (n + patience) o y.2 := by
  refine Ends.of_read (Ends.of_modify ((start_told hl hn free).bind ?_ (fun _ _ hy => hy)
    fun _ hy => ⟨hy.1, .inr hy.2⟩))
  intro b y hy
  obtain ⟨s', l', w'⟩ := y
  exact rounds_told interval patience hy.1 hy.2

/-- With an instance held a run fails at once, without a call. -/
theorem run_held {c : Child.Handle} (held : s.child = some c) (interval : T) (patience : Nat) :
    run crew.recorded interval patience (s, l, w) =
      (.raised (.alreadyHeld c.pid), s, l, Log.Logbook.note (runRecord s) w) := by
  have refused : start crew.recorded (s, l, Log.Logbook.note (runRecord s) w) =
      (.raised (.alreadyHeld c.pid), s, l, Log.Logbook.note (runRecord s) w) :=
    start_held crew.recorded held
  exact Action.bind_raised refused fun _ => rounds crew.recorded interval patience

end Operations

end Respawn.Supervisor
