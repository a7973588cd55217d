import Respawn.Proofs.Supervisor.Course

/-!
# What follows on a request to shut down

A shutdown can be asked for during any call on the crew, and before a run begins. The run looks at
one place whether it was, so it first goes on to that place: through the rest of a restart, or to the
end of the first start. Then it returns.

* `round_passed`: what a round calls after its wait;
* `rounds_swift`, `run_swift`: what is called after a shutdown was asked for;
* `rounds_resume`: a loop that was asked to end and has not yet does so at its next look;
* `bounded_reaction`: the reaction of a run, and what the shutdown after it leaves.
-/

namespace Respawn.Supervisor

open Respawn.Action (Ends)

variable {T σ : Type}

/-! ## 1. Calls -/

/-- A call that was answered, or that ended with a fault that the supervisor takes. -/
def Call.isTaken : Call σ → Bool
  | .launch _ (.done _) _ => true
  | .launch _ (.raised f) _ => isStartFailure f
  | .stop _ _ (.done _) _ => true
  | .stop _ _ (.raised f) _ => isSurvival f
  | .poll _ _ (.done _) _ => true
  | .wait _ (.done _) _ => true
  | _ => false

def Call.isStop : Call σ → Bool
  | .stop .. => true
  | _ => false

def stops (l : List (Call σ)) : Nat := l.countP Call.isStop

/-- No wait, and no more than so many stops and launches. -/
structure Within (n m : Nat) (l : List (Call σ)) : Prop where
  waits : waits l = 0
  stops : stops l ≤ n
  launches : launches l ≤ m

theorem Call.isTaken.not_breaks {call : Call σ} (h : call.isTaken = true) (f : Fault) :
    ¬ call.Breaks f := by
  intro broken
  rcases call with ⟨b, r, a⟩ | ⟨b, c, r, a⟩ | ⟨b, c, r, a⟩ | ⟨b, r, a⟩
  · obtain ⟨rfl, hf⟩ := broken
    exact nomatch hf.symm.trans h
  · obtain ⟨rfl, hf⟩ := broken
    exact nomatch hf.symm.trans h
  · obtain rfl : r = .raised f := broken
    cases h
  · obtain rfl : r = .raised f := broken
    cases h

theorem Call.isTaken.finished {call : Call σ} (h : call.isTaken = true) : call.Finished := by
  rcases call with ⟨b, r, a⟩ | ⟨b, c, r, a⟩ | ⟨b, c, r, a⟩ | ⟨b, r, a⟩ <;>
    (rintro rfl; cases h)

namespace Within

variable {n m n' m' : Nat} {l l' : List (Call σ)}

theorem nil : Within n m ([] : List (Call σ)) := ⟨rfl, Nat.zero_le _, Nat.zero_le _⟩

theorem append (h : Within n m l) (h' : Within n' m' l') :
    Within (n + n') (m + m') (l ++ l') where
  waits := by rw [Supervisor.waits, List.countP_append, ← Supervisor.waits, h.waits,
    ← Supervisor.waits, h'.waits]
  stops := by
    rw [Supervisor.stops, List.countP_append]
    exact Nat.add_le_add h.stops h'.stops
  launches := by
    rw [Supervisor.launches, List.countP_append]
    exact Nat.add_le_add h.launches h'.launches

theorem sublist (h : Within n m l) (hs : l'.Sublist l) : Within n m l' where
  waits := Nat.le_zero.1 (Nat.le_trans hs.countP_le (Nat.le_of_eq h.waits))
  stops := Nat.le_trans hs.countP_le h.stops
  launches := Nat.le_trans hs.countP_le h.launches

theorem mono (h : Within n m l) (hn : n ≤ n') (hm : m ≤ m') : Within n' m' l :=
  ⟨h.waits, Nat.le_trans h.stops hn, Nat.le_trans h.launches hm⟩

end Within

variable [Stoppable σ]

/-- After a shutdown was asked for there is no wait, and no more than one stop and one launch. -/
def Swift (l : List (Call σ)) : Prop :=
  ∀ pre call post, l = pre ++ call :: post → Stoppable.asked call.after = true → Within 1 1 post

/-- What was called on the way from a state to another. A request to shut down is not taken back. -/
structure Passed (y z : List (Call σ) × σ) (new : List (Call σ)) : Prop where
  ledger : z.1 = y.1 ++ new
  lasted : Stoppable.asked y.2 = true → Stoppable.asked z.2 = true
  marked : ∀ call ∈ new, Stoppable.asked call.after = true → Stoppable.asked z.2 = true

/-- A crew that does not take a request to shut down back, nor does the log. -/
structure Lasting [Log.Logbook σ] (crew : Crew T σ) : Prop where
  note (r : Log.Record) (w : σ) :
    Stoppable.asked w = true → Stoppable.asked (Log.Logbook.note r w) = true
  launch (i w) : Stoppable.asked w = true → Stoppable.asked (crew.launch i w).2 = true
  stop (c w) : Stoppable.asked w = true → Stoppable.asked (crew.stop c w).2 = true
  poll (c w) : Stoppable.asked w = true → Stoppable.asked (crew.poll c w).2 = true
  wait (phase interval w) :
    Stoppable.asked w = true → Stoppable.asked (crew.wait phase interval w).2 = true

namespace Passed

variable {x y z : List (Call σ) × σ} {new more : List (Call σ)}

theorem refl (y : List (Call σ) × σ) : Passed y y [] :=
  ⟨(List.append_nil _).symm, id, fun _ hm => absurd hm List.not_mem_nil⟩

theorem trans (h : Passed x y new) (h' : Passed y z more) : Passed x z (new ++ more) where
  ledger := by rw [h'.ledger, h.ledger, List.append_assoc]
  lasted asked := h'.lasted (h.lasted asked)
  marked call hm asked := by
    rcases List.mem_append.1 hm with hm | hm
    · exact h'.lasted (h.marked call hm asked)
    · exact h'.marked call hm asked

/-- One call. -/
theorem of_call {call : Call σ} (ledger : y.1 = x.1 ++ [call]) (after : call.after = y.2)
    (lasted : Stoppable.asked x.2 = true → Stoppable.asked y.2 = true) : Passed x y [call] where
  ledger := ledger
  lasted := lasted
  marked other hm asked := by
    obtain rfl := List.mem_singleton.1 hm
    rwa [← after]

theorem note [Log.Logbook σ] {crew : Crew T σ} (hl : Lasting crew) (h : Passed x y new)
    (r : Log.Record) : Passed x (Log.Logbook.note r y) new where
  ledger := h.ledger
  lasted asked := hl.note r _ (h.lasted asked)
  marked call hm asked := hl.note r _ (h.marked call hm asked)

end Passed

/-! ## 2. Operations -/

section Operations

variable [Log.Logbook σ] {crew : Crew T σ} (hl : Lasting crew)
include hl

/-- A start makes one launch at most. -/
theorem start_passed (x : Supervisor × List (Call σ) × σ) :
    Ends (start crew.recorded) x fun _ z => ∃ new, Passed x.2 z.2 new ∧ Within 0 1 new := by
  obtain ⟨s, y⟩ := x
  refine Ends.mono (P := fun o z => Started crew.recorded (s, y) (o, z)) (started _ _) ?_
  intro o z begun
  have one {r : Outcome Child.Handle} {z : List (Call σ) × σ}
      (call : crew.recorded.launch s.invocation y = (r, z)) : Passed y z [.launch y.2 r z.2] := by
    have lasted := hl.launch s.invocation y.2
    rw [launch_of_recorded call] at lasted
    exact .of_call (recorded_launch call) rfl lasted
  have single {r : Outcome Child.Handle} {a : σ} : Within 0 1 [Call.launch y.2 r a] :=
    ⟨rfl, Nat.le_refl 0, Nat.le_refl 1⟩
  cases begun with
  | refused held => exact ⟨[], .refl _, .nil⟩
  | launched free call => exact ⟨_, one call, single⟩
  | failed free call hf => exact ⟨_, (one call).note hl _, single⟩
  | broken free call hf => exact ⟨_, one call, single⟩
  | unfinished free call => exact ⟨_, one call, single⟩

/-- A stop makes one stop at most. -/
theorem stop_passed (x : Supervisor × List (Call σ) × σ) :
    Ends (stop crew.recorded) x fun _ z => ∃ new, Passed x.2 z.2 new ∧ Within 1 0 new := by
  obtain ⟨s, y⟩ := x
  refine Ends.mono (P := fun o z => Stopped crew.recorded (s, y) (o, z)) (stopped _ _) ?_
  intro o z begun
  have one {c : Child.Handle} {r : Outcome Unit} {z : List (Call σ) × σ}
      (call : crew.recorded.stop c y = (r, z)) : Passed y z [.stop y.2 c r z.2] := by
    have made : writing (.stop · c) (crew.stop c) y = (r, z) := call
    have lasted := hl.stop c y.2
    rw [(writing_eq made).1] at lasted
    exact .of_call (recorded_stop call) rfl lasted
  have single {c : Child.Handle} {r : Outcome Unit} {a : σ} : Within 1 0 [Call.stop y.2 c r a] :=
    ⟨rfl, Nat.le_refl 1, Nat.le_refl 0⟩
  cases begun with
  | idle free => exact ⟨[], .refl _, .nil⟩
  | stopped held call => exact ⟨_, one call, single⟩
  | survived held call hf => exact ⟨_, (one call).note hl _, single⟩
  | broken held call hf => exact ⟨_, one call, single⟩
  | unfinished held call => exact ⟨_, one call, single⟩

/-- A look at the instance makes neither. -/
theorem check_passed (x : Supervisor × List (Call σ) × σ) :
    Ends (check crew.recorded) x fun _ z => ∃ new, Passed x.2 z.2 new ∧ Within 0 0 new := by
  obtain ⟨s, y⟩ := x
  refine Ends.mono (P := fun o z => Checked crew.recorded (s, y) (o, z)) (checked _ _) ?_
  intro o z begun
  have one {c : Child.Handle} {r : Outcome (Option Int)} {z : List (Call σ) × σ}
      (call : crew.recorded.poll c y = (r, z)) : Passed y z [.poll y.2 c r z.2] := by
    have made : writing (.poll · c) (crew.poll c) y = (r, z) := call
    have lasted := hl.poll c y.2
    rw [(writing_eq made).1] at lasted
    exact .of_call (recorded_poll call) rfl lasted
  have single {c : Child.Handle} {r : Outcome (Option Int)} {a : σ} :
      Within 0 0 [Call.poll y.2 c r a] := ⟨rfl, Nat.le_refl 0, Nat.le_refl 0⟩
  cases begun with
  | idle free => exact ⟨[], .refl _, .nil⟩
  | alive held call => exact ⟨_, one call, single⟩
  | ended held call => exact ⟨_, (one call).note hl _, single⟩
  | broken held call => exact ⟨_, one call, single⟩
  | unfinished held call => exact ⟨_, one call, single⟩

/-- A restart makes one stop and one launch at most. -/
theorem restart_passed (x : Supervisor × List (Call σ) × σ) :
    Ends (restart crew.recorded) x fun _ z => ∃ new, Passed x.2 z.2 new ∧ Within 1 1 new := by
  refine Ends.of_modify ((stop_passed hl ({ x.1 with restarts := _ }, x.2)).seq ?_ ?_)
  · rintro z ⟨new, passed, within⟩
    exact ⟨new, passed, within.mono (Nat.le_refl 1) (Nat.zero_le 1)⟩
  · rintro b z ⟨new, passed, within⟩
    cases b with
    | false => exact ⟨new, passed, within.mono (Nat.le_refl 1) (Nat.zero_le 1)⟩
    | true =>
      refine (start_passed hl z).mono fun _ u started => ?_
      obtain ⟨more, further, launched⟩ := started
      exact ⟨new ++ more, passed.trans further, within.append launched⟩

/-- **After its wait, a round makes one stop and one launch at most.** -/
theorem round_passed (interval : T) (x : Supervisor × List (Call σ) × σ) :
    Ends (round crew.recorded interval) x fun _ z => ∃ r a new,
      Passed x.2 z.2 (.wait x.2.2 r a :: new) ∧ Within 1 1 new := by
  obtain ⟨s, y⟩ := x
  have waited : Ends (crew.recorded.wait s.phase interval).inner (s, y) fun _ z =>
      ∃ r a, Passed y z.2 [.wait y.2 r a] :=
    ⟨_, _, .of_call rfl rfl (hl.wait s.phase interval y.2)⟩
  refine Ends.of_read (waited.seq ?_ ?_)
  · rintro z ⟨r, a, passed⟩
    exact ⟨r, a, [], passed, .nil⟩
  · rintro given z ⟨r, a, passed⟩
    cases given with
    | none =>
      refine (check_passed hl z).mono fun _ u looked => ?_
      obtain ⟨more, further, within⟩ := looked
      exact ⟨r, a, more, passed.trans further, within.mono (Nat.zero_le 1) (Nat.zero_le 1)⟩
    | some t =>
      have goes (u : Supervisor × List (Call σ) × σ) (new : List (Call σ))
          (restarted : Passed (Log.Logbook.note (restartRecord t z.1) z.2) u.2 new) :
          Passed y u.2 (.wait y.2 r a :: new) := (passed.note hl _).trans restarted
      refine Ends.of_read (Ends.of_modify ((restart_passed hl _).seq ?_ ?_))
      · rintro u ⟨new, restarted, within⟩
        exact ⟨r, a, new, goes u new restarted, within⟩
      · rintro _ u ⟨new, restarted, within⟩
        exact ⟨r, a, new, goes u new restarted, within⟩

/-! ## 3. The loop -/

omit [Stoppable σ] [Log.Logbook σ] hl in
/-- What comes after one of the calls. -/
theorem Within.suffix {n m : Nat} {l pre post : List (Call σ)} {call : Call σ} (h : Within n m l)
    (he : l = pre ++ call :: post) : Within n m post := by
  refine h.sublist ?_
  rw [he]
  exact (List.sublist_cons_self _ _).trans (List.sublist_append_right _ _)

omit [Stoppable σ] [Log.Logbook σ] hl in
theorem Within.suffix_cons {n m : Nat} {l pre post : List (Call σ)} {first call : Call σ}
    (h : Within n m l) (he : first :: l = pre ++ call :: post) : Within n m post := by
  cases pre with
  | nil => exact (List.cons.inj he).2 ▸ h
  | cons _ pre => exact h.suffix (List.cons.inj he).2

omit [Log.Logbook σ] hl in
theorem Swift.nil : Swift ([] : List (Call σ)) := fun pre call post he => by simp at he

omit [Log.Logbook σ] hl in
/-- Where a shutdown was asked for in the first part, there is no second. -/
theorem Swift.append {l more : List (Call σ)}
    (within : ∀ {pre call post}, l = pre ++ call :: post → Within 1 1 post)
    (settled : ∀ call ∈ l, Stoppable.asked call.after = true → more = [])
    (swift : Swift more) : Swift (l ++ more) := by
  intro pre call post he asked
  rcases List.append_eq_append_iff.1 he with ⟨mid, -, hmid⟩ | ⟨mid, hl, hmid⟩
  · exact swift mid call post hmid asked
  · cases mid with
    | nil => exact swift [] call post hmid.symm asked
    | cons other rest =>
      obtain ⟨rfl, hpost⟩ := List.cons.inj hmid
      have none : more = [] := by
        refine settled call ?_ asked
        rw [hl]
        exact List.mem_append_right _ List.mem_cons_self
      have same : post = rest := hpost.trans (none ▸ List.append_nil rest)
      rw [same]
      exact within hl

/-- A loop that was asked to end calls nobody, and one that is asked to meanwhile is swift. -/
theorem rounds_swift (interval : T) (patience : Nat) (x : Supervisor × List (Call σ) × σ) :
    Ends (rounds crew.recorded interval patience) x fun _ z => ∃ new,
      Passed x.2 z.2 new ∧ (Stoppable.asked x.2.2 = true → new = []) ∧ Swift new := by
  have idle (x : Supervisor × List (Call σ) × σ) : ∃ new, Passed x.2 x.2 new ∧
      (Stoppable.asked x.2.2 = true → new = []) ∧ Swift new := ⟨[], .refl _, fun _ => rfl, .nil⟩
  induction patience generalizing x with
  | zero => exact idle x
  | succ patience ih =>
    refine Ends.of_read ?_
    split
    · exact idle x
    · next unasked =>
      refine (round_passed hl interval x).seq ?_ ?_
      · rintro z ⟨r, a, new, passed, within⟩
        exact ⟨_, passed, fun asked => absurd asked unasked, fun _ _ _ he _ => within.suffix_cons he⟩
      · rintro _ z ⟨r, a, new, passed, within⟩
        refine (ih z).mono fun _ u rest => ?_
        obtain ⟨more, further, none, swift⟩ := rest
        exact ⟨_, passed.trans further, fun asked => absurd asked unasked,
          .append within.suffix_cons (fun call hm asked => none (passed.marked call hm asked)) swift⟩

/-- A run that was asked to end before it began makes one launch at most, and one that is asked to
    meanwhile is swift. -/
theorem run_swift (interval : T) (patience : Nat) (x : Supervisor × List (Call σ) × σ) :
    Ends (run crew.recorded interval patience) x fun _ z => ∃ new, Passed x.2 z.2 new ∧
      (Stoppable.asked x.2.2 = true → Within 0 1 new) ∧ Swift new := by
  have begun (r : Log.Record) : Passed x.2 (Log.Logbook.note r x.2) [] := (Passed.refl _).note hl r
  refine Ends.of_read (Ends.of_modify ((start_passed hl _).seq ?_ ?_))
  · rintro z ⟨new, passed, within⟩
    have wide := within.mono (Nat.zero_le 1) (Nat.le_refl 1)
    exact ⟨new, (begun _).trans passed, fun _ => within, fun _ _ _ he _ => wide.suffix he⟩
  · rintro _ z ⟨new, passed, within⟩
    have wide := within.mono (Nat.zero_le 1) (Nat.le_refl 1)
    have passed := (begun _).trans passed
    refine (rounds_swift hl interval patience z).mono fun _ u rest => ?_
    obtain ⟨more, further, none, swift⟩ := rest
    refine ⟨new ++ more, passed.trans further, fun asked => ?_,
      .append wide.suffix (fun call hm asked => none (passed.marked call hm asked)) swift⟩
    rw [none (passed.lasted asked), List.append_nil]
    exact within

/-! ## 4. The end of a run -/

omit [Stoppable σ] [Log.Logbook σ] hl in
/-- Where every call is taken, the first half of what was done went through. -/
theorem done_of_taken {α β : Type} {n : Nat} {x : Action (Supervisor × List (Call σ) × σ) α}
    {g : α → Action (Supervisor × List (Call σ) × σ) β} {v y : Supervisor × List (Call σ) × σ}
    {o : Outcome β} (told : Ends x v fun r z => Told n r z.2.1) (ran : (x >>= g) v = (o, y))
    (taken : ∀ call ∈ y.2.1, call.isTaken = true) :
    ∃ a z, x v = (.done a, z) ∧ Smooth z.2.1 ∧ g a z = (o, y) := by
  rcases first : x v with ⟨r, z⟩
  have told := told.result first
  cases r with
  | done a =>
    rw [Action.bind_done first] at ran
    exact ⟨a, z, rfl, told.1, ran⟩
  | raised f =>
    rw [Action.bind_raised first] at ran
    obtain rfl : z = y := congrArg Prod.snd ran
    obtain ⟨pre, call, ledger, breaks, -⟩ := told
    have last : call ∈ z.2.1 := ledger ▸ List.mem_append_right _ List.mem_cons_self
    exact absurd breaks (Call.isTaken.not_breaks (taken call last) f)
  | unfinished =>
    have halted : (x >>= g) v = (.unfinished, z) := by simp [Action.after, first]
    rw [halted] at ran
    obtain rfl : z = y := congrArg Prod.snd ran
    obtain ⟨-, call, hm, unfinished⟩ := told
    exact absurd (Call.isTaken.finished (taken call hm)) unfinished

omit hl in
/-- A loop that was asked to end, and whose calls were all taken, ends at its next look, with no call
    more. -/
theorem rounds_resume {interval : T} (more : Nat) {patience : Nat} : ∀ {s : Supervisor}
    {l : List (Call σ)} {w : σ} {o : Outcome Unit} {y : Supervisor × List (Call σ) × σ}, Smooth l →
    rounds crew.recorded interval patience (s, l, w) = (o, y) →
    (∀ call ∈ y.2.1, call.isTaken = true) → Stoppable.asked y.2.2 = true →
    rounds crew.recorded interval (patience + more + 1) (s, l, w) = (.done (), y) := by
  induction patience with
  | zero =>
    rintro s l w o y - ran - asked
    have stays : y = (s, l, w) := (congrArg Prod.snd ran).symm
    rw [stays] at asked ⊢
    exact rounds_of_asked _ _ _ asked
  | succ patience ih =>
    intro s l w o y smooth ran taken asked
    cases already : Stoppable.asked w with
    | true =>
      have asked : Stoppable.asked (s, l, w) = true := already
      rw [rounds_of_asked _ _ _ asked] at ran
      have stays : y = (s, l, w) := (congrArg Prod.snd ran).symm
      rw [stays]
      exact rounds_of_asked _ _ _ asked
    | false =>
      have goes_on (n : Nat) : rounds crew.recorded interval (n + 1) (s, l, w) =
          (round crew.recorded interval >>= fun _ => rounds crew.recorded interval n) (s, l, w) := by
        simp [rounds, Action.after, already]
      rw [goes_on] at ran
      rw [Nat.succ_add patience more, goes_on]
      obtain ⟨u, z, went, smooth, further⟩ :=
        done_of_taken (round_told smooth rfl interval) ran taken
      rw [Action.bind_done went]
      exact ih smooth further taken asked

omit hl in
/-- The same of a run that begins with nothing held. -/
theorem run_resume {interval : T} (more : Nat) {patience : Nat} {s : Supervisor} {w : σ}
    {o : Outcome Unit} {y : Supervisor × List (Call σ) × σ} (free : s.child = none)
    (ran : run crew.recorded interval patience (s, [], w) = (o, y))
    (taken : ∀ call ∈ y.2.1, call.isTaken = true) (asked : Stoppable.asked y.2.2 = true) :
    run crew.recorded interval (patience + more + 1) (s, [], w) = (.done (), y) := by
  have begins (n : Nat) : run crew.recorded interval n (s, [], w) =
      (start crew.recorded >>= fun _ => rounds crew.recorded interval n)
        (s, [], Log.Logbook.note (runRecord s) w) := rfl
  rw [begins] at ran ⊢
  obtain ⟨b, z, begun, smooth, further⟩ := done_of_taken (start_told .nil rfl free) ran taken
  rw [Action.bind_done begun]
  exact rounds_resume more smooth further taken asked

omit hl in
/-- After a shutdown nothing is held, unless the instance that was held has just survived its stop. -/
theorem shutdown_left (x : Supervisor × List (Call σ) × σ) :
    Ends (shutdown crew.recorded) x fun o z => (∀ call ∈ z.2.1, call.isTaken = true) →
      o = .done () ∧ (z.1.child = none ∨ ∃ b c f a,
        z.2.1.getLast? = some (.stop b c (.raised f) a) ∧ isSurvival f = true ∧
          z.1.child = some c) := by
  obtain ⟨s, l, w⟩ := x
  have stop (w : σ) : Ends (do let _ ← stop crew.recorded) (s, l, w) fun o z =>
      (∀ call ∈ z.2.1, call.isTaken = true) → o = .done () ∧ (z.1.child = none ∨ ∃ b c f a,
        z.2.1.getLast? = some (.stop b c (.raised f) a) ∧ isSurvival f = true ∧
          z.1.child = some c) := by
    have stopping : Ends (stop crew.recorded) (s, l, w) fun o z =>
        Stopped crew.recorded (s, l, w) (o, z) := stopped _ _
    refine stopping.bind ?_ ?_ ?_
    · intro b z ended _
      refine ⟨rfl, ?_⟩
      cases ended with
      | idle free => exact .inl free
      | stopped held call => exact .inl rfl
      | @survived _ _ z c f held call hf =>
        have ledger := recorded_stop call
        refine .inr ⟨w, c, f, z.2, ?_, hf, held⟩
        show z.1.getLast? = _
        rw [ledger, List.getLast?_concat]
    · intro f z ended taken
      cases ended with
      | broken held call hf =>
        have ledger := recorded_stop call
        have last := taken _ (ledger ▸ List.mem_append_right _ List.mem_cons_self)
        exact nomatch hf.symm.trans last
    · intro z ended taken
      cases ended with
      | @unfinished _ _ z c held call =>
        have ledger := recorded_stop call
        have last := taken (.stop w c .unfinished z.2)
          (ledger ▸ List.mem_append_right _ List.mem_cons_self)
        exact nomatch last
  refine Ends.of_modify (Ends.of_read ?_)
  split
  · exact Ends.of_modify (stop _)
  · exact stop _

/-- **A run reacts to a request to shut down within bounds.** In a run that begins with nothing held,
    on a crew that does not take such a request back:

    * if it was made before the run began, no more than one launch is made;
    * if it was made by the end of any call, no trigger is waited for after that call, and no more
      than one stop and one launch are made;
    * if in either case every call was answered, or ended with a failed start or a survived stop,
      the run returns at its next look with no call more;
    * and the shutdown after it returns as well and leaves nothing held, unless the instance that
      was held has just survived its stop. -/
theorem bounded_reaction {s s' : Supervisor} (free : s.child = none) {interval : T} {patience : Nat}
    {w w' : σ} {o : Outcome Unit} {l : List (Call σ)}
    (ran : run crew.recorded interval patience (s, [], w) = (o, s', l, w')) :
    (Stoppable.asked w = true → Within 0 1 l) ∧
    (∀ pre call post, l = pre ++ call :: post → Stoppable.asked call.after = true →
      Within 1 1 post) ∧
    ((Stoppable.asked w = true ∨ ∃ call ∈ l, Stoppable.asked call.after = true) →
      (∀ call ∈ l, call.isTaken = true) → ∀ more,
        run crew.recorded interval (patience + more + 1) (s, [], w) = (.done (), s', l, w')) ∧
    (∀ o' s'' l' w'', shutdown crew.recorded (s', l, w') = (o', s'', l', w'') →
      (∀ call ∈ l', call.isTaken = true) → o' = .done () ∧ (s''.child = none ∨ ∃ b c f a,
        l'.getLast? = some (.stop b c (.raised f) a) ∧ isSurvival f = true ∧
          s''.child = some c)) := by
  obtain ⟨new, passed, early, swift⟩ := (run_swift hl interval patience (s, [], w)).result ran
  obtain rfl : l = new := passed.ledger
  refine ⟨early, swift, fun asked taken more => ?_, fun o' s'' l' w'' stopped taken => ?_⟩
  · have asked : Stoppable.asked w' = true := by
      rcases asked with before | ⟨call, hm, during⟩
      · exact passed.lasted before
      · exact passed.marked call hm during
    exact run_resume more free ran taken asked
  · exact (shutdown_left (s', l, w')).result stopped taken

end Operations

/-! ## 5. A rehearsal -/

section Rehearsed

open Rehearsal (StandIns)

/-- Stand-ins do not take a request to shut down back. -/
theorem lasting_crew : Lasting StandIns.crew where
  note _ _ asked := asked
  launch i w asked := by
    show (StandIns.launch i w).2.asked = true
    have asked : w.asked = true := asked
    rcases h : w.launches.head?.getD .success with _ | ⟨reason, code⟩ | e <;>
      simp [StandIns.launch, StandIns.note, Action.after, h, asked]
  stop c w asked := by
    show (StandIns.stop c w).2.asked = true
    have asked : w.asked = true := asked
    rcases h : w.stops.head?.getD .success with _ | _ | text <;>
      simp [StandIns.stop, StandIns.note, Action.after, h, asked]
  poll c w asked := asked
  wait phase interval w asked := by
    show (StandIns.wait phase interval w).2.asked = true
    have asked : w.asked = true := asked
    rcases h : w.turns.head? with _ | _ | ⟨_ | code, _ | _, given⟩ <;>
      simp [StandIns.wait, StandIns.note, StandIns.exit, Stoppable.ask, Action.after, h, asked]

/-- A shutdown is asked for while a trigger is given, and the instance that is launched for it
    survives the last stop. -/
def lateCall : StandIns :=
  { StandIns.waiting "server" [] [.success, .survived] with turns := [.turn none true (some 1)] }

/-- The calls of a run of one round. -/
def lateCalls : Outcome Unit × Supervisor × List (Call StandIns) × StandIns :=
  run StandIns.crew.recorded (.whole 1) 1 (ofInvocation rehearsed, [], lateCall)

/-- The restart for the trigger is gone through with, and then the run returns. -/
theorem bounded_reaction_rehearsed :
    lateCalls.2.2.1.map Call.isWait = [false, true, false, false] ∧
    (∀ pre call post, lateCalls.2.2.1 = pre ++ call :: post → Stoppable.asked call.after = true →
      Within 1 1 post) ∧
    (∀ more, run StandIns.crew.recorded (.whole 1) (1 + more + 1)
      (ofInvocation rehearsed, [], lateCall) = (.done (), lateCalls.2)) ∧
    (shutdown StandIns.crew.recorded lateCalls.2).1 = .done () ∧
    (shutdown StandIns.crew.recorded lateCalls.2).2.1.child.isSome = true := by
  have free : (ofInvocation rehearsed).child = none := rfl
  have ran : run StandIns.crew.recorded (.whole 1) 1 (ofInvocation rehearsed, [], lateCall) =
      (lateCalls.1, lateCalls.2.1, lateCalls.2.2.1, lateCalls.2.2.2) := rfl
  obtain ⟨-, swift, returns, left⟩ := bounded_reaction lasting_crew free ran
  have asked : ∃ call ∈ lateCalls.2.2.1, Stoppable.asked call.after = true := by decide +kernel
  have taken : ∀ call ∈ lateCalls.2.2.1, call.isTaken = true := by decide +kernel
  have stopped : ∀ call ∈ (shutdown StandIns.crew.recorded lateCalls.2).2.2.1,
      call.isTaken = true := by decide +kernel
  exact ⟨by decide +kernel, swift, returns (.inr asked) taken, (left _ _ _ _ rfl stopped).1,
    by decide +kernel⟩

end Rehearsed

end Respawn.Supervisor
