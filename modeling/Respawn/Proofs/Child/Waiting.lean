import Respawn.Proofs.Child.Minutes

/-!
# Waiting until processes are gone

Who is left after some time are those who were waited for and have not been dropped since. A process
is dropped when it is seen exited, vanished or a zombie. It is dropped as well, unseen, when a wait
for several processes finds another one of them missing.

* `Exchange.Shows`, `Exchange.Overlooks`: the two ways in which a process is dropped;
* `Thins`: who is left of some processes, and `Thins.trans`: who was dropped once stays out;
* `pollUntil_went`, `waitFor_went`: who is left after some polls, and that they run.
-/

namespace Respawn.Child

variable {T σ : Type}

/-! ## 1. Who is dropped -/

namespace Exchange

/-- The process is seen exited, vanished or a zombie. -/
inductive Shows (p : Pid) : Exchange T → Prop
  | exited {ps time left} (asked : p ∈ ps) (out : p ∉ left) :
    Shows p (.waitAll ps time (.done left))
  | vanished {ps time} (asked : p ∈ ps) : Shows p (.waitAll ps time (.raised (.noSuchProcess p)))
  | zombie : Shows p (.status p (.done .zombie))
  | missing {n} : Shows p (.status p (.raised (.noSuchProcess n)))

/-- The process is waited for, but another one is found missing. -/
inductive Overlooks (p : Pid) : Exchange T → Prop
  | other {ps time n} (asked : p ∈ ps) (hn : n ≠ p) :
    Overlooks p (.waitAll ps time (.raised (.noSuchProcess n)))

/-- The process is waited for no longer after this. -/
def Drops (p : Pid) (e : Exchange T) : Prop := e.Shows p ∨ e.Overlooks p

theorem drops_left {p : Pid} {ps left : List Pid} {time : T} :
    Drops p (.waitAll ps time (.done left)) ↔ p ∈ ps ∧ p ∉ left := by
  constructor
  · intro h
    rcases h with h | h
    · cases h with
      | exited asked out => exact ⟨asked, out⟩
    · cases h
  · intro h
    exact .inl (.exited h.1 h.2)

theorem drops_missing {p n : Pid} {ps : List Pid} {time : T} :
    Drops p (.waitAll ps time (.raised (.noSuchProcess n))) ↔ p ∈ ps := by
  constructor
  · intro h
    rcases h with h | h
    · cases h with
      | vanished asked => exact asked
    · cases h with
      | other asked hn => exact asked
  · intro h
    by_cases hn : n = p
    · rw [hn]
      exact .inl (.vanished h)
    · exact .inr (.other h hn)

theorem drops_status {p q : Pid} {o : Outcome Status} (h : Drops p (.status q o : Exchange T)) :
    p = q ∧ o ≠ .done .running := by
  rcases h with h | h
  · cases h with
    | zombie => exact ⟨rfl, nofun⟩
    | missing => exact ⟨rfl, nofun⟩
  · cases h

theorem Drops.stage {p : Pid} {e : Exchange T} (h : e.Drops p) : e.stage = .waiting := by
  rcases h with h | h
  · cases h <;> rfl
  · cases h
    rfl

end Exchange

/-- The process has been seen exited, vanished or a zombie, or it was waited for when another one was
    found missing. -/
def Dropped (p : Pid) (w : List (Exchange T)) : Prop := ∃ e ∈ w, e.Drops p

/-- The last that was heard of all these processes is that they run. -/
def Running (left : List Pid) (w : List (Exchange T)) : Prop :=
  ∀ p ∈ left, .status p (.done .running) ∈ w

section Dropped

variable {p : Pid} {K : Stage → Prop} {w w' : List (Exchange T)} {e : Exchange T}

theorem not_dropped_nil : ¬ Dropped p ([] : List (Exchange T)) := fun ⟨_, he, _⟩ => nomatch he

@[simp] theorem dropped_append : Dropped p (w ++ w') ↔ Dropped p w ∨ Dropped p w' := by
  unfold Dropped
  simp only [List.mem_append, or_and_right, exists_or]

theorem dropped_cons : Dropped p (e :: w) ↔ e.Drops p ∨ Dropped p w := by
  unfold Dropped
  simp only [List.mem_cons, or_and_right, exists_or, exists_eq_left]

theorem dropped_single : Dropped p [e] ↔ e.Drops p :=
  dropped_cons.trans (or_iff_left not_dropped_nil)

theorem Orderly.not_dropped (h : Orderly K w) (hk : ¬ K .waiting) : ¬ Dropped p w := by
  intro hd
  obtain ⟨e, he, drops⟩ := hd
  exact hk (drops.stage ▸ (h e he).2)

end Dropped

/-! ## 2. Who is left -/

/-- Of some distinct processes those are left that have not been dropped. -/
structure Thins (ps : List Pid) (w : List (Exchange T)) (left : List Pid) : Prop where
  subset : left ⊆ ps
  nodup : left.Nodup
  kept : ∀ p ∈ ps, (p ∈ left ↔ ¬ Dropped p w)
  own : ∀ p, Dropped p w → p ∈ ps

section Thins

variable {p : Pid} {ps left last : List Pid} {w w' : List (Exchange T)} {o : Outcome Status}

theorem Thins.of_orderly {K : Stage → Prop} (distinct : ps.Nodup) (h : Orderly K w)
    (hk : ¬ K .waiting) : Thins ps w ps where
  subset := List.Subset.refl ps
  nodup := distinct
  kept _ hp := ⟨fun _ => h.not_dropped hk, fun _ => hp⟩
  own _ hd := absurd hd (h.not_dropped hk)

theorem Thins.refl (distinct : ps.Nodup) : Thins ps ([] : List (Exchange T)) ps :=
  .of_orderly (K := fun _ => False) distinct .nil id

/-- Who was dropped once is never waited for again. -/
theorem Thins.trans (h : Thins ps w left) (h' : Thins left w' last) : Thins ps (w ++ w') last where
  subset := List.Subset.trans h'.subset h.subset
  nodup := h'.nodup
  kept p hp := by
    rw [dropped_append, not_or]
    constructor
    · intro hm
      have before := h'.subset hm
      exact ⟨(h.kept p hp).1 before, (h'.kept p before).1 hm⟩
    · intro hn
      exact (h'.kept p ((h.kept p hp).2 hn.1)).2 hn.2
  own p hd := by
    rcases dropped_append.1 hd with hd | hd
    · exact h.own p hd
    · exact h.subset (h'.own p hd)

/-- One of the processes is asked about after the others, and it runs. -/
theorem Thins.cons_running (hp : p ∉ ps) (h : Thins ps w left) :
    Thins (p :: ps) (.status p (.done .running) :: w) (p :: left) := by
  have runs (q : Pid) : ¬ Exchange.Drops q (.status p (.done .running) : Exchange T) :=
    fun hd => (Exchange.drops_status hd).2 rfl
  refine ⟨List.cons_subset_cons p h.subset, ?_, fun q hq => ?_, fun q hd => ?_⟩
  · exact List.nodup_cons.2 ⟨fun hm => hp (h.subset hm), h.nodup⟩
  · rw [dropped_cons, or_iff_right (runs q), List.mem_cons]
    by_cases same : q = p
    · rw [same]
      exact ⟨fun _ hd => hp (h.own p hd), fun _ => .inl rfl⟩
    · rw [or_iff_right same]
      exact h.kept q (List.mem_of_ne_of_mem same hq)
  · exact List.mem_cons_of_mem p (h.own q ((dropped_cons.1 hd).resolve_left (runs q)))

/-- The same where it does not run. -/
theorem Thins.cons_dropped (hp : p ∉ ps) (dropped : Exchange.Drops p (.status p o : Exchange T))
    (h : Thins ps w left) : Thins (p :: ps) (.status p o :: w) left := by
  refine ⟨fun q hq => List.mem_cons_of_mem p (h.subset hq), h.nodup, fun q hq => ?_, fun q hd => ?_⟩
  · by_cases same : q = p
    · rw [same]
      exact ⟨fun hm => absurd (h.subset hm) hp, fun hn => absurd (dropped_cons.2 (.inl dropped)) hn⟩
    · rw [dropped_cons, or_iff_right fun hd => same (Exchange.drops_status hd).1]
      exact h.kept q (List.mem_of_ne_of_mem same hq)
  · rcases dropped_cons.1 hd with hd | hd
    · rw [(Exchange.drops_status hd).1]
      exact List.mem_cons_self
    · exact List.mem_cons_of_mem p (h.own q hd)

/-- A wait tells who is left. -/
theorem Thins.of_left {time : T} (within : left ⊆ ps) (distinct : left.Nodup) :
    Thins ps [.waitAll ps time (.done left)] left where
  subset := within
  nodup := distinct
  kept p hp := by
    rw [dropped_single, Exchange.drops_left, not_and, Classical.not_not]
    exact ⟨fun hm _ => hm, fun h => h hp⟩
  own p hd := (Exchange.drops_left.1 (dropped_single.1 hd)).1

/-- A wait that finds one missing leaves nobody. -/
theorem Thins.of_missing {time : T} {n : Pid} :
    Thins ps [.waitAll ps time (.raised (.noSuchProcess n))] [] where
  subset := List.nil_subset ps
  nodup := List.nodup_nil
  kept p hp := by
    rw [dropped_single, Exchange.drops_missing]
    exact ⟨fun hm => (nomatch hm), fun hn => absurd hp hn⟩
  own p hd := Exchange.drops_missing.1 (dropped_single.1 hd)

theorem Running.append (h : Running left w') : Running left (w ++ w') :=
  fun p hp => List.mem_append_right w (h p hp)

end Thins

/-! ## 3. The parts of a stop -/

section Parts

variable [Log.Logbook σ] {h : Host T σ} {p : Fault → Prop} {K : Stage → Prop} {n : Nat}

/-- What the question whether a process lives adds to the minutes. -/
def Looked (pid : Pid) (b : Bool) (w : List (Exchange T)) : Prop :=
  ∃ o, w = [.status pid o] ∧ (b = true → o = .done .running) ∧
    (b = false → Exchange.Drops pid (.status pid o : Exchange T))

omit [Log.Logbook σ] in
theorem lives_went (hr : Responsive p h) (pid : Pid) :
    Adds (Went (· = .waiting) n (Looked pid) fun f _ => p f) (lives h.minuted pid) := by
  have call := minuting_went (K := (· = .waiting)) (n := n) (hr.status pid)
    (e := (Exchange.status pid : Outcome Status → Exchange T)) (fun _ => rfl) fun _ => rfl
  have asked := call.went_map (g := fun status => decide (status ≠ Status.zombie)) (E := Looked pid)
    fun status w hw => by
      refine ⟨.done status, hw.1, ?_⟩
      cases status with
      | running => exact ⟨fun _ => rfl, nofun⟩
      | zombie => exact ⟨nofun, fun _ => .inl .zombie⟩
  refine asked.went_unlessGone (.pure ⟨rfl, rfl⟩) (fun m w hw => ?_) fun f w hw hn => ?_
  · exact ⟨_, hw.1, nofun, fun _ => .inl .missing⟩
  · exact hw.2.resolve_left hn

omit [Log.Logbook σ] in
theorem select_went (hr : Responsive p h) (ps : List Pid) :
    Adds (Went (· = .waiting) n (fun left w => ps.Nodup → Thins ps w left ∧ Running left w)
      fun f _ => p f) (Action.select (lives h.minuted) ps) := by
  induction ps generalizing n with
  | nil => exact .went_pure fun distinct => ⟨.refl distinct, fun _ hp => nomatch hp⟩
  | cons pid ps ih =>
    refine (lives_went hr pid).went_bind fun b w _ hb => ih.went_bind fun left w' _ hl =>
      .went_pure fun distinct => ?_
    obtain ⟨o, rfl, alive, gone⟩ := hb
    obtain ⟨out, distinct⟩ := List.nodup_cons.1 distinct
    obtain ⟨thins, running⟩ := hl distinct
    rw [List.append_nil, List.singleton_append]
    cases b with
    | true =>
      rw [alive rfl, if_pos rfl]
      refine ⟨thins.cons_running out, fun q hq => ?_⟩
      rcases List.mem_cons.1 hq with rfl | hq
      · exact List.mem_cons_self
      · exact List.mem_cons_of_mem _ (running q hq)
    | false => exact ⟨thins.cons_dropped out (gone rfl), fun q hq => .tail _ (running q hq)⟩

omit [Log.Logbook σ] in
theorem now_went (hr : Responsive p h) :
    Adds (Went K n (fun _ w => w = []) fun f _ => p f) h.minuted.now := by
  refine .silent fun y => ⟨rfl, ?_⟩
  have ends := hr.now y.2
  show Went K n _ _ (h.now y.2).1 []
  cases ho : (h.now y.2).1 with
  | done t => exact .done .nil rfl
  | raised f =>
    rw [ho] at ends
    cases ends with
    | raised never => exact never.elim
  | unfinished =>
    rw [ho] at ends
    cases ends

omit [Log.Logbook σ] in
/-- One poll. -/
theorem wait_went (hr : Responsive p h) (hd : Distinct h) (tick : T) {ps : List Pid}
    (distinct : ps.Nodup) :
    Adds (Went (· = .waiting) n (fun found w => waits w = 1 ∧ Thins ps w (found.getD []))
        fun f _ => p f)
      (unlessGone (do pure (some (← h.minuted.waitAll ps tick))) (pure none)) := by
  have call := minuting_went (K := (· = .waiting)) (n := n) (hr.waitAll ps tick)
    (e := Exchange.waitAll ps tick) (fun _ => rfl) fun _ => rfl
  have asked := call.went_map (g := some)
    (E := fun found w => waits w = 1 ∧ Thins ps w (found.getD [])) fun left w hw => by
      obtain ⟨rfl, s, answer⟩ := hw
      obtain ⟨within, distinct'⟩ := hd.waitAll answer
      exact ⟨rfl, .of_left within (distinct' distinct)⟩
  refine asked.went_unlessGone (.pure ⟨rfl, rfl⟩) (fun m w hw => ?_) fun f w hw hn => ?_
  · rw [hw.1]
    exact ⟨rfl, .of_missing⟩
  · exact absurd hw.2 hn

variable [LE T] [DecidableLE T]

omit [Log.Logbook σ] in
/-- **Who is left after some polls are those who have not been dropped.** -/
theorem pollUntil_went (hr : Responsive p h) (hd : Distinct h) (tick deadline : T) (polls : Nat) :
    ∀ {ps : List Pid}, ps.Nodup →
      Adds (Went (· = .waiting) polls (fun left w => Thins ps w left ∧ Running left w)
        fun f _ => p f) (pollUntil h.minuted tick deadline polls ps) := by
  have nobody {n : Nat} : Adds (σ := σ) (Went (· = .waiting) n
      (fun left w => Thins [] w left ∧ Running left w) fun f (_ : List (Exchange T)) => p f)
      (pure []) := .went_pure ⟨.refl List.nodup_nil, fun _ hp => nomatch hp⟩
  induction polls with
  | zero =>
    intro ps distinct
    cases ps with
    | nil => exact nobody
    | cons pid ps => exact .exhausted (.ranOut .nil (Nat.zero_le _))
  | succ polls ih =>
    intro ps distinct
    cases ps with
    | nil => exact nobody
    | cons pid ps =>
      refine (wait_went hr hd tick distinct).went_bind fun found w _ hw => ?_
      obtain ⟨once, thins⟩ := hw
      cases found with
      | none =>
        refine .went_pure ?_
        rw [List.append_nil]
        exact ⟨thins, fun _ hp => nomatch hp⟩
      | some left =>
        refine (select_went hr left).went_bind fun left' w' _ hw' =>
          (now_went hr).went_bind fun now w'' _ silent => ?_
        obtain ⟨thins', running⟩ := hw' thins.nodup
        rw [silent]
        have here : Thins (pid :: ps) (w ++ w') left' := thins.trans thins'
        split
        · refine .went_pure ?_
          rw [List.append_nil, List.append_nil]
          exact ⟨here, running.append⟩
        · refine (ih here.nodup).mono fun o w₁ h₁ => h₁.mono (fun _ => id) ?_ ?_ fun _ => id
          · omega
          · intro last _ hl
            rw [List.nil_append, ← List.append_assoc]
            exact ⟨here.trans hl.1, hl.2.append⟩

variable [Deferrable T]

omit [Log.Logbook σ] in
theorem waitFor_went (hr : Responsive p h) (hd : Distinct h) (polls : Nat) (tick : T) {time : T}
    (due : ∀ now f, Deferrable.later now time ≠ .error f) {ps : List Pid} (distinct : ps.Nodup) :
    Adds (Went (· = .waiting) polls (fun left w => Thins ps w left ∧ Running left w)
      fun f _ => p f) (waitFor h.minuted polls tick time ps) := by
  refine (now_went hr).went_bind fun now w _ silent => ?_
  rw [silent]
  cases hl : Deferrable.later now time with
  | error f => exact absurd hl (due now f)
  | ok deadline => exact .of_ok (pollUntil_went hr hd tick deadline polls distinct)

end Parts

end Respawn.Child
