import Mathlib.Algebra.Order.Floor.Semiring
import Mathlib.Data.Rat.Floor
import Respawn.Proofs.Child.Verdict

/-!
# How often a stop polls

Each of the two periods of a stop polls until nobody is left or its time is up. A wait that leaves
somebody has taken its time, so the clock shows the end of a period after so many waits as there are
ticks in it, and whoever is deaf to signals is not waited for any longer.

* `ExtendedBy`, `pollUntil_extendedBy`: a wait that came to an end is the same with more polls;
* `Polled`, `waitFor_polled`: what a period asks the system for, and how often;
* `Timely`, `Timely.paced`: a clock that shows rational numbers;
* **`stop_in_time`**: a stop comes to an end, and how often it has polled until then.
-/

namespace Respawn

/-! ## 1. More polls -/

namespace Action

variable {σ α β : Type}

/-- Where the first action comes to an end, the second one does the same. -/
def ExtendedBy (x y : Action σ α) : Prop := ∀ s, (x s).1 ≠ .unfinished → y s = x s

namespace ExtendedBy

theorem refl (x : Action σ α) : ExtendedBy x x := fun _ _ => rfl

theorem exhausted (y : Action σ α) : ExtendedBy .exhausted y := fun _ halts => absurd rfl halts

theorem bind {x y : Action σ α} {k m : α → Action σ β} (hx : ExtendedBy x y)
    (hk : ∀ a, ExtendedBy (k a) (m a)) : ExtendedBy (x >>= k) (y >>= m) := by
  intro s halts
  rcases hs : x s with ⟨o, t⟩
  have same (ended : o ≠ .unfinished) : y s = (o, t) := by
    rw [hx s (by rwa [hs]), hs]
  cases o with
  | done a =>
    rw [bind_done hs] at halts ⊢
    rw [bind_done (same nofun)]
    exact hk a t halts
  | raised f => rw [bind_raised hs, bind_raised (same nofun)]
  | unfinished =>
    rw [bind_unfinished hs] at halts
    exact absurd rfl halts

/-- An action that always comes to an end is the same as any that extends it. -/
theorem eq {x y : Action σ α} {p : Fault → Prop} (h : ExtendedBy x y) (hx : Concludes p x) :
    y = x := by
  funext s
  refine h s fun halted => ?_
  have concluded := hx s
  rw [halted] at concluded
  cases concluded

end ExtendedBy

end Action

namespace Child

open Respawn.Action (Concludes Ends ExtendedBy)

variable {T σ α β : Type}

section More

variable [LE T] [DecidableLE T] {m n : Nat}

/-- **A wait that came to an end is the same with more polls.** -/
theorem pollUntil_extendedBy (h : Host T σ) (tick deadline : T) (more : m ≤ n) (ps : List Pid) :
    ExtendedBy (pollUntil h tick deadline m ps) (pollUntil h tick deadline n ps) := by
  induction m generalizing n ps with
  | zero =>
    cases ps with
    | nil =>
      rw [pollUntil_nil, pollUntil_nil]
      exact .refl _
    | cons pid ps => exact .exhausted _
  | succ m ih =>
    obtain ⟨n, rfl⟩ : ∃ k, n = k + 1 := ⟨n - 1, by omega⟩
    cases ps with
    | nil => exact .refl _
    | cons pid ps =>
      refine .bind (.refl _) fun found => ?_
      cases found with
      | none => exact .refl _
      | some left =>
        refine .bind (.refl _) fun left' => .bind (.refl _) fun now => ?_
        split
        · exact .refl _
        · exact ih (Nat.le_of_succ_le_succ more) left'

variable [Deferrable T]

theorem waitFor_extendedBy (h : Host T σ) (tick time : T) (more : m ≤ n) (ps : List Pid) :
    ExtendedBy (waitFor h m tick time ps) (waitFor h n tick time ps) :=
  .bind (.refl _) fun _ => .bind (.refl _) fun deadline => pollUntil_extendedBy h tick deadline more ps

variable [LT T] [DecidableLT T] [Zero T]

/-- A stop that came to an end is the same with more polls. -/
theorem stop_extendedBy [Log.Logbook σ] (h : Host T σ) (plan : StopPlan T) (more : m ≤ n) (c : Handle) :
    ExtendedBy (stop h plan m c) (stop h plan n c) := by
  have waits (time : T) := waitFor_extendedBy h plan.tick time more
  refine .bind (.refl _) fun _ => .bind (.refl _) fun tree => .bind ?_ fun left =>
    .bind (.refl _) fun _ => .bind (waits _ left) fun _ => .refl _
  unfold askToEnd
  split
  · exact .bind (.refl _) fun _ => .bind (waits _ tree) fun _ => .refl _
  · exact .refl _

end More

/-! ## 2. What is added to the minutes -/

section Adds

variable {K : Exchange T → Prop} {P : List (Exchange T) → Prop}
  {x otherwise : Action (List (Exchange T) × σ) α}

/-- Everything is true of `K` that an action adds to the minutes. -/
abbrev Writes (K : Exchange T → Prop) (x : Action (List (Exchange T) × σ) α) : Prop :=
  Adds (fun _ w => ∀ e ∈ w, K e) x

theorem Writes.pure (a : α) : Writes K (Pure.pure a : Action (_ × σ) α) :=
  Adds.pure (List.forall_mem_nil K)

theorem Writes.bind {k : α → Action (List (Exchange T) × σ) β} (hx : Writes K x)
    (hk : ∀ a, Writes K (k a)) : Writes K (x >>= k) := by
  refine Adds.bind hx (fun a w hw => (hk a).mono fun o w' hw' => ?_) (fun _ _ => id) fun _ => id
  exact List.forall_mem_append.2 ⟨hw, hw'⟩

/-- A call is one exchange, whatever comes of it. -/
theorem minuting_adds (e : Outcome α → Exchange T) (x : Action σ α) :
    Adds (fun _ w => ∃ o, w = [e o]) (minuting e x) := fun _ => ⟨_, rfl, _, rfl⟩

theorem minuting_writes {e : Outcome α → Exchange T} (h : ∀ o, K (e o)) (x : Action σ α) :
    Writes K (minuting e x) := by
  refine (minuting_adds e x).mono fun o w hw e' he' => ?_
  obtain ⟨o', rfl⟩ := hw
  rw [List.mem_singleton.1 he']
  exact h o'

/-- Where a process is gone, nothing more is asked. -/
theorem Adds.unlessGone (hx : Adds (fun _ w => P w) x) (ho : Adds (fun _ w => w = []) otherwise) :
    Adds (fun _ w => P w) (unlessGone x otherwise) := by
  refine hx.recover (fun _ _ => id) (fun f w hw z hz => ?_) (fun _ _ hw _ => hw) fun _ => id
  split at hz
  · cases hz
    refine ho.mono fun o w' none => ?_
    rw [none, List.append_nil]
    exact hw
  · cases hz

end Adds

section Host

variable {h : Host T σ} {p : Fault → Prop}

theorem rootOf_writes (h : Host T σ) (c : Handle) :
    Writes (·.stage = .listing) (rootOf h.minuted c) := by
  unfold rootOf
  split
  · exact .pure _
  · have asked : Writes (·.stage = .listing) (h.minuted.poll c.pid) :=
      minuting_writes (e := .poll c.pid) (fun _ => rfl) _
    have sought : Writes (·.stage = .listing) (h.minuted.find c.pid) :=
      minuting_writes (e := .find c.pid) (fun _ => rfl) _
    refine .bind (.bind asked fun _ => .pure _) fun running => ?_
    split
    · exact .unlessGone (sought.bind fun _ => .pure _) (.pure rfl)
    · exact .pure _

theorem treeOf_writes [Log.Logbook σ] (h : Host T σ) (c : Handle) :
    Writes (·.stage = .listing) (treeOf h.minuted c) := by
  refine .bind (rootOf_writes h c) fun root => ?_
  cases root with
  | none => exact .pure _
  | some root =>
    have below : Writes (·.stage = .listing) (h.minuted.descendants root) :=
      minuting_writes (e := .descendants root) (fun _ => rfl) _
    refine .bind (Adds.unlessGone below ?_) fun _ => .pure _
    exact .of_log (k := fun _ => pure []) (.pure rfl) _ _ _

/-! ## 3. One period -/

/-- What a period of polling asks the system for: all polls wait for somebody, for one tick, and there
    are no more than `n` of them. -/
structure Polled (tick : T) (n : Nat) (ps : List Pid) (w : List (Exchange T)) : Prop where
  stage : ∀ e ∈ w, e.stage = .waiting
  few : waits w ≤ n
  needed : ∀ {qs time o}, .waitAll qs time o ∈ w → qs ≠ [] ∧ time = tick
  idle : ps = [] → w = []

/-- A question whether a process lives. -/
def Exchange.Asks (e : Exchange T) : Prop := ∃ pid o, e = .status pid o

variable {tick : T} {m n : Nat} {ps qs : List Pid} {w w' : List (Exchange T)}

theorem Polled.mono (h : Polled tick m ps w) (more : m ≤ n) : Polled tick n ps w :=
  { h with few := Nat.le_trans h.few more }

theorem Polled.nil : Polled tick n ps [] where
  stage := List.forall_mem_nil _
  few := Nat.zero_le n
  needed never := absurd never List.not_mem_nil
  idle _ := rfl

/-- One poll, the questions who of those left lives, and what comes after that. -/
theorem Polled.cons {o : Outcome (List Pid)} (some : ps ≠ []) (asked : ∀ e ∈ w, e.Asks)
    (rest : Polled tick n qs w') : Polled tick (n + 1) ps (.waitAll ps tick o :: (w ++ w')) where
  stage e he := by
    rcases List.mem_cons.1 he with rfl | he
    · rfl
    · rcases List.mem_append.1 he with he | he
      · obtain ⟨pid, o, rfl⟩ := asked e he
        rfl
      · exact rest.stage e he
  few := by
    have none : waits w = 0 := by
      refine List.countP_eq_zero.2 fun e he => ?_
      obtain ⟨pid, o, rfl⟩ := asked e he
      exact Bool.false_ne_true
    have one : waits (.waitAll ps tick o :: (w ++ w')) = waits (w ++ w') + 1 :=
      List.countP_cons_of_pos rfl
    rw [one, waits_append, none]
    have := rest.few
    omega
  needed {qs time o'} he := by
    rcases List.mem_cons.1 he with same | he
    · cases same
      exact ⟨some, rfl⟩
    · rcases List.mem_append.1 he with he | he
      · obtain ⟨pid, o, never⟩ := asked _ he
        cases never
      · exact rest.needed he
  idle none := absurd none some

theorem Polled.once {o : Outcome (List Pid)} (some : ps ≠ []) (asked : ∀ e ∈ w, e.Asks) :
    Polled tick (n + 1) ps (.waitAll ps tick o :: w) := by
  have once : Polled tick (n + 1) ps (.waitAll ps tick o :: (w ++ [])) :=
    .cons some asked (Polled.nil : Polled tick n ps [])
  rwa [List.append_nil] at once

theorem lives_writes (h : Host T σ) (pid : Pid) : Writes Exchange.Asks (lives h.minuted pid) := by
  have asked : Writes Exchange.Asks (h.minuted.status pid) :=
    minuting_writes (e := .status pid) (fun o => ⟨pid, o, rfl⟩) _
  exact .unlessGone (asked.bind fun _ => .pure _) (.pure rfl)

theorem select_writes (h : Host T σ) (ps : List Pid) :
    Writes Exchange.Asks (Action.select (lives h.minuted) ps) := by
  induction ps with
  | nil => exact .pure _
  | cons pid ps ih => exact .bind (lives_writes h pid) fun _ => .bind ih fun _ => .pure _

theorem now_adds (h : Host T σ) : Adds (fun _ w => w = []) h.minuted.now :=
  .silent fun _ => ⟨rfl, rfl⟩

variable [LE T] [DecidableLE T]

/-- Each poll waits once. -/
theorem pollUntil_polled (h : Host T σ) (tick deadline : T) (n : Nat) (ps : List Pid) :
    Adds (fun _ w => Polled tick n ps w) (pollUntil h.minuted tick deadline n ps) := by
  induction n generalizing ps with
  | zero =>
    cases ps with
    | nil => exact .pure .nil
    | cons pid ps => exact .exhausted .nil
  | succ n ih =>
    cases ps with
    | nil => exact .pure .nil
    | cons pid ps =>
      have waited : Adds (fun _ w => ∃ o, w = [.waitAll (pid :: ps) tick o])
          (unlessGone (do pure (some (← h.minuted.waitAll (pid :: ps) tick))) (pure none)) := by
        refine .unlessGone (.bind (minuting_adds (.waitAll (pid :: ps) tick) _)
          (fun _ w hw => .pure ?_) (fun _ _ => id) fun _ => id) (.pure rfl)
        rwa [List.append_nil]
      -- a poll after which nothing more is waited for
      have last {o : Outcome (List Pid)} {w : List (Exchange T)} (asked : ∀ e ∈ w, e.Asks) :
          Polled tick (n + 1) (pid :: ps) ([.waitAll (pid :: ps) tick o] ++ w) :=
        .once (List.cons_ne_nil pid ps) asked
      have alone {w : List (Exchange T)} (hw : ∃ o, w = [.waitAll (pid :: ps) tick o]) :
          Polled tick (n + 1) (pid :: ps) w := by
        obtain ⟨o, rfl⟩ := hw
        exact last (w := []) (List.forall_mem_nil _)
      refine waited.bind (fun found w hw => ?_) (fun _ _ => alone) fun _ => alone
      cases found with
      | none =>
        refine .pure ?_
        rw [List.append_nil]
        exact alone hw
      | some left =>
        obtain ⟨o, rfl⟩ := hw
        refine Adds.bind (select_writes h left) (fun left' w asked => ?_) (fun _ _ => last) fun _ => last
        refine (now_adds h).bind (fun now w' silent => ?_) (fun _ w' silent => ?_) fun w' silent => ?_
        · rw [silent]
          split
          · refine .pure ?_
            rw [List.append_nil, List.append_nil]
            exact last asked
          · refine (ih left').mono fun _ w'' rest => ?_
            rw [List.nil_append]
            exact .cons (w := w) (List.cons_ne_nil pid ps) asked rest
        · rw [silent, List.append_nil]
          exact last asked
        · rw [silent, List.append_nil]
          exact last asked

variable [Deferrable T] {plan : StopPlan T} {polls : Nat} {time : T} {due : T → Nat → σ → Prop}

omit [LE T] [DecidableLE T] [Deferrable T] in
/-- With minutes, a system responds as it does without. -/
theorem Responsive.minuted (hr : Responsive p h) : Responsive p h.minuted where
  find pid y := hr.find pid y.2
  poll pid y := hr.poll pid y.2
  descendants pid y := hr.descendants pid y.2
  terminate pid y := hr.terminate pid y.2
  kill pid y := hr.kill pid y.2
  waitAll ps time y := hr.waitAll ps time y.2
  status pid y := hr.status pid y.2
  now y := hr.now y.2
  reap pid time y := hr.reap pid time y.2

omit [DecidableLE T] in
/-- Minutes take no time. -/
theorem Paced.minuted (hc : Paced h plan polls due) :
    Paced h.minuted plan polls fun deadline n y => due deadline n y.2 where
  start := hc.start
  waitAll := hc.waitAll
  status := hc.status
  now := hc.now
  reached := hc.reached

omit [LE T] [DecidableLE T] in
/-- What holds of both periods of a stop holds of one of them. -/
theorem Punctual.only (hp : Punctual p plan) (ht : time ∈ [plan.grace, plan.patience]) :
    Punctual p ⟨time, time, tick⟩ := by
  intro time' ht' now f hl
  have same : time' = time := by simpa using ht'
  exact hp time ht now f (same ▸ hl)

/-- **A period polls as often as its clock allows**, with whatever number of polls it could make. -/
theorem waitFor_polled (hr : Responsive p h) (hc : Paced h ⟨time, time, tick⟩ n due) (some : 0 < n)
    (hp : Punctual p ⟨time, time, tick⟩) (polls : Nat) (ps : List Pid) :
    Adds (fun _ w => Polled tick n ps w) (waitFor h.minuted polls tick time ps) := by
  have polled (m : Nat) : Adds (fun _ w => Polled tick m ps w) (waitFor h.minuted m tick time ps) := by
    refine (now_adds h).bind (fun now w silent => ?_) (fun _ w silent => ?_) fun w silent => ?_
    · rw [silent]
      cases hl : Deferrable.later now time with
      | error f => exact .raise .nil
      | ok deadline => exact .of_ok (pollUntil_polled h tick deadline m ps)
    · rw [silent]
      exact .nil
    · rw [silent]
      exact .nil
  rcases Nat.le_total polls n with few | many
  · exact (polled polls).mono fun _ _ hw => hw.mono few
  · have ends := waitFor_concludes hr.minuted hc.minuted some hp List.mem_cons_self ps
    rw [(waitFor_extendedBy h.minuted tick time many ps).eq ends]
    exact polled n

/-! ## 4. The stop -/

/-- Signals, of which `told` says whom they went to, and a period of polling for those. -/
inductive Phase (g : Stage) (told : Exchange T → Option Pid) (tick : T) (n : Nat) :
    List (Exchange T) → Prop
  | mk {signals period} (stage : ∀ e ∈ signals, e.stage = g)
      (polled : Polled tick n (signals.filterMap told) period) : Phase g told tick n (signals ++ period)

omit [LE T] [DecidableLE T] [Deferrable T] in
theorem Phase.nil {g : Stage} {told : Exchange T → Option Pid} : Phase g told tick n [] := by
  have nobody : Phase g told tick n ([] ++ []) := .mk (List.forall_mem_nil _) .nil
  exact nobody

omit [LE T] [DecidableLE T] [Deferrable T] in
theorem phase_adds {g : Stage} {told : Exchange T → Option Pid}
    {x : Action (List (Exchange T) × σ) α} {y : Action (List (Exchange T) × σ) β}
    (sent : Adds (Went (· = g) 1 (fun _ w => w.filterMap told = ps) fun f _ => p f) x)
    (other : g ≠ .waiting) (waited : Adds (fun _ w => Polled tick n ps w) y) :
    Adds (fun _ w => Phase g told tick n w) (x >>= fun _ => y) := by
  refine sent.bind (fun _ w hw => ?_) (fun f w hw => ?_) fun w hw => ?_
  · cases hw with
    | done orderly all =>
      refine waited.mono fun _ w' polled => .mk (fun e he => (orderly e he).2) ?_
      rwa [all]
  · cases hw with
    | broke orderly stage fault hf =>
      next w e =>
      rw [← List.append_nil (w ++ [e])]
      refine .mk (fun e' he' => ?_) .nil
      rcases List.mem_append.1 he' with he' | he'
      · exact (orderly e' he').2
      · rwa [List.mem_singleton.1 he']
  · cases hw with
    | ranOut orderly hn =>
      rw [orderly.waits_eq fun same => other same.symm] at hn
      exact absurd hn (by decide)

variable [LT T] [DecidableLT T] [Zero T]

/-- The minutes of a stop: the tree is listed; with a grace period all of it are asked to end and waited
    for with up to `m` polls; those who are left are killed and waited for with up to `n` polls; the
    child is reaped. The minutes of a stop that breaks off end there. -/
inductive Staged (plan : StopPlan T) (m n : Nat) : List (Exchange T) → Prop
  | mk {listing asking killing reaping} (listed : ∀ e ∈ listing, e.stage = .listing)
      (asked : Phase .asking Exchange.terminated? plan.tick m asking)
      (unasked : ¬ 0 < plan.grace → asking = [])
      (killed : Phase .killing Exchange.killed? plan.tick n killing)
      (reaped : ∀ e ∈ reaping, e.stage = .reaping) :
    Staged plan m n (listing ++ (asking ++ (killing ++ reaping)))

omit [LE T] [DecidableLE T] [Deferrable T] [DecidableLT T] in
theorem Staged.of_phases {plan : StopPlan T}
    (asked : Phase .asking Exchange.terminated? plan.tick m w) (unasked : ¬ 0 < plan.grace → w = [])
    (killed : Phase .killing Exchange.killed? plan.tick n w') : Staged plan m n (w ++ w') := by
  have := Staged.mk (List.forall_mem_nil _) asked unasked killed (List.forall_mem_nil _)
  rwa [List.nil_append, List.append_nil] at this

omit [LE T] [DecidableLE T] [Deferrable T] [DecidableLT T] in
theorem Staged.after {plan : StopPlan T} (hl : ∀ e ∈ w, e.stage = .listing)
    (h : Staged plan m n w') : Staged plan m n (w ++ w') := by
  cases h with
  | mk listed asked unasked killed reaped =>
    rw [← List.append_assoc]
    exact .mk (List.forall_mem_append.2 ⟨hl, listed⟩) asked unasked killed reaped

omit [LE T] [DecidableLE T] [Deferrable T] [DecidableLT T] in
theorem Staged.append {plan : StopPlan T} (h : Staged plan m n w)
    (hr : ∀ e ∈ w', e.stage = .reaping) : Staged plan m n (w ++ w') := by
  cases h with
  | mk listed asked unasked killed reaped =>
    rw [List.append_assoc, List.append_assoc, List.append_assoc]
    exact .mk listed asked unasked killed (List.forall_mem_append.2 ⟨reaped, hr⟩)

variable [Log.Logbook σ]

theorem askToEnd_adds (hr : Responsive p h) (some : 0 < m)
    (hc : Paced h ⟨plan.grace, plan.grace, plan.tick⟩ m due) (hp : Punctual p plan) (polls : Nat)
    (ps : List Pid) :
    Adds (fun _ w => Phase .asking Exchange.terminated? plan.tick m w ∧ (¬ 0 < plan.grace → w = []))
      (askToEnd h.minuted plan polls ps) := by
  unfold askToEnd
  by_cases grace : 0 < plan.grace
  · rw [if_pos grace, ← Action.bind_assoc]
    have waited := waitFor_polled hr hc some (hp.only (.head _)) polls ps
    have ended {w : List (Exchange T)}
        (hw : Phase .asking Exchange.terminated? plan.tick m w) :
        Phase .asking Exchange.terminated? plan.tick m w ∧ (¬ 0 < plan.grace → w = []) :=
      ⟨hw, fun never => absurd grace never⟩
    refine (phase_adds (terminateAll_went hr ps) nofun waited).bind (fun left w hw => ?_)
      (fun _ _ => ended) fun _ => ended
    have rest : Adds (σ := σ) (fun (_ : Outcome (List Pid)) w' =>
        Phase .asking Exchange.terminated? plan.tick m (w ++ w') ∧
          (¬ 0 < plan.grace → w ++ w' = [])) (pure left) := by
      refine .pure ?_
      rw [List.append_nil]
      exact ended hw
    split
    · exact rest
    · exact .of_log (k := fun _ => pure left) rest _ _ _
  · rw [if_neg grace]
    exact .pure ⟨.nil, fun _ => rfl⟩

theorem subdue_adds (hr : Responsive p h) (hp : Punctual p plan) (hm : 0 < m) (hn : 0 < n)
    (first : Paced h ⟨plan.grace, plan.grace, plan.tick⟩ m due)
    (last : Paced h ⟨plan.patience, plan.patience, plan.tick⟩ n due) (polls : Nat)
    (tree : List Pid) : Adds (fun _ w => Staged plan m n w) (subdue h.minuted plan polls tree) := by
  have broken {w : List (Exchange T)} (hw : Phase .asking Exchange.terminated? plan.tick m w ∧
      (¬ 0 < plan.grace → w = [])) : Staged plan m n w := by
    rw [← List.append_nil w]
    exact .of_phases hw.1 hw.2 .nil
  refine (askToEnd_adds hr hm first hp polls tree).bind (fun left asking ha => ?_)
    (fun _ _ => broken) fun _ => broken
  have waited := waitFor_polled hr last hn (hp.only (.tail _ (.head _))) polls left
  exact (phase_adds (killAll_went hr left) nofun waited).mono fun _ killing => .of_phases ha.1 ha.2

/-- **The minutes of a stop**, however it ends. -/
theorem stop_adds (hr : Responsive p h) (hp : Punctual p plan) (hm : 0 < m) (hn : 0 < n)
    (first : Paced h ⟨plan.grace, plan.grace, plan.tick⟩ m due)
    (last : Paced h ⟨plan.patience, plan.patience, plan.tick⟩ n due) (polls : Nat) (c : Handle) :
    Adds (fun _ w => Staged plan m n w) (stop h.minuted plan polls c) := by
  have brought (tree : List Pid) :
      Adds (fun _ w => Staged plan m n w) (bringDown h.minuted plan polls c tree) := by
    rw [bringDown_eq]
    refine (subdue_adds hr hp hm hn first last polls tree).bind (fun left w hw => ?_)
      (fun _ _ => id) fun _ => id
    refine Adds.mono (Writes.bind (K := (·.stage = .reaping))
      (minuting_writes (e := .reap c.pid plan.patience) (fun _ => rfl) _) fun code => ?_)
      fun _ _ => hw.append
    cases code with
    | none => exact .raise (List.forall_mem_nil _)
    | some code =>
      cases left with
      | nil => exact .silent fun _ => ⟨rfl, List.forall_mem_nil _⟩
      | cons pid left => exact .raise (List.forall_mem_nil _)
  have listed {w : List (Exchange T)} (hw : ∀ e ∈ w, e.stage = .listing) : Staged plan m n w := by
    rw [← List.append_nil w]
    exact .after hw (.of_phases (w := []) .nil (fun _ => rfl) .nil)
  refine .of_log ?_ _ _ _
  refine Adds.bind (treeOf_writes h c) (fun tree listing hl => ?_) (fun _ _ => listed) fun _ => listed
  exact (brought tree).mono fun _ w => .after hl

end Host

/-! ## 5. Rational time -/

/-- A moment of rational time can always be put off. -/
instance : Deferrable ℚ := ⟨fun now time => .ok (now + time)⟩

/-- A clock that is not set back, and that a wait which leaves somebody has let go on for the time of
    the wait. -/
structure Timely (h : Host ℚ σ) (clock : σ → ℚ) : Prop where
  shown {s t} : (h.now s).1 = .done t → clock s ≤ t ∧ t ≤ clock (h.now s).2
  now (s) : clock s ≤ clock (h.now s).2
  status (pid s) : clock s ≤ clock (h.status pid s).2
  waitAll {ps time left s} : (h.waitAll ps time s).1 = .done left → left ≠ [] →
    clock s + time ≤ clock (h.waitAll ps time s).2

/-- How many polls a period of some length makes at most. -/
def mostPolls (tick time : ℚ) : Nat := max 1 ⌈time / tick⌉₊

theorem mostPolls_pos (tick time : ℚ) : 0 < mostPolls tick time := by
  unfold mostPolls
  omega

/-- So many ticks are as long as the period. -/
theorem le_mostPolls_mul {tick : ℚ} (positive : 0 < tick) (time : ℚ) :
    time ≤ mostPolls tick time * tick := by
  rw [← div_le_iff₀ positive]
  have whole : (⌈time / tick⌉₊ : ℚ) ≤ mostPolls tick time :=
    Nat.cast_le.2 (Nat.le_max_right 1 _)
  exact (Nat.le_ceil _).trans whole

/-- The clock shows the deadline after so many ticks. -/
def Due (clock : σ → ℚ) (tick deadline : ℚ) (n : Nat) (s : σ) : Prop :=
  deadline ≤ clock s + n * tick

section Rational

variable {h : Host ℚ σ} {clock : σ → ℚ} {p : Fault → Prop} {plan : StopPlan ℚ}

theorem punctual_rational (p : Fault → Prop) (plan : StopPlan ℚ) : Punctual p plan :=
  fun _ _ _ _ never => nomatch never

/-- **A period is over once as many ticks have passed as make up its length.** -/
theorem Timely.paced (ht : Timely h clock) {grace patience tick : ℚ} (positive : 0 < tick) {n : Nat}
    (hg : grace ≤ n * tick) (hk : patience ≤ n * tick) :
    Paced h ⟨grace, patience, tick⟩ n (Due clock tick) where
  start {time deadline t s} hm ho hl := by
    cases hl
    have long : time ≤ n * tick := by
      rcases List.mem_pair.1 hm with rfl | rfl
      · exact hg
      · exact hk
    have late := (ht.shown ho).2
    unfold Due
    linarith
  waitAll {deadline n ps left s} hd ho some := by
    have passed : clock s + tick ≤ clock (h.waitAll ps tick s).2 := ht.waitAll ho some
    unfold Due at hd ⊢
    cases n with
    | zero =>
      rw [Nat.cast_zero, zero_mul] at hd
      rw [Nat.zero_sub, Nat.cast_zero, zero_mul]
      linarith
    | succ n =>
      have split : ((n + 1 : Nat) : ℚ) * tick = n * tick + tick := by push_cast; ring
      rw [Nat.add_sub_cancel]
      linarith
  status {deadline n pid s} hd := hd.trans (add_le_add_left (ht.status pid s) _)
  now {deadline n s} hd := hd.trans (add_le_add_left (ht.now s) _)
  reached {deadline t s} hd ho := by
    have early := (ht.shown ho).1
    unfold Due at hd
    simp only [Nat.cast_zero, zero_mul] at hd
    linarith

variable [Log.Logbook σ]

/-- A stop with polls for both of its periods comes to an end. -/
theorem stop_ends_staged (hr : Responsive p h) (ht : Timely h clock) (positive : 0 < plan.tick)
    {m n : Nat} (hm : 0 < m) (hn : 0 < n) (first : plan.grace ≤ m * plan.tick)
    (last : plan.patience ≤ n * plan.tick) (c : Handle) (s : σ) :
    ∃ o y, o ≠ .unfinished ∧ Staged plan m n y.1 ∧ ∀ polls, m ≤ polls → n ≤ polls →
      stop h.minuted plan polls c ([], s) = (o, y) ∧ stop h plan polls c s = (o, y.2) := by
  have punctual := punctual_rational p plan
  -- as many polls as the longer one of the two periods needs
  have long {time : ℚ} {k : Nat} (hk : time ≤ k * plan.tick) (more : k ≤ max m n) :
      time ≤ (max m n : Nat) * plan.tick :=
    hk.trans (mul_le_mul_of_nonneg_right (Nat.cast_le.2 more) positive.le)
  have paced : Paced h plan (max m n) (Due clock plan.tick) :=
    ht.paced positive (long first (Nat.le_max_left m n)) (long last (Nat.le_max_right m n))
  have ends := stop_concludes hr.minuted paced.minuted
    (Nat.lt_of_lt_of_le hm (Nat.le_max_left m n)) punctual c
  have ended := ends ([], s)
  obtain ⟨w, added, staged⟩ := stop_adds hr punctual hm hn (ht.paced positive first first)
    (ht.paced positive last last) (max m n) c ([], s)
  revert ended added
  rcases run : stop h.minuted plan (max m n) c ([], s) with ⟨o, y⟩
  intro ended added
  obtain rfl : y.1 = w := added
  refine ⟨o, y, fun halted => ?_, staged, fun polls more more' => ?_⟩
  · rw [halted] at ended
    cases ended
  · have same : stop h.minuted plan polls c ([], s) = (o, y) := by
      rw [(stop_extendedBy h.minuted plan (Nat.max_le.2 ⟨more, more'⟩) c).eq ends, run]
    have plain := stop_agrees (minuted_mirrors h) plan polls c ([], s) s rfl
    rw [same] at plain
    exact ⟨same, Prod.ext plain.1.symm plain.2.symm⟩

/-- **A stop comes to an end, and how often it has polled until then.** Whatever the processes do, it
    ends with an answer or with a fault. Each of its two periods has no more polls than there are ticks
    in it, and one if there are none, it polls only while somebody is left to wait for, and it is left
    out where nobody is. More polls would not change anything. -/
theorem stop_in_time (hr : Responsive p h) (ht : Timely h clock) (positive : 0 < plan.tick)
    (c : Handle) (s : σ) :
    ∃ o y, o ≠ .unfinished ∧
      Staged plan (mostPolls plan.tick plan.grace) (mostPolls plan.tick plan.patience) y.1 ∧
      ∀ polls, mostPolls plan.tick plan.grace ≤ polls → mostPolls plan.tick plan.patience ≤ polls →
        stop h.minuted plan polls c ([], s) = (o, y) ∧ stop h plan polls c s = (o, y.2) :=
  stop_ends_staged hr ht positive (mostPolls_pos _ _) (mostPolls_pos _ _)
    (le_mostPolls_mul positive _) (le_mostPolls_mul positive _) c s

end Rational

/-! ## 6. A process that is deaf to signals -/

/-- The time while a process that is deaf to signals runs, and one below it that is a zombie after a
    tenth of a second. -/
structure Vigil where
  time : ℚ

namespace Vigil

/-- Nobody reads the log of a vigil. -/
instance : Log.Logbook Vigil := ⟨fun _ s => s⟩

def host : Host ℚ Vigil where
  spawn _ := .exhausted
  find _ := pure ()
  terminate _ := pure ()
  kill _ := pure ()
  descendants _ := pure [60]
  status p := .read fun s => if p = 60 ∧ 1 / 10 ≤ s.time then .zombie else .running
  waitAll ps time := fun s => (.done ps, ⟨s.time + time⟩)
  now := .read time
  reap _ _ := pure none
  poll _ := pure none
  pipe _ _ := pure none
  closePipe _ _ := pure ()
  inBackground _ act := act

theorem host_responsive : Responsive (fun _ => False) host where
  find _ := .pure _
  poll _ := .pure _
  descendants _ := .pure _
  terminate _ := .pure _
  kill _ := .pure _
  waitAll ps _ := fun _ => .done ps
  status _ := .read _
  now := .read _
  reap _ _ := .pure _

theorem host_timely : Timely host time where
  shown answer := by
    cases answer
    exact ⟨le_rfl, le_rfl⟩
  now _ := le_rfl
  status _ _ := le_rfl
  waitAll _ _ := le_rfl

end Vigil

/-- Who is left at the end of a stop. -/
def survivor : Outcome Unit → Option Pid
  | .raised (.survived pid) => some pid
  | _ => none

/-- A quarter of a second to end, a twentieth of one after that, and a tenth for each poll. -/
def lenient : StopPlan ℚ := ⟨1 / 4, 1 / 20, 1 / 10⟩

theorem mostPolls_lenient : mostPolls lenient.tick lenient.grace = 3 ∧
    mostPolls lenient.tick lenient.patience = 1 := by
  have three : ⌈(1 / 4 : ℚ) / (1 / 10)⌉₊ = 3 := by
    rw [Nat.ceil_eq_iff (by decide)]
    norm_num
  have one : ⌈(1 / 20 : ℚ) / (1 / 10)⌉₊ = 1 := by
    rw [Nat.ceil_eq_iff (by decide)]
    norm_num
  exact ⟨congrArg (max 1) three, congrArg (max 1) one⟩

/-- Three polls while it is asked to end, one after it was killed, and it runs on. -/
theorem stop_in_time_deaf : ∃ w s, Staged lenient 3 1 w ∧ waits w = 4 ∧ ∀ polls, 3 ≤ polls →
    stop Vigil.host lenient polls server ⟨0⟩ = (.raised (.survived 50), s) := by
  have run : survivor (stop Vigil.host.minuted lenient 3 server ([], ⟨0⟩)).1 = some 50 ∧
      waits (stop Vigil.host.minuted lenient 3 server ([], ⟨0⟩)).2.1 = 4 := by
    decide +kernel
  have positive : 0 < lenient.tick := by norm_num [lenient]
  obtain ⟨o, y, -, staged, settled⟩ :=
    stop_in_time Vigil.host_responsive Vigil.host_timely positive server ⟨0⟩
  rw [mostPolls_lenient.1, mostPolls_lenient.2] at staged settled
  have same := (settled 3 (by decide) (by decide)).1
  rw [same] at run
  obtain ⟨deaf, four⟩ := run
  have raised : o = .raised (.survived 50) := by
    unfold survivor at deaf
    split at deaf
    · next pid ended =>
      cases deaf
      exact ended
    · cases deaf
  refine ⟨y.1, y.2, staged, four, fun polls more => ?_⟩
  rw [← raised]
  exact (settled polls more (by omega)).2

end Child

end Respawn
