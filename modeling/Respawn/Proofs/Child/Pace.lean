import Respawn.Proofs.Child.Minutes
import Respawn.Proofs.Child.Stop

/-!
# Stops come to an end

A wait that leaves somebody takes its time. So the clock shows the deadline of a period after so many
waits, and the period is over then, whoever is still alive.

* `Paced`: after how many waits a deadline has passed;
* `pollUntil_conclusive`: a period comes to its end;
* `stop_concludes`: so does a stop.
-/

namespace Respawn.Child

open Respawn.Action (Concludes Conclusive Ends)

variable {T σ α : Type} [Log.Logbook σ] [LE T] [DecidableLE T] [Deferrable T]

/-- `due` tells of a deadline that the clock shows it after so many more waits that leave somebody. It
    does so from the beginning of each of the two periods of a stop, for as many waits as there are
    polls. -/
structure Paced (h : Host T σ) (plan : StopPlan T) (polls : Nat) (due : T → Nat → σ → Prop) :
    Prop where
  start {time deadline t s} : time ∈ [plan.grace, plan.patience] → (h.now s).1 = .done t →
    Deferrable.later t time = .ok deadline → due deadline polls (h.now s).2
  waitAll {deadline n ps left s} : due deadline n s → (h.waitAll ps plan.tick s).1 = .done left →
    left ≠ [] → due deadline (n - 1) (h.waitAll ps plan.tick s).2
  status {deadline n pid s} : due deadline n s → due deadline n (h.status pid s).2
  now {deadline n s} : due deadline n s → due deadline n (h.now s).2
  reached {deadline t s} : due deadline 0 s → (h.now s).1 = .done t → deadline ≤ t

section Calls

variable {h : Host T σ} {p : Fault → Prop} {plan : StopPlan T} {polls : Nat}
  {due : T → Nat → σ → Prop}

omit [Log.Logbook σ] [LE T] [DecidableLE T] [Deferrable T] in
theorem unlessGone_concludes {x otherwise : Action σ α} (hx : Concludes (goneOr p) x)
    (ho : Concludes p otherwise) : Concludes p (unlessGone x otherwise) := by
  refine hx.recover (fun f _ y hy => ?_) fun f hf hn => ?_
  · split at hy
    · cases hy
      exact ho
    · cases hy
  · rcases hf with ⟨pid, rfl⟩ | hf
    · cases hn
    · exact hf

/-! ## 1. One period -/

omit [Log.Logbook σ] [DecidableLE T] in
theorem select_ends_due (hr : Responsive p h) (hc : Paced h plan polls due) {deadline : T} {n : Nat}
    (ps : List Pid) {s : σ} (hs : due deadline n s) : Ends (Action.select (lives h) ps) s
      fun o t => Conclusive p o ∧ due deadline n t := by
  have looked (pid : Pid) {s : σ} (hs : due deadline n s) :
      Ends (lives h pid) s fun o t => Conclusive p o ∧ due deadline n t := by
    refine ⟨unlessGone_concludes ((hr.status pid).bind fun _ => .pure _) (.pure _) s, ?_⟩
    have asked : Ends (do pure ((← h.status pid) ≠ .zombie) : Action σ Bool) s
        fun _ t => due deadline n t := Ends.seq (hc.status hs) (fun _ => id) fun _ _ ht => ht
    exact unlessGone_ends (Q := fun _ t => due deadline n t) asked (fun _ _ => id) (fun _ _ => id)
      (fun _ _ => id) fun _ => id
  induction ps generalizing s with
  | nil => exact ⟨.done [], hs⟩
  | cons pid ps ih =>
    refine (looked pid hs).bind (fun keep t ht => ?_) (fun f t ht => ⟨ht.1.passed_on, ht.2⟩)
      fun t ht => nomatch ht.1
    exact (ih ht.2).bind (fun rest u hu => ⟨.done _, hu.2⟩)
      (fun f u hu => ⟨hu.1.passed_on, hu.2⟩) fun u hu => nomatch hu.1

/-- A wait that leaves somebody has taken its time. -/
def Delayed (due : T → Nat → σ → Prop) (deadline : T) (n : Nat) (o : Outcome (Option (List Pid)))
    (t : σ) : Prop := ∀ left, o = .done (some left) → left ≠ [] → due deadline (n - 1) t

omit [Log.Logbook σ] [DecidableLE T] in
theorem wait_ends_due (hr : Responsive p h) (hc : Paced h plan polls due) {deadline : T} {n : Nat}
    (ps : List Pid) {s : σ} (hs : due deadline n s) :
    Ends (unlessGone (do pure (some (← h.waitAll ps plan.tick))) (pure none)) s
      fun o t => Conclusive p o ∧ Delayed due deadline n o t := by
  refine ⟨unlessGone_concludes (((hr.waitAll _ _).mono fun _ => .inl).bind fun _ => .pure _)
    (.pure none) s, ?_⟩
  have waited : Ends (h.waitAll ps plan.tick) s fun o t =>
      ∀ left, o = .done left → left ≠ [] → due deadline (n - 1) t :=
    fun left ho hne => hc.waitAll hs ho hne
  have asked : Ends (do pure (some (← h.waitAll ps plan.tick)) : Action σ (Option (List Pid))) s
      (Delayed due deadline n) := by
    refine waited.bind (fun left t ht left' hl => ?_) (fun f t _ => nofun) fun t _ => nofun
    cases hl
    exact ht left rfl
  exact unlessGone_ends asked (fun _ _ => id) (fun _ _ _ => nofun) (fun _ _ _ => nofun)
    fun _ _ => nofun

omit [Log.Logbook σ] in
/-- **A period comes to its end** with the last of its waits. -/
theorem pollUntil_conclusive (hr : Responsive p h) (hc : Paced h plan polls due) {deadline : T}
    (fuel : Nat) : ∀ {n ps s}, due deadline n s → n ≤ fuel → 0 < fuel →
      Ends (pollUntil h plan.tick deadline fuel ps) s fun o _ => Conclusive p o := by
  induction fuel with
  | zero => exact fun _ _ never => absurd never (Nat.lt_irrefl 0)
  | succ fuel ih =>
    intro n ps s hs hn _
    cases ps with
    | nil => exact .done []
    | cons pid ps =>
      refine (wait_ends_due hr hc (pid :: ps) hs).bind (fun found t ht => ?_)
        (fun f t ht => ht.1.passed_on) fun t ht => nomatch ht.1
      cases found with
      | none => exact .done []
      | some left =>
        by_cases nobody : left = []
        · rw [nobody]
          show Ends (h.now >>= fun now =>
            if deadline ≤ now then pure [] else pollUntil h plan.tick deadline fuel []) t
            fun o _ => Conclusive p o
          refine Concludes.bind (hr.now.mono fun _ never => never.elim) (fun now => ?_) t
          rw [pollUntil_nil, ite_self]
          exact .pure []
        · refine (select_ends_due hr hc left (ht.2 left rfl nobody)).bind (fun left' u hu => ?_)
            (fun f u hu => hu.1.passed_on) fun u hu => nomatch hu.1
          have asked : Ends h.now u fun o v => Conclusive (fun _ => False) o ∧
              due deadline (n - 1) v ∧ (n - 1 = 0 → ∀ t, o = .done t → deadline ≤ t) :=
            ⟨hr.now u, hc.now hu.2, fun last t ho => hc.reached (last ▸ hu.2) ho⟩
          refine asked.bind (fun now v hv => ?_) (fun f v hv => ?_) fun v hv => nomatch hv.1
          · split
            · exact .done left'
            · next early =>
              have more : n - 1 ≠ 0 := fun last => early (hv.2.2 last now rfl)
              exact ih hv.2.1 (by omega) (by omega)
          · cases hv.1 with
            | raised never => exact never.elim

omit [Log.Logbook σ] in
theorem waitFor_concludes (hr : Responsive p h) (hc : Paced h plan polls due) (some : 0 < polls)
    (hp : Punctual p plan) {time : T} (ht : time ∈ [plan.grace, plan.patience]) (ps : List Pid) :
    Concludes p (waitFor h polls plan.tick time ps) := by
  intro s
  have asked : Ends h.now s fun o t => Conclusive (fun _ => False) o ∧ ∀ now deadline,
      o = .done now → Deferrable.later now time = .ok deadline → due deadline polls t :=
    ⟨hr.now s, fun now deadline ho hl => hc.start ht ho hl⟩
  refine asked.bind (fun now t h => ?_) (fun f t h => ?_) (fun t h => nomatch h.1)
    (Q := fun o _ => Conclusive p o)
  · cases hl : Deferrable.later now time with
    | error f => exact .raised (hp time ht now f hl)
    | ok deadline =>
      exact Ends.of_ok (pollUntil_conclusive hr hc polls (h.2 now deadline rfl hl) (Nat.le_refl _) some)
  · cases h.1 with
    | raised never => exact never.elim

/-! ## 2. The stop -/

omit [LE T] [DecidableLE T] [Deferrable T] in
theorem treeOf_concludes (hr : Responsive p h) (c : Handle) : Concludes p (treeOf h c) := by
  have root : Concludes p (rootOf h c) := by
    unfold rootOf
    split
    · exact .pure _
    · refine .bind (((hr.poll c.pid).mono fun _ never => never.elim).bind fun _ => .pure _)
        fun running => ?_
      split
      · exact unlessGone_concludes (((hr.find c.pid).mono fun _ => .inl).bind fun _ => .pure _)
          (.pure _)
      · exact .pure _
  refine root.bind fun root => ?_
  cases root with
  | none => exact .pure _
  | some root =>
    refine .bind (unlessGone_concludes ((hr.descendants root).mono fun _ => .inl) ?_) fun _ => .pure _
    exact .bind (.modify _) fun _ => .pure _

theorem signals_concludes {signal : Pid → Action σ Unit}
    (ends : ∀ pid, Concludes (goneOr p) (signal pid)) (message : Pid → String) (ps : List Pid) :
    Concludes p (Action.each (fun pid => unlessGone (do
      stopLog .debug (message pid)
      signal pid) (pure ())) ps) :=
  .each (fun pid => unlessGone_concludes (.bind (.modify _) fun _ => ends pid) (.pure ())) ps

variable [LT T] [DecidableLT T] [Zero T]

/-- **A stop comes to an end**: with an answer, with a survivor, or with a fault that nobody takes. -/
theorem stop_concludes (hr : Responsive p h) (hc : Paced h plan polls due) (some : 0 < polls)
    (hp : Punctual p plan) (c : Handle) : Concludes (survivedOr p) (stop h plan polls c) := by
  have waits {time : T} (ht : time ∈ [plan.grace, plan.patience]) (ps : List Pid) :
      Concludes p (waitFor h polls plan.tick time ps) := waitFor_concludes hr hc some hp ht ps
  have asked (tree : List Pid) : Concludes p (askToEnd h plan polls tree) := by
    unfold askToEnd
    split
    · refine (signals_concludes hr.terminate _ tree).bind fun _ =>
        (waits List.mem_cons_self tree).bind fun left => ?_
      split
      · exact .pure left
      · exact .bind (.modify _) fun _ => .pure left
    · exact .pure tree
  refine .bind (.modify _) fun _ => ((treeOf_concludes hr c).mono fun _ => .inr).bind fun tree => ?_
  refine ((asked tree).mono fun _ => .inr).bind fun left => ?_
  refine ((signals_concludes hr.kill _ left).mono fun _ => .inr).bind fun _ => ?_
  refine ((waits (List.mem_cons_of_mem _ List.mem_cons_self) left).mono fun _ => .inr).bind
    fun left => ?_
  refine ((hr.reap c.pid plan.patience).mono fun _ never => never.elim).bind fun code => ?_
  cases code with
  | none => exact .raise (.inl ⟨_, rfl⟩)
  | some code =>
    cases left with
    | nil => exact .modify _
    | cons pid left => exact .raise (.inl ⟨_, rfl⟩)

end Calls

end Respawn.Child
