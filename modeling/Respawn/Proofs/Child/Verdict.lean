import Respawn.Proofs.Child.Crowd
import Respawn.Proofs.Child.Escalation

/-!
# What a stop can be relied on for

A stop asks and kills whom it should and its verdict is right about everybody whom it looked at. It
does not look any more once a wait has ended with the news that one of the processes is missing: the
others then pass for gone. And it ends at the first call that is refused.

* `stop_escalates`: who is asked, who is killed, and what the verdict says;
* `stop_refused`: what is left undone once a call has been refused.
-/

namespace Respawn.Child

open Respawn.Action (Ends)

variable {T σ : Type} [Log.Logbook σ] [LE T] [DecidableLE T] [Deferrable T] [LT T] [DecidableLT T]
  [Zero T] {h : Host T σ} {plan : StopPlan T}

/-! ## 1. The verdict -/

/-- **Who is asked, who is killed, and what the verdict says.** The stop comes to an end if the clock
    does not stand still. -/
theorem stop_escalates (hr : Responsive (fun _ => False) h) (hd : Distinct h)
    (hp : Punctual (fun _ => False) plan) (polls : Nat) (c : Handle) (s : σ) :
    Ends (stop h.minuted plan polls c) ([], s) fun o y =>
      stop h plan polls c s = (o, y.2) ∧
      (∀ due, Paced h plan polls due → 0 < polls → o ≠ .unfinished) ∧
      ((o = .unfinished ∧ polls ≤ waits y.1) ∨
        ∃ tree before after code, (treeOf h c (announce c s).2).1 = .done tree ∧
          y.1 = before ++ after ++ [.reap c.pid plan.patience (.done code)] ∧
          Escalates (0 < plan.grace) tree before after ∧ Judged c tree before after code o) := by
  refine (stop_ended hr hd hp polls c s).mono fun o y ended => ?_
  obtain ⟨run, tree, listed, ended⟩ := ended
  refine ⟨run, fun due paced some halted => ?_, ?_⟩
  · have concluded := stop_concludes hr paced some hp c s
    rw [run, halted] at concluded
    cases concluded
  · revert ended
    generalize y.1 = w
    intro ended
    cases ended with
    | judged orderly signals verdict =>
      exact .inr ⟨tree, _, _, _, listed, rfl, signals, verdict⟩
    | broke orderly stage fault never => exact never.elim
    | ranOut orderly hn => exact .inl ⟨rfl, hn⟩

section Overlooking

/-- A program whose process was found when it was launched. -/
def server : Handle := ⟨50, true, ["server"], "server"⟩

/-- Whoever is to be stopped is killed at once. -/
def hasty : StopPlan Seconds := ⟨.whole 0, .whole 2, .whole 1⟩

/-- Below the child there is a process that is deaf to signals, and the first wait tells that the
    child is missing. -/
def telling : Crowd := ⟨[50, 60], [60], [60], true, 0, by decide⟩

theorem punctual_hasty (p : Fault → Prop) : Punctual p hasty := by
  intro time ht now f late
  simp only [hasty, List.mem_cons, List.not_mem_nil, or_false] at ht
  rcases ht with rfl | rfl
  · exact absurd late (later_whole (i := 0) (r := .ofInt 0) rfl now f)
  · exact absurd late (later_whole (i := 2) (r := .ofInt 2) rfl now f)

theorem paced_hasty (barred : List Pid) : Paced (Crowd.host barred) hasty 2 Crowd.Due :=
  Crowd.host_paced barred _ (by decide) (by decide)

/-- The stop succeeds, and a process that it has listed runs on. -/
theorem stop_escalates_overlooking :
    let run := stop (Crowd.host []).minuted hasty 2 server ([], telling)
    run.1 = .done () ∧ 60 ∈ run.2.2.running ∧ ∃ tree before after code, 60 ∈ tree ∧
      run.2.1 = before ++ after ++ [.reap 50 (.whole 2) (.done code)] ∧
      Escalates (0 < hasty.grace) tree before after ∧
      Judged server tree before after code run.1 := by
  intro run
  have responsive : Responsive (fun _ => False) (Crowd.host []) :=
    (Crowd.host_responsive []).mono fun f hf => by
      obtain ⟨n, never, -⟩ := hf
      cases never
  have all : (treeOf (Crowd.host []) server (announce server telling).2).1 = .done [50, 60] := by
    with_unfolding_all rfl
  obtain ⟨-, ends, ⟨halted, -⟩ | ⟨tree, before, after, code, listed, minutes, signals, verdict⟩⟩ :=
    stop_escalates responsive (Crowd.host_distinct []) (punctual_hasty _) 2 server telling
  · exact absurd halted (ends Crowd.Due (paced_hasty []) (by decide))
  · have here : [50, 60] = tree := Outcome.done.inj (all.symm.trans listed)
    refine ⟨by with_unfolding_all rfl, by with_unfolding_all decide, tree, before, after, code, ?_,
      minutes, signals, verdict⟩
    rw [← here]
    decide

end Overlooking

/-! ## 2. Refusals -/

/-- The call was refused. -/
def Exchange.Refused (e : Exchange T) : Prop := ∃ n, e.fault = some (.accessDenied n)

/-- Everybody of the tree was killed who had not been dropped before, the child was to be reaped, and
    the stop has succeeded or tells of a survivor. -/
def Thorough (plan : StopPlan T) (c : Handle) (tree : List Pid) (o : Outcome Unit)
    (w : List (Exchange T)) : Prop :=
  ∃ before after code, w = before ++ after ++ [.reap c.pid plan.patience (.done code)] ∧
    killed before = [] ∧ (∀ pid ∈ tree, pid ∈ killed after ∨ Dropped pid before) ∧
    (o = .done () ∨ ∃ pid, o = .raised (.survived pid))

omit [LE T] [DecidableLE T] [Deferrable T] [LT T] [DecidableLT T] [Zero T] in
theorem Orderly.unrefused {K : Stage → Prop} {w : List (Exchange T)} (h : Orderly K w) :
    ∀ e ∈ w, ¬ e.Refused := by
  intro e he refused
  obtain ⟨n, fault⟩ := refused
  obtain ⟨pid, same⟩ := (h e he).1 _ fault
  cases same

omit [LE T] [DecidableLE T] [Deferrable T] [DecidableLT T] in
/-- A stop that has come to its verdict has done all it should. -/
theorem Escalates.thorough {c : Handle} {tree : List Pid} {before after : List (Exchange T)}
    {code : Option Int} {o : Outcome Unit} (signals : Escalates (0 < plan.grace) tree before after)
    (verdict : Judged c tree before after code o) :
    Thorough plan c tree o (before ++ after ++ [.reap c.pid plan.patience (.done code)]) := by
  refine ⟨before, after, code, rfl, signals.noneKilled, fun pid hm => ?_, ?_⟩
  · by_cases dropped : Dropped pid before
    · exact .inr dropped
    · exact .inl ((signals.exactly pid).2 ⟨hm, dropped⟩)
  · by_cases success : o = .done ()
    · exact .inl success
    · obtain ⟨pid, survivor, -⟩ := verdict.raises success
      exact .inr ⟨pid, survivor⟩

/-- The fault of a call that is refused. -/
abbrev Refusal (f : Fault) : Prop := ∃ n, f = .accessDenied n

namespace Ended

variable {c : Handle} {tree : List Pid} {polls : Nat} {o : Outcome Unit} {w : List (Exchange T)}

omit [Log.Logbook σ] [LE T] [DecidableLE T] [Deferrable T] [DecidableLT T] in
theorem polls_le {p : Fault → Prop} (he : Ended p plan polls c tree o w) (halted : o = .unfinished) :
    polls ≤ waits w := by
  cases he with
  | judged orderly signals verdict =>
    obtain ⟨-, -, -, -, -, -, success | ⟨pid, survivor⟩⟩ := signals.thorough verdict
    · cases halted.symm.trans success
    · cases halted.symm.trans survivor
  | broke orderly stage fault hf => cases halted
  | ranOut orderly hn => exact hn

omit [Log.Logbook σ] [LE T] [DecidableLE T] [Deferrable T] [DecidableLT T] in
/-- Only the last call can have been refused, and then it has ended the stop. -/
theorem refused (he : Ended Refusal plan polls c tree o w) {e : Exchange T} (hm : e ∈ w)
    (he' : e.Refused) : ∃ v n, w = v ++ [e] ∧ e.fault = some (.accessDenied n) ∧
      o = .raised (.accessDenied n) ∧ ∀ d ∈ w, d.stage ≠ .reaping := by
  cases he with
  | judged orderly signals verdict =>
    rcases List.mem_append.1 hm with before | last
    · exact absurd he' (orderly.unrefused e before)
    · rw [List.mem_singleton.1 last] at he'
      obtain ⟨n, never⟩ := he'
      cases never
  | broke orderly stage fault hf =>
    next v d =>
    obtain ⟨n, rfl⟩ := hf
    rcases List.mem_append.1 hm with before | last
    · exact absurd he' (orderly.unrefused e before)
    · obtain rfl : e = d := List.mem_singleton.1 last
      refine ⟨v, n, rfl, fault, rfl, fun d' hd' => ?_⟩
      rcases List.mem_append.1 hd' with before | last
      · exact (orderly d' before).2
      · rwa [List.mem_singleton.1 last]
  | ranOut orderly hn => exact absurd he' (orderly.unrefused e hm)

omit [Log.Logbook σ] [LE T] [DecidableLE T] [Deferrable T] [DecidableLT T] in
theorem unrefused_iff (he : Ended Refusal plan polls c tree o w) (halts : o ≠ .unfinished) :
    (∀ e ∈ w, ¬ e.Refused) ↔ Thorough plan c tree o w := by
  cases he with
  | judged orderly signals verdict =>
    refine ⟨fun _ => signals.thorough verdict, fun _ e hm => ?_⟩
    rcases List.mem_append.1 hm with before | last
    · exact orderly.unrefused e before
    · rw [List.mem_singleton.1 last]
      exact fun ⟨n, never⟩ => nomatch never
  | broke orderly stage fault hf =>
    next v e =>
    obtain ⟨n, rfl⟩ := hf
    refine ⟨fun nobody => ?_, fun all => ?_⟩
    · exact absurd ⟨n, fault⟩ (nobody e (List.mem_append_right v List.mem_cons_self))
    · obtain ⟨-, -, -, -, -, -, never | ⟨pid, never⟩⟩ := all <;> cases never
  | ranOut orderly hn => exact absurd rfl halts

end Ended

/-- **A stop does all it should if and only if no call is refused.** It ends at the first call that is:
    nobody is signalled after that, and the child is not reaped. -/
theorem stop_refused (hr : Responsive (fun f => ∃ n, f = .accessDenied n) h) (hd : Distinct h)
    (hp : Punctual (fun _ => False) plan) (polls : Nat) (c : Handle) (s : σ) :
    Ends (stop h.minuted plan polls c) ([], s) fun o y =>
      stop h plan polls c s = (o, y.2) ∧
      (∀ due, Paced h plan polls due → 0 < polls → o ≠ .unfinished) ∧
      (o = .unfinished → polls ≤ waits y.1) ∧
      ∃ tree, (treeOf h c (announce c s).2).1 = .done tree ∧
        (o ≠ .unfinished → ((∀ e ∈ y.1, ¬ e.Refused) ↔ Thorough plan c tree o y.1)) ∧
        ∀ e ∈ y.1, e.Refused → ∃ w n, y.1 = w ++ [e] ∧ e.fault = some (.accessDenied n) ∧
          o = .raised (.accessDenied n) ∧ ∀ d ∈ y.1, d.stage ≠ .reaping := by
  refine (stop_ended hr hd hp polls c s).mono fun o y ended => ?_
  obtain ⟨run, tree, listed, ended⟩ := ended
  refine ⟨run, fun due paced many halted => ?_, ended.polls_le, tree, listed, ended.unrefused_iff,
    fun e hm refusal => ended.refused hm refusal⟩
  have concluded := stop_concludes hr paced many
    (fun time ht now f hl => (hp time ht now f hl).elim) c s
  rw [run, halted] at concluded
  cases concluded

section Barred

/-- A child with two processes below it. -/
def siblings : Crowd := ⟨[50, 60, 61], [60, 61], [], false, 0, by decide⟩

/-- The first process below the child may not be killed, and the second one is not killed either. -/
theorem stop_refused_sibling :
    let run := stop (Crowd.host [60]).minuted hasty 2 server ([], siblings)
    run.1 = .raised (.accessDenied 60) ∧ killed run.2.1 = [50, 60] ∧ 61 ∈ run.2.2.running ∧
      ¬ Thorough hasty server [50, 60, 61] run.1 run.2.1 ∧ ∀ d ∈ run.2.1, d.stage ≠ .reaping := by
  intro run
  have responsive : Responsive (fun f => ∃ n, f = .accessDenied n) (Crowd.host [60]) :=
    (Crowd.host_responsive [60]).mono fun f hf => by
      obtain ⟨n, -, refusal⟩ := hf
      exact ⟨n, refusal⟩
  have all : (treeOf (Crowd.host [60]) server (announce server siblings).2).1 =
      .done [50, 60, 61] := by with_unfolding_all rfl
  have ended : run.1 = .raised (.accessDenied 60) := by with_unfolding_all rfl
  have last : Exchange.kill 60 (.raised (.accessDenied 60)) ∈ run.2.1 := by
    have minutes : run.2.1 = [.descendants 50 (.done [60, 61]), .kill 50 (.done ()),
        .kill 60 (.raised (.accessDenied 60))] := by with_unfolding_all rfl
    rw [minutes]
    exact .tail _ (.tail _ (.head _))
  have refused : Exchange.Refused (.kill 60 (.raised (.accessDenied 60)) : Exchange Seconds) :=
    ⟨60, rfl⟩
  obtain ⟨-, -, -, tree, listed, whole, rest⟩ := stop_refused responsive
    (Crowd.host_distinct [60]) (punctual_hasty _) 2 server siblings
  obtain rfl : [50, 60, 61] = tree := Outcome.done.inj (all.symm.trans listed)
  obtain ⟨w, n, -, -, -, unreaped⟩ := rest _ last refused
  refine ⟨ended, by with_unfolding_all rfl, by with_unfolding_all decide, fun thorough => ?_, unreaped⟩
  have finished : run.1 ≠ .unfinished := fun halted => by cases ended.symm.trans halted
  exact (whole finished).2 thorough _ last refused

end Barred

end Respawn.Child
