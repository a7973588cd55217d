import Respawn.Proofs.Child.Waiting

/-!
# Asking, killing and the verdict

With a grace period the whole tree is asked to end, and those are killed who have not been dropped
when it is over. The verdict of a stop is about those who have not been dropped after that, and about
the child that was to be reaped.

* `askToEnd_went`: who is left to be killed;
* `subdue_went`: who was asked, who was killed, and who is left after that;
* `stop_ended`: how a stop ends, whatever the calls answer.
-/

namespace Respawn.Child

open Respawn.Action (Concludes Ends)

variable {T σ : Type}

section Stop

variable [Log.Logbook σ] {h : Host T σ} {p : Fault → Prop} {n : Nat}

/-! ## 1. The tree and the signals -/

omit [Log.Logbook σ] in
theorem rootOf_went (hr : Responsive p h) (c : Handle) :
    Adds (Went (· = .listing) n (fun _ _ => True) fun _ _ => False) (rootOf h.minuted c) := by
  unfold rootOf
  split
  · exact .went_pure trivial
  · have running : Adds (Went (· = .listing) n (fun _ _ => True) fun _ _ => False)
        (c.isRunning h.minuted) := by
      have call := minuting_went (K := (· = .listing)) (n := n) (hr.poll c.pid)
        (e := (Exchange.poll c.pid : _ → Exchange T)) (fun _ => rfl) fun _ => rfl
      exact (call.went_map fun _ _ _ => trivial).mono fun o w hw =>
        hw.mono (fun _ => id) (Nat.le_refl n) (fun _ _ => id) fun _ never => never.2
    refine running.went_bind fun b w _ _ => ?_
    cases b with
    | false => exact .went_pure trivial
    | true =>
      have call := minuting_went (K := (· = .listing)) (n := n - waits w) (hr.find c.pid)
        (e := (Exchange.find c.pid : _ → Exchange T)) (fun _ => rfl) fun _ => rfl
      have asked := call.went_map (g := fun _ => some c.pid) (E := fun _ _ => True)
        fun _ _ _ => trivial
      exact asked.went_unlessGone (.pure ⟨rfl, rfl⟩) (fun _ _ _ => trivial)
        fun f _ hf hn => hn hf.2

/-- Every process of the tree is listed once. -/
theorem treeOf_went (hr : Responsive p h) (hd : Distinct h) (c : Handle) :
    Adds (Went (· = .listing) n (fun tree _ => tree.Nodup) fun _ _ => False)
      (treeOf h.minuted c) := by
  refine (rootOf_went hr c).went_bind fun root w _ _ => ?_
  cases root with
  | none => exact .went_pure List.nodup_nil
  | some root =>
    have call := minuting_went (K := (· = .listing)) (n := n - waits w) (hr.descendants root)
      (e := (Exchange.descendants root : _ → Exchange T)) (fun _ => rfl) fun _ => rfl
    have nobody : Adds (σ := σ)
        (fun (o : Outcome (List Pid)) (w : List (Exchange T)) => o = .done [] ∧ w = []) (do
        stopLog .debug s!"Process {c.pid} no longer exists, skipping children retrieval."
        pure []) := .of_log (k := fun _ => pure []) (.pure ⟨rfl, rfl⟩) _ _ _
    have below : Adds (Went (· = .listing) (n - waits w) (fun below _ => (root :: below).Nodup)
        fun _ _ => False) (unlessGone (h.minuted.descendants root) (do
          stopLog .debug s!"Process {c.pid} no longer exists, skipping children retrieval."
          pure [])) := by
      refine Adds.went_unlessGone (call.mono fun o w hw => hw.mono (fun _ => id) (Nat.le_refl _) ?_
        fun _ => id) nobody (fun _ _ _ => List.pairwise_singleton _ root) fun f _ hf hn => hn hf.2
      intro below _ answer
      obtain ⟨-, s, answer⟩ := answer
      exact hd.descendants answer
    exact below.went_map fun _ _ distinct => distinct

/-- A signal goes to every process. -/
theorem signals_went {signal : Pid → Action σ Unit} {e : Pid → Outcome Unit → Exchange T}
    {told : Exchange T → Option Pid} {g : Stage} (ends : ∀ pid, Concludes (goneOr p) (signal pid))
    (fault : ∀ pid o, (e pid o).fault = faultOf o) (stage : ∀ pid o, (e pid o).stage = g)
    (target : ∀ pid o, told (e pid o) = some pid) (message : Pid → String) (ps : List Pid) :
    Adds (Went (· = g) n (fun _ w => w.filterMap told = ps) fun f _ => p f)
      (Action.each (fun pid => unlessGone (do
        stopLog .debug (message pid)
        minuting (e pid) (signal pid)) (pure ())) ps) := by
  induction ps generalizing n with
  | nil => exact .went_pure rfl
  | cons pid ps ih =>
    have call := minuting_went (K := (· = g)) (n := n) (ends pid) (fault pid) (stage pid)
    have sent : Adds (Went (· = g) n (fun _ w => ∃ o, w = [e pid o]) fun f _ => p f)
        (unlessGone (do
          stopLog .debug (message pid)
          minuting (e pid) (signal pid)) (pure ())) := by
      refine Adds.went_unlessGone (.of_log (call.mono fun o w hw =>
        hw.mono (fun _ => id) (Nat.le_refl n) (fun _ _ hw => ⟨_, hw.1⟩) fun _ => id) _ _ _)
        (.pure ⟨rfl, rfl⟩) (fun _ w hw => ⟨_, hw.1⟩) fun f w hw hn => hw.2.resolve_left hn
    refine sent.went_bind fun _ w _ hw => ih.mono fun o w' hw' =>
      hw'.mono (fun _ => id) (Nat.le_refl _) (fun _ _ rest => ?_) fun _ => id
    obtain ⟨o, rfl⟩ := hw
    rw [List.singleton_append, List.filterMap_cons_some (target pid o), rest]

theorem terminateAll_went (hr : Responsive p h) (ps : List Pid) :
    Adds (Went (· = .asking) n (fun _ w => terminated w = ps) fun f _ => p f)
      (terminateAll h.minuted ps) :=
  signals_went (e := .terminate) hr.terminate (fun _ _ => rfl) (fun _ _ => rfl) (fun _ _ => rfl) _ ps

theorem killAll_went (hr : Responsive p h) (ps : List Pid) :
    Adds (Went (· = .killing) n (fun _ w => killed w = ps) fun f _ => p f)
      (killAll h.minuted ps) :=
  signals_went (e := .kill) hr.kill (fun _ _ => rfl) (fun _ _ => rfl) (fun _ _ => rfl) _ ps

/-! ## 2. Asking and killing -/

variable [LE T] [DecidableLE T] [Deferrable T] [LT T] [DecidableLT T] [Zero T] {plan : StopPlan T}
  {polls : Nat}

/-- **Who is left to be killed are those who have not been dropped.** -/
theorem askToEnd_went (hr : Responsive p h) (hd : Distinct h)
    (hp : Punctual (fun _ => False) plan) {ps : List Pid} (distinct : ps.Nodup) :
    Adds (Went (fun g => g = .asking ∨ g = .waiting) polls (fun left w => Thins ps w left ∧
        (0 < plan.grace → terminated w = ps) ∧ (¬ 0 < plan.grace → w = [] ∧ left = ps)) fun f _ => p f)
      (askToEnd h.minuted plan polls ps) := by
  unfold askToEnd
  by_cases grace : 0 < plan.grace
  · rw [if_pos grace]
    have asked : Adds (Went (fun g => g = .asking ∨ g = .waiting) polls
        (fun _ w => Orderly (· = .asking) w ∧ terminated w = ps) fun f _ => p f)
        (terminateAll h.minuted ps) := (terminateAll_went hr ps).mono fun o w hw =>
      hw.mono (fun _ => .inl) (Nat.le_refl polls) (fun _ => And.intro) fun _ => id
    refine asked.went_bind fun _ w _ hw => ?_
    obtain ⟨asking, all⟩ := hw
    have due : ∀ now f, Deferrable.later now plan.grace ≠ .error f :=
      hp plan.grace List.mem_cons_self
    have waited : Adds (Went (fun g => g = .asking ∨ g = .waiting) (polls - waits w)
        (fun left w' => Thins ps (w ++ w') left ∧ terminated (w ++ w') = ps) fun f _ => p f)
        (waitFor h.minuted polls plan.tick plan.grace ps) := by
      refine (waitFor_went hr hd polls plan.tick due distinct).mono fun o w' hw' =>
        hw'.mono (fun _ => .inr) (Nat.sub_le polls (waits w)) (fun left waiting hl => ⟨?_, ?_⟩)
          fun _ => id
      · exact (Thins.of_orderly distinct asking nofun).trans hl.1
      · rw [terminated_append, all, waiting.terminated_eq nofun, List.append_nil]
    refine waited.went_bind fun left w' _ hw' => ?_
    have result : Thins ps (w ++ (w' ++ [])) left ∧
        (0 < plan.grace → terminated (w ++ (w' ++ [])) = ps) ∧
        (¬ 0 < plan.grace → w ++ (w' ++ []) = [] ∧ left = ps) := by
      rw [List.append_nil]
      exact ⟨hw'.1, fun _ => hw'.2, fun never => absurd grace never⟩
    split
    · exact .went_pure result
    · exact .of_log (k := fun _ => pure left) (.went_pure result) _ _ _
  · rw [if_neg grace]
    exact .went_pure ⟨.refl distinct, fun wanted => absurd wanted grace, fun _ => ⟨rfl, rfl⟩⟩

/-- What a stop does before it reaps the child. -/
def subdue (h : Host T σ) (plan : StopPlan T) (polls : Nat) (tree : List Pid) :
    Action σ (List Pid) := do
  let left ← askToEnd h plan polls tree
  killAll h left
  waitFor h polls plan.tick plan.patience left

/-- The tree is subdued, and then the child is reaped. -/
theorem bringDown_eq (h : Host T σ) (plan : StopPlan T) (polls : Nat) (c : Handle)
    (tree : List Pid) : bringDown h plan polls c tree = (do
      let left ← subdue h plan polls tree
      match ← h.reap c.pid plan.patience, left with
      | none, _ => .raise (.survived c.pid)
      | some _, p :: _ => .raise (.survived p)
      | some _, [] => stopLog .info s!"{capitalized c.name} (PID {c.pid}) stopped.") := by
  have grouped (k : List Pid → Action σ Unit) : subdue h plan polls tree >>= k = (do
      let left ← askToEnd h plan polls tree
      killAll h left
      k (← waitFor h polls plan.tick plan.patience left)) := by
    simp only [subdue, Action.bind_assoc]
  exact (grouped _).symm

/-- Who is asked to end, if anybody is, and who is killed: before the first is killed, and from then
    on. -/
structure Escalates (asks : Prop) (tree : List Pid) (before after : List (Exchange T)) : Prop where
  asked : asks → terminated before = tree
  unasked : ¬ asks → terminated before = []
  noneKilled : killed before = []
  noneAsked : terminated after = []
  exactly : ∀ pid, pid ∈ killed after ↔ pid ∈ tree ∧ ¬ Dropped pid before
  everybody : ¬ asks → killed after = tree

/-- **Nobody of the tree is spared who has not been dropped**, and who is left after that runs. -/
theorem subdue_went (hr : Responsive p h) (hd : Distinct h)
    (hp : Punctual (fun _ => False) plan) {tree : List Pid} (distinct : tree.Nodup) :
    Adds (Went (· ≠ .reaping) polls (fun left w => ∃ before after, w = before ++ after ∧
        Escalates (0 < plan.grace) tree before after ∧ Thins tree w left ∧ Running left after)
        fun f _ => p f) (subdue h.minuted plan polls tree) := by
  have asked : Adds (Went (· ≠ .reaping) polls (fun left w => Thins tree w left ∧ killed w = [] ∧
      (0 < plan.grace → terminated w = tree) ∧ (¬ 0 < plan.grace → w = [] ∧ left = tree))
      fun f _ => p f) (askToEnd h.minuted plan polls tree) := by
    refine (askToEnd_went hr hd hp distinct).mono fun o w hw => hw.mono (fun g hg => ?_)
      (Nat.le_refl polls) (fun left orderly hl => ⟨hl.1, orderly.killed_eq nofun, hl.2⟩) fun _ => id
    rcases hg with rfl | rfl <;> nofun
  refine asked.went_bind fun left w _ hw => ?_
  obtain ⟨thins, noneKilled, told, untold⟩ := hw
  have kills : Adds (Went (· ≠ .reaping) (polls - waits w)
      (fun _ w' => Orderly (· = .killing) w' ∧ killed w' = left) fun f _ => p f)
      (killAll h.minuted left) := (killAll_went hr left).mono fun o w' hw' =>
    hw'.mono (fun g hg => hg ▸ nofun) (Nat.le_refl _) (fun _ => And.intro) fun _ => id
  refine kills.went_bind fun _ w' _ hw' => ?_
  obtain ⟨killing, sent⟩ := hw'
  have due : ∀ now f, Deferrable.later now plan.patience ≠ .error f :=
    hp plan.patience (List.mem_cons_of_mem _ List.mem_cons_self)
  refine (waitFor_went hr hd polls plan.tick due thins.nodup).mono fun o w'' hw'' =>
    hw''.mono (fun g hg => hg ▸ nofun) (by omega) (fun last waiting hl => ?_) fun _ => id
  have spared : Thins left w' left := .of_orderly thins.nodup killing nofun
  have kills : killed (w' ++ w'') = left := by
    rw [killed_append, sent, waiting.killed_eq nofun, List.append_nil]
  refine ⟨w, w' ++ w'', rfl, ?_, thins.trans (spared.trans hl.1), hl.2.append⟩
  refine ⟨told, fun never => ?_, noneKilled, ?_, fun pid => ?_, fun never => ?_⟩
  · rw [(untold never).1]
    rfl
  · rw [terminated_append, killing.terminated_eq nofun, waiting.terminated_eq nofun]
    rfl
  · rw [kills]
    constructor
    · intro hm
      exact ⟨thins.subset hm, (thins.kept pid (thins.subset hm)).1 hm⟩
    · intro hm
      exact (thins.kept pid hm.1).2 hm.2
  · rw [kills, (untold never).2]

/-! ## 3. The verdict -/

/-- What a stop comes to, from the answer of the child that was to be reaped. -/
structure Judged (c : Handle) (tree : List Pid) (before after : List (Exchange T))
    (code : Option Int) (o : Outcome Unit) : Prop where
  returns : o = .done () ↔ code ≠ none ∧ ∀ pid ∈ tree, Dropped pid (before ++ after)
  raises : o ≠ .done () → ∃ pid, o = .raised (.survived pid) ∧ (code = none → pid = c.pid) ∧
    (code ≠ none → pid ∈ tree ∧ ¬ Dropped pid (before ++ after) ∧
      .status pid (.done .running) ∈ after)

/-- How a stop of a tree ends: with a verdict, once the child was to be reaped, by a fault of a call
    before that, or not at all. -/
inductive Ended (p : Fault → Prop) (plan : StopPlan T) (polls : Nat) (c : Handle) (tree : List Pid) :
    Outcome Unit → List (Exchange T) → Prop
  | judged {before after code o} (orderly : Orderly (· ≠ .reaping) (before ++ after))
      (signals : Escalates (0 < plan.grace) tree before after)
      (verdict : Judged c tree before after code o) :
    Ended p plan polls c tree o (before ++ after ++ [.reap c.pid plan.patience (.done code)])
  | broke {f w e} (orderly : Orderly (· ≠ .reaping) w) (stage : e.stage ≠ .reaping)
      (fault : e.fault = some f) (hf : p f) : Ended p plan polls c tree (.raised f) (w ++ [e])
  | ranOut {w} (orderly : Orderly (· ≠ .reaping) w) (h : polls ≤ waits w) :
    Ended p plan polls c tree .unfinished w

omit [Log.Logbook σ] [LE T] [DecidableLE T] [Deferrable T] [LT T] [DecidableLT T] [Zero T] in
/-- The reaping of the child is answered. -/
theorem reap_adds (hr : Responsive p h) (c : Handle) (time : T) :
    Adds (fun o w => match o with
      | .done code => w = [.reap c.pid time (.done code)]
      | _ => False) (h.minuted.reap c.pid time) := by
  have call := minuting_went (K := (· = .reaping)) (n := 1) (hr.reap c.pid time)
    (e := (Exchange.reap c.pid time : _ → Exchange T)) (fun _ => rfl) fun _ => rfl
  refine call.mono fun o w hw => ?_
  cases hw with
  | done orderly hw => exact hw.1
  | broke orderly stage fault hf => exact hf.2
  | ranOut orderly hn =>
    rw [orderly.waits_eq nofun] at hn
    exact absurd hn (by decide)

theorem bringDown_adds (hr : Responsive p h) (hd : Distinct h)
    (hp : Punctual (fun _ => False) plan) (c : Handle) {tree : List Pid} (distinct : tree.Nodup) :
    Adds (Ended p plan polls c tree) (bringDown h.minuted plan polls c tree) := by
  rw [bringDown_eq]
  refine (subdue_went hr hd hp distinct).bind ?_ ?_ ?_
  · intro left w hw
    cases hw with
    | done orderly hl =>
      obtain ⟨before, after, rfl, signals, thins, running⟩ := hl
      refine (reap_adds hr c plan.patience).bind ?_ (fun _ _ never => never.elim) fun _ never => never.elim
      intro code w' hw'
      obtain rfl : w' = [.reap c.pid plan.patience (.done code)] := hw'
      have judged {o : Outcome Unit} (verdict : Judged c tree before after code o) :
          Ended p plan polls c tree o
            (before ++ after ++ ([.reap c.pid plan.patience (.done code)] ++ [])) :=
        .judged orderly signals verdict
      cases code with
      | none =>
        refine .raise (judged ⟨?_, fun _ => ⟨c.pid, rfl, fun _ => rfl, fun never => absurd rfl never⟩⟩)
        exact ⟨nofun, fun never => absurd rfl never.1⟩
      | some code =>
        cases left with
        | nil =>
          refine .silent fun y => ⟨rfl, judged ⟨⟨fun _ => ⟨nofun, fun pid hm => ?_⟩, fun _ => rfl⟩,
            fun never => absurd rfl never⟩⟩
          exact Classical.not_not.1 fun hn => nomatch (thins.kept pid hm).2 hn
        | cons pid left =>
          have listed : pid ∈ tree := thins.subset List.mem_cons_self
          have alive : ¬ Dropped pid (before ++ after) :=
            (thins.kept pid listed).1 List.mem_cons_self
          refine .raise (judged ⟨⟨nofun, fun never => absurd (never.2 pid listed) alive⟩, fun _ =>
            ⟨pid, rfl, nofun, fun _ => ⟨listed, alive, running pid List.mem_cons_self⟩⟩⟩)
  · intro f w hw
    cases hw with
    | broke orderly stage fault hf => exact .broke orderly stage fault hf
  · intro w hw
    cases hw with
    | ranOut orderly hn => exact .ranOut orderly hn

omit [Log.Logbook σ] [LE T] [DecidableLE T] [Deferrable T] [DecidableLT T] in
/-- What was listed first changes nothing of the rest. -/
theorem Ended.after {c : Handle} {tree : List Pid} {w w' : List (Exchange T)} {o : Outcome Unit}
    (listing : Orderly (· = .listing) w) (he : Ended p plan polls c tree o w') :
    Ended p plan polls c tree o (w ++ w') := by
  have orderly : Orderly (· ≠ .reaping) w := listing.mono fun g hg => hg ▸ nofun
  cases he with
  | judged orderly' signals verdict =>
    next before after code =>
    have regrouped : w ++ (before ++ after ++ [.reap c.pid plan.patience (.done code)]) =
        w ++ before ++ after ++ [.reap c.pid plan.patience (.done code)] := by
      simp only [List.append_assoc]
    have unchanged (pid : Pid) : Dropped pid (w ++ before) ↔ Dropped pid before :=
      dropped_append.trans (or_iff_right (listing.not_dropped nofun))
    have unchanged' (pid : Pid) : Dropped pid (w ++ before ++ after) ↔ Dropped pid (before ++ after) := by
      rw [dropped_append, unchanged, dropped_append]
    rw [regrouped]
    refine .judged (by rw [List.append_assoc]; exact orderly.append orderly') ?_ ?_
    · refine ⟨fun ha => ?_, fun ha => ?_, ?_, signals.noneAsked, fun pid => ?_, signals.everybody⟩
      · rw [terminated_append, listing.terminated_eq nofun, signals.asked ha]
        rfl
      · rw [terminated_append, listing.terminated_eq nofun, signals.unasked ha]
        rfl
      · rw [killed_append, listing.killed_eq nofun, signals.noneKilled]
        rfl
      · rw [unchanged]
        exact signals.exactly pid
    · refine ⟨?_, fun ho => ?_⟩
      · simp only [unchanged']
        exact verdict.returns
      · simp only [unchanged']
        exact verdict.raises ho
  | broke orderly' stage fault hf =>
    rw [← List.append_assoc]
    exact .broke (orderly.append orderly') stage fault hf
  | ranOut orderly' hn =>
    refine .ranOut (orderly.append orderly') ?_
    rw [waits_append]
    omega

/-- **How a stop ends**, whatever the calls answer, and the same without the minutes. -/
theorem stop_ended (hr : Responsive p h) (hd : Distinct h) (hp : Punctual (fun _ => False) plan)
    (polls : Nat) (c : Handle) (s : σ) : Ends (stop h.minuted plan polls c) ([], s) fun o y =>
      stop h plan polls c s = (o, y.2) ∧ ∃ tree, (treeOf h c (announce c s).2).1 = .done tree ∧
        Ended p plan polls c tree o y.1 := by
  have same := stop_agrees (minuted_mirrors h) plan polls c ([], s) s rfl
  refine ⟨Prod.ext same.1.symm same.2.symm, ?_⟩
  have listed := treeOf_agrees (minuted_mirrors h) c ([], (announce c s).2) (announce c s).2 rfl
  obtain ⟨w, added, hw⟩ := treeOf_went (n := 1) hr hd c ([], (announce c s).2)
  revert listed added hw
  rcases ht : treeOf h.minuted c ([], (announce c s).2) with ⟨o, l, t⟩
  intro listed added hw
  obtain rfl : l = w := added
  cases hw with
  | done orderly distinct =>
    next tree =>
    refine ⟨tree, listed.1.symm, ?_⟩
    have brought : Adds (Ended p plan polls c tree) (bringDown h.minuted plan polls c tree) :=
      bringDown_adds hr hd hp c distinct
    obtain ⟨w', added', ended⟩ := brought (l, t)
    have run : stop h.minuted plan polls c ([], s) = bringDown h.minuted plan polls c tree (l, t) :=
      Action.bind_done ht _
    rw [run, added']
    exact ended.after orderly
  | broke orderly stage fault never => exact never.elim
  | ranOut orderly hn =>
    rw [orderly.waits_eq nofun] at hn
    exact absurd hn (by decide)

end Stop

end Respawn.Child
