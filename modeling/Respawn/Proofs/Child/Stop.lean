import Respawn.Proofs.Child.Census

/-!
# What a stop leaves

A stop that succeeds has seen every process dead that it listed. Two kinds of processes slip out of
it: those of a tree whose root was gone before the others could be listed, and those that were forked
after the stop had begun.

* `pollUntil_ends`, `waitFor_ends`: who is no longer waited for does not run;
* `treeOf_ends`: who is listed, and who is not;
* `stop_ends`: who runs after a stop that succeeded.
-/

namespace Respawn.Child

open Respawn.Action (Ends Drifts)

variable {T σ : Type} [Log.Logbook σ] {h : Host T σ} {view : σ → Census}

/-! ## 1. Processes that are gone -/

omit [Log.Logbook σ] in
theorem unlessGone_ends {α : Type} {x otherwise : Action σ α} {s : σ} {P Q : Outcome α → σ → Prop}
    (hx : Ends x s P) (done : ∀ a t, P (.done a) t → Q (.done a) t)
    (gone : ∀ n t, P (.raised (.noSuchProcess n)) t → Ends otherwise t Q)
    (raised : ∀ f t, P (.raised f) t → Q (.raised f) t)
    (unfinished : ∀ t, P .unfinished t → Q .unfinished t) : Ends (unlessGone x otherwise) s Q := by
  refine hx.recover done ?_ (fun f t hf _ => raised f t hf) unfinished
  intro f t y hf hy
  split at hy
  · cases hy
    exact gone _ t hf
  · cases hy

omit [Log.Logbook σ] in
theorem unlessGone_drifts {α : Type} {x otherwise : Action σ α} (hx : Drifts Stir view x)
    (ho : Drifts Stir view otherwise) : Drifts Stir view (unlessGone x otherwise) := by
  refine hx.recover fun f y hy => ?_
  split at hy
  · cases hy
    exact ho
  · cases hy

theorem log_drifts (ht : Truthful h view) (level : Log.Level) (logger message : String) :
    Drifts Stir view (.log level logger message) := .of_eq fun s => ht.note _ s

theorem terminateAll_drifts (ht : Truthful h view) (ps : List Pid) :
    Drifts Stir view (terminateAll h ps) :=
  .each (fun p => unlessGone_drifts
    (.bind (log_drifts ht _ _ _) fun _ => ht.terminate p) (.pure ())) ps

theorem killAll_drifts (ht : Truthful h view) (ps : List Pid) :
    Drifts Stir view (killAll h ps) :=
  .each (fun p => unlessGone_drifts (.bind (log_drifts ht _ _ _) fun _ => ht.kill p) (.pure ())) ps

/-! ## 2. Waiting until processes are gone -/

/-- Of some processes a few are left, and the others do not run. -/
def Reduces (view : σ → Census) (ps : List Pid) (s : σ) (o : Outcome (List Pid)) (t : σ) : Prop :=
  Drift (view s) (view t) ∧
    ∀ left, o = .done left → left ⊆ ps ∧ ∀ p ∈ ps, p ∉ left → ¬ (view t).alive p

/-- All of the processes belong to one tree. -/
def Within (view : σ → Census) (root : Pid) (ps : List Pid) (s : σ) : Prop :=
  ∀ p ∈ ps, (view s).tree p = some root

section Reduces

variable {ps left : List Pid} {s t u : σ} {root : Pid} {o : Outcome (List Pid)}

omit [Log.Logbook σ] in
theorem Within.later (hm : Within view root ps s) (hd : Drift (view s) (view t)) :
    Within view root ps t := fun p hp => hd.after.tree (hm p hp)

omit [Log.Logbook σ] in
theorem Reduces.refl (ps : List Pid) (s : σ) : Reduces view ps s (.done ps) s := by
  refine ⟨.refl, fun left hl => ?_⟩
  cases hl
  exact ⟨fun _ hp => hp, fun p hp hn => absurd hp hn⟩

omit [Log.Logbook σ] in
theorem Reduces.before (hd : Drift (view s) (view t)) (hr : Reduces view ps t o u) :
    Reduces view ps s o u := ⟨hd.trans hr.1, hr.2⟩

omit [Log.Logbook σ] in
/-- Who was gone once stays gone. -/
theorem Reduces.trans (hm : Within view root ps s) (hr : Reduces view ps s (.done left) t)
    (hr' : Reduces view left t o u) : Reduces view ps s o u := by
  obtain ⟨hsub, hgone⟩ := hr.2 left rfl
  refine ⟨hr.1.trans hr'.1, fun last hl => ?_⟩
  obtain ⟨hsub', hgone'⟩ := hr'.2 last hl
  refine ⟨fun p hp => hsub (hsub' hp), fun p hp hn ha => ?_⟩
  by_cases hleft : p ∈ left
  · exact hgone' p hleft hn ha
  · exact hgone p hp hleft (hr'.1.after.alive (hm.later hr.1 p hp) ha)

omit [Log.Logbook σ] in
theorem Reduces.of_fault {f : Fault} (hd : Drift (view s) (view t)) :
    Reduces view ps s (.raised f) t := ⟨hd, nofun⟩

omit [Log.Logbook σ] in
theorem Reduces.of_unfinished (hd : Drift (view s) (view t)) :
    Reduces view ps s .unfinished t := ⟨hd, nofun⟩

end Reduces

theorem lives_ends (ht : Truthful h view) (p : Pid) (s : σ) :
    Ends (lives h p) s fun o t =>
      Drift (view s) (view t) ∧ (o = .done false → ¬ (view t).alive p) := by
  have asked : Ends (do pure ((← h.status p) ≠ .zombie) : Action σ Bool) s fun o t =>
      Drift (view s) (view t) ∧ (o = .done false → ¬ (view t).alive p) ∧
        ∀ n, o = .raised (.noSuchProcess n) → ¬ (view t).alive p := by
    refine (ht.status p s).bind ?_ (fun f t hf => ⟨hf.1, nofun, fun n hn => hf.2.2 n ?_⟩)
      fun t hu => ⟨hu.1, nofun, nofun⟩
    · intro status t hs
      refine ⟨hs.1, fun hz => hs.2.1 ?_, nofun⟩
      cases status with
      | running => cases hz
      | zombie => rfl
    · cases hn
      rfl
  refine unlessGone_ends asked (fun b t hb => ⟨hb.1, hb.2.1⟩) (fun n t hn => ?_)
    (fun f t hf => ⟨hf.1, nofun⟩) fun t hu => ⟨hu.1, nofun⟩
  exact ⟨hn.1, fun _ => hn.2.2 n rfl⟩

theorem select_ends (ht : Truthful h view) {root : Pid} (ps : List Pid) (s : σ)
    (hm : Within view root ps s) : Ends (Action.select (lives h) ps) s (Reduces view ps s) := by
  induction ps generalizing s with
  | nil => exact .refl [] s
  | cons p ps ih =>
    refine (lives_ends ht p s).bind ?_ (fun f t hf => .of_fault hf.1) fun t hu => .of_unfinished hu.1
    intro keep t hk
    have later : Within view root ps t := fun q hq => hm.later hk.1 q (List.mem_cons_of_mem p hq)
    refine (ih t later).bind ?_ (fun f u hf => .of_fault (hk.1.trans hf.1))
      fun u hu => .of_unfinished (hk.1.trans hu.1)
    intro rest u hr
    obtain ⟨hsub, hgone⟩ := hr.2 rest rfl
    refine ⟨hk.1.trans hr.1, fun left hl => ?_⟩
    cases hl
    cases keep with
    | true =>
      refine ⟨List.cons_subset_cons p hsub, fun q hq hn => ?_⟩
      rcases List.mem_cons.1 hq with rfl | hq
      · exact absurd List.mem_cons_self hn
      · exact hgone q hq fun h => hn (List.mem_cons_of_mem p h)
    | false =>
      refine ⟨fun q hq => List.mem_cons_of_mem p (hsub hq), fun q hq hn ha => ?_⟩
      rcases List.mem_cons.1 hq with rfl | hq
      · exact hk.2 rfl (hr.1.after.alive (hm.later hk.1 q List.mem_cons_self) ha)
      · exact hgone q hq hn ha

section Waiting

variable {root : Pid} {ps : List Pid} {s : σ}

/-- One poll: those that are missing are left out. -/
theorem poll_ends (ht : Truthful h view) (tick : T) (ps : List Pid) (s : σ) :
    Ends (unlessGone (do pure (some (← h.waitAll ps tick))) (pure none)) s fun o t =>
      match o with
      | .done (some left) => Reduces view ps s (.done left) t
      | .done none => Reduces view ps s (.done []) t
      | _ => Drift (view s) (view t) := by
  have asked : Ends (do pure (some (← h.waitAll ps tick)) : Action σ (Option (List Pid))) s fun o t =>
      match o with
      | .done (some left) => Reduces view ps s (.done left) t
      | .done none => Reduces view ps s (.done []) t
      | .raised f => Drift (view s) (view t) ∧
        ((∃ n, f = .noSuchProcess n) → ∀ p ∈ ps, ¬ (view t).alive p)
      | .unfinished => Drift (view s) (view t) := by
    refine (ht.waitAll ps tick s).bind ?_ (fun f t hf => ⟨hf.1, ?_⟩) fun t hu => hu.1
    · intro left t hl
      refine ⟨hl.1, fun left' hl' => ?_⟩
      cases hl'
      exact hl.2.1 left rfl
    · intro h
      obtain ⟨n, rfl⟩ := h
      exact hf.2.2 n rfl
  refine unlessGone_ends asked (fun a t ha => ?_) (fun n t hn => ?_) (fun f t hf => hf.1)
    fun t hu => hu
  · cases a <;> exact ha
  · refine ⟨hn.1, fun left hl => ?_⟩
    cases hl
    exact ⟨List.nil_subset ps, fun p hp _ => hn.2 ⟨n, rfl⟩ p hp⟩

variable [LE T] [DecidableLE T]

/-- Who is no longer waited for does not run. -/
theorem pollUntil_ends (ht : Truthful h view) (tick deadline : T) (polls : Nat) :
    ∀ {ps s}, Within view root ps s →
      Ends (pollUntil h tick deadline polls ps) s (Reduces view ps s) := by
  induction polls with
  | zero =>
    intro ps s hm
    cases ps with
    | nil => exact .refl [] s
    | cons p ps => exact .of_unfinished .refl
  | succ polls ih =>
    intro ps s hm
    cases ps with
    | nil => exact .refl [] s
    | cons p rest =>
      refine (poll_ends ht tick (p :: rest) s).bind ?_ (fun f t hf => .of_fault hf)
        fun t hu => .of_unfinished hu
      intro found t hfound
      cases found with
      | none => exact hfound
      | some left =>
        have hin : Within view root left t :=
          fun q hq => hm.later hfound.1 q ((hfound.2 left rfl).1 hq)
        refine (select_ends ht left t hin).bind ?_ (fun f u hf => .of_fault (hfound.1.trans hf.1))
          fun u hu => .of_unfinished (hfound.1.trans hu.1)
        intro left' u hleft'
        have kept := hfound.trans hm hleft'
        refine (ht.now.ends u).bind ?_ (fun f x hx => .of_fault (kept.1.trans hx))
          fun x hx => .of_unfinished (kept.1.trans hx)
        intro time x hx
        have kept : Reduces view (p :: rest) s (.done left') x :=
          kept.trans hm (.before hx (.refl left' x))
        split
        · exact kept
        · refine (ih fun q hq => hm.later kept.1 q ((kept.2 left' rfl).1 hq)).mono ?_
          exact fun o y hy => kept.trans hm hy

variable [Deferrable T]

/-- Who is not left after some time does not run. -/
theorem waitFor_ends (ht : Truthful h view) (polls : Nat) (tick time : T)
    (hm : Within view root ps s) : Ends (waitFor h polls tick time ps) s (Reduces view ps s) := by
  refine (ht.now.ends s).bind ?_ (fun f t hf => .of_fault hf) fun t hu => .of_unfinished hu
  intro now t hd
  cases hdue : Deferrable.later now time with
  | error f => exact .of_fault hd
  | ok deadline =>
    exact (pollUntil_ends ht tick deadline polls (hm.later hd)).mono fun _ _ => .before hd

variable [LT T] [DecidableLT T] [Zero T]

/-- Who is not left to be killed does not run. -/
theorem askToEnd_ends (ht : Truthful h view) (plan : StopPlan T) (polls : Nat)
    (hm : Within view root ps s) : Ends (askToEnd h plan polls ps) s (Reduces view ps s) := by
  unfold askToEnd
  split
  · refine ((terminateAll_drifts ht ps).ends s).bind ?_ (fun f t hf => .of_fault hf)
      fun t hu => .of_unfinished hu
    intro _ t hd
    refine (waitFor_ends ht polls plan.tick plan.grace (hm.later hd)).bind ?_
      (fun f u hf => .before hd hf) fun u hu => .before hd hu
    intro left u hu
    have kept : Reduces view ps s (.done left) u := .before hd hu
    split
    · exact kept
    · exact Ends.of_modify
        (Reduces.trans hm kept (.before (log_drifts ht .warning stopLogger _ u) (.refl left _)))
  · exact .refl ps s

end Waiting

/-! ## 3. The tree -/

theorem rootOf_ends (ht : Truthful h view) (c : Handle) (s : σ) :
    Ends (rootOf h c) s fun o t => Drift (view s) (view t) ∧
      (∀ root, o = .done (some root) → root = c.pid) ∧
      (o = .done none → ¬ (view t).alive c.pid) := by
  unfold rootOf
  split
  · refine ⟨.refl, fun root hr => ?_, nofun⟩
    cases hr
    rfl
  · have running : Ends (c.isRunning h) s fun o t => Drift (view s) (view t) ∧
        (o = .done false → ¬ (view t).alive c.pid) := by
      refine (ht.poll c.pid s).bind ?_ (fun f t hf => ⟨hf.1, nofun⟩) fun t hu => ⟨hu.1, nofun⟩
      intro code t hc
      refine ⟨hc.1, fun hn => ?_⟩
      cases code with
      | none => cases hn
      | some code => exact hc.2 code rfl
    refine running.bind ?_ (fun f t hf => ⟨hf.1, nofun, nofun⟩) fun t hu => ⟨hu.1, nofun, nofun⟩
    intro runs t hr
    cases runs with
    | false => exact ⟨hr.1, nofun, fun _ => hr.2 rfl⟩
    | true =>
      have found : Ends (do h.find c.pid; pure (some c.pid) : Action σ (Option Pid)) t fun o u =>
          Drift (view t) (view u) ∧ (∀ root, o = .done root → root = some c.pid) ∧
            ∀ n, o = .raised (.noSuchProcess n) → ¬ (view u).alive c.pid := by
        refine (ht.find c.pid t).bind ?_ (fun f u hf => ⟨hf.1, nofun, fun n hn => hf.2 n ?_⟩)
          fun u hu => ⟨hu.1, nofun, nofun⟩
        · intro _ u hu
          refine ⟨hu.1, fun root hroot => ?_, nofun⟩
          cases hroot
          rfl
        · cases hn
          rfl
      refine unlessGone_ends found (fun root u hu => ?_) (fun n u hu => ?_)
        (fun f u hu => ⟨hr.1.trans hu.1, nofun, nofun⟩)
        fun u hu => ⟨hr.1.trans hu.1, nofun, nofun⟩
      · have := hu.2.1 root rfl
        subst this
        refine ⟨hr.1.trans hu.1, fun root hroot => ?_, nofun⟩
        cases hroot
        rfl
      · exact ⟨hr.1.trans hu.1, nofun, fun _ => hu.2.2 n rfl⟩

/-- If the root runs when the tree has been listed, everybody is listed who was in the tree before and
    runs. -/
theorem treeOf_ends (ht : Truthful h view) (c : Handle) (s : σ)
    (hroot : (view s).tree c.pid = some c.pid) : Ends (treeOf h c) s fun o t =>
      Drift (view s) (view t) ∧ ∀ l, o = .done l → Within view c.pid l t ∧
        ((view t).alive c.pid → ∀ p, (view s).tree p = some c.pid → p ∉ l →
          ¬ (view t).alive p) := by
  refine (rootOf_ends ht c s).bind ?_ (fun f t hf => ⟨hf.1, nofun⟩) fun t hu => ⟨hu.1, nofun⟩
  intro root t hr
  cases root with
  | none =>
    refine ⟨hr.1, fun l hl => ?_⟩
    cases hl
    exact ⟨fun p hp => absurd hp List.not_mem_nil, fun ha => absurd ha (hr.2.2 rfl)⟩
  | some root =>
    obtain rfl : root = c.pid := hr.2.1 root rfl
    have hroot' := hr.1.after.tree hroot
    have below : Ends (unlessGone (h.descendants c.pid) (do
        stopLog .debug s!"Process {c.pid} no longer exists, skipping children retrieval."
        pure [])) t fun o u => Drift (view t) (view u) ∧ ∀ l, o = .done l →
          (∀ q ∈ l, (view u).tree q = some c.pid) ∧
          ((view u).alive c.pid → ∀ p, (view t).tree p = some c.pid → p ∉ c.pid :: l →
            ¬ (view u).alive p) := by
      refine unlessGone_ends (ht.descendants c.pid t hroot') (fun l u hu => ⟨hu.1, fun l' hl => ?_⟩)
        (fun n u hu => ?_) (fun f u hu => ⟨hu.1, nofun⟩) fun u hu => ⟨hu.1, nofun⟩
      · cases hl
        obtain ⟨members, v, hv, hv', all⟩ := hu.2.1 l rfl
        refine ⟨members, fun ha p hp hn hap => ?_⟩
        have alive : v.alive p := hv'.after.alive (hv.after.tree hp) hap
        have root := hv'.after.alive (hv.after.tree hroot') ha
        rcases all root p alive (hv.after.tree hp) with rfl | hm
        · exact hn List.mem_cons_self
        · exact hn (List.mem_cons_of_mem _ hm)
      · refine Ends.of_modify ?_
        have dead := hu.2.2 n rfl
        have same := ht.note ⟨.debug, stopLogger,
          s!"Process {c.pid} no longer exists, skipping children retrieval."⟩ u
        refine ⟨same ▸ hu.1, fun l hl => ?_⟩
        cases hl
        exact ⟨fun q hq => absurd hq List.not_mem_nil, fun ha => absurd (same ▸ ha) dead⟩
    refine below.bind ?_ (fun f u hu => ⟨hr.1.trans hu.1, nofun⟩)
      fun u hu => ⟨hr.1.trans hu.1, nofun⟩
    intro l u hu
    obtain ⟨members, all⟩ := hu.2 l rfl
    refine ⟨hr.1.trans hu.1, fun l' hl => ?_⟩
    cases hl
    refine ⟨fun p hp => ?_, fun ha p hp => all ha p (hr.1.after.tree hp)⟩
    rcases List.mem_cons.1 hp with rfl | hp
    · exact hu.1.after.tree hroot'
    · exact members p hp

/-! ## 4. The stop -/

variable [Deferrable T] [LT T] [DecidableLT T] [LE T] [DecidableLE T] [Zero T]

/-- How a process can outlive a stop that succeeds: the root was gone by the time the tree had been
    listed, or the process belonged to no tree yet when the stop began. -/
def Slips (h : Host T σ) (view : σ → Census) (c : Handle) (p : Pid) (s : σ) : Prop :=
  ¬ (view (treeOf h c (announce c s).2).2).alive c.pid ∨ (view s).tree p = none

/-- Whoever was listed is gone once the tree has been brought down. -/
theorem bringDown_ends (ht : Truthful h view) (plan : StopPlan T) (polls : Nat) (c : Handle)
    {root : Pid} {l : List Pid} {s : σ} (hm : Within view root l s) :
    Ends (bringDown h plan polls c l) s fun o t =>
      Drift (view s) (view t) ∧ (o = .done () → ∀ p ∈ l, ¬ (view t).alive p) := by
  have reduced {left : List Pid} {t u : σ} (hr : Reduces view l s (.done left) t)
      (hd : Drift (view t) (view u)) : Reduces view l s (.done left) u :=
    hr.trans hm (.before hd (.refl left u))
  refine (askToEnd_ends ht plan polls hm).bind ?_ (fun f t hf => ⟨hf.1, nofun⟩)
    fun t hu => ⟨hu.1, nofun⟩
  intro asked t ha
  refine ((killAll_drifts ht asked).ends t).bind ?_ (fun f u hu => ⟨ha.1.trans hu, nofun⟩)
    fun u hu => ⟨ha.1.trans hu, nofun⟩
  intro _ u hu
  have hk := reduced ha hu
  have within : Within view root asked u := fun p hp => hm.later hk.1 p ((hk.2 asked rfl).1 hp)
  refine (waitFor_ends ht polls plan.tick plan.patience within).bind ?_
    (fun f v hv => ⟨hk.1.trans hv.1, nofun⟩) fun v hv => ⟨hk.1.trans hv.1, nofun⟩
  intro left v hv
  have hw : Reduces view l s (.done left) v := hk.trans hm hv
  refine ((ht.reap c.pid plan.patience).ends v).bind ?_ (fun f x hx => ⟨hw.1.trans hx, nofun⟩)
    fun x hx => ⟨hw.1.trans hx, nofun⟩
  intro code x hx
  have hr := reduced hw hx
  cases code with
  | none => exact ⟨hr.1, nofun⟩
  | some code =>
    cases left with
    | cons p left => exact ⟨hr.1, nofun⟩
    | nil =>
      have same := ht.note ⟨.info, stopLogger, s!"{capitalized c.name} (PID {c.pid}) stopped."⟩ x
      refine ⟨?_, fun _ p hp => ?_⟩
      · exact hr.1.trans (log_drifts ht .info stopLogger _ x)
      · show ¬ (view (Log.Logbook.note _ x)).alive p
        rw [same]
        exact (hr.2 [] rfl).2 p hp List.not_mem_nil

/-- **Who runs in the tree after a stop that succeeded has slipped out of it**, then or at any time
    later. -/
theorem stop_ends (ht : Truthful h view) (plan : StopPlan T) (polls : Nat) (c : Handle) (s : σ)
    (hroot : (view s).tree c.pid = some c.pid) : Ends (stop h plan polls c) s fun o t =>
      Drift (view s) (view t) ∧ (o = .done () → ∀ v, After (view t) v → ∀ p, v.alive p →
        v.tree p = some c.pid → Slips h view c p s) := by
  have begun : Drift (view s) (view (announce c s).2) := log_drifts ht .info stopLogger _ s
  have listed := treeOf_ends ht c (announce c s).2 (begun.after.tree hroot)
  refine Ends.of_modify ((listed.and (.here _ _)).bind ?_ (fun f t hf => ⟨begun.trans hf.1.1, nofun⟩)
    fun t hu => ⟨begun.trans hu.1.1, nofun⟩)
  intro l t ht'
  obtain ⟨hl, here⟩ := ht'
  obtain ⟨within, all⟩ := hl.2 l rfl
  refine (bringDown_ends ht plan polls c within).mono fun o u hu => ?_
  refine ⟨begun.trans (hl.1.trans hu.1), fun ho v hv p hap hp => ?_⟩
  cases member : (view s).tree p with
  | none => exact .inr member
  | some q =>
    refine .inl fun root => ?_
    rw [here] at root
    -- The process was in the tree all along: it was listed, or it did not run even then.
    have atStart := begun.after.tree member
    have atListing := hl.1.after.tree atStart
    have atEnd := hv.alive (hu.1.after.tree atListing) hap
    obtain rfl : q = c.pid :=
      Option.some.inj ((hv.tree (hu.1.after.tree atListing)).symm.trans hp)
    by_cases hpl : p ∈ l
    · exact hu.2 ho p hpl atEnd
    · exact all root p atStart hpl (hu.1.after.alive atListing atEnd)

end Respawn.Child
