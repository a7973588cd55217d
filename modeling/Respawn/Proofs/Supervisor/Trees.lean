import Respawn.Proofs.Child.Launch
import Respawn.Proofs.Child.Nursery
import Respawn.Proofs.Supervisor.Ledger

/-!
# Process trees

A supervisor holds one child at a time, but a child is the root of a whole tree of processes. When an
instance is given up its tree need not be gone: nobody stops the tree of a child that was seen to end,
and a stop or an aborted start lets go of whom it could not list or could not kill. From then on
nobody looks for those processes, and the next launch finds them running.

* `Escaped`: how a process can have got away by the calls so far;
* `Accounted.call`: of all the trees that there are one is held, and in the others only those run who
  got away;
* `overlap_iff`: when exactly two instances run at once.
-/

namespace Respawn.Supervisor

open Respawn.Action (Drifts Ends)
open Child (Abandons After Census Drift Slips Spawned Stir Truthful)

variable {T σ : Type} [Log.Logbook σ] [Deferrable T] [LT T] [DecidableLT T] [LE T]
  [DecidableLE T] [Zero T]

/-- What a supervisor launches and stops processes with. -/
structure Tools (T σ : Type) where
  host : Child.Host T σ
  stopPlan : Child.StopPlan T
  plan : Child.LaunchPlan T
  polls : Nat

/-- The crew of a supervisor that is given no other. -/
def Tools.crew (k : Tools T σ) (wait : Phase → T → Action σ (Option Watch.Trigger)) : Crew T σ where
  launch i := Child.launch k.host k.stopPlan k.plan k.polls i
  stop c := Child.stop k.host k.stopPlan k.polls c
  poll c := k.host.poll c.pid
  wait := wait

/-! ## 1. Processes that got away -/

/-- How a process of the tree of `r` can have got away by the calls so far: the child was seen to end
    and nobody stopped its tree, or the process slipped out of a stop, or it was abandoned when a
    start failed. -/
inductive Escaped (k : Tools T σ) (view : σ → Census) (l : List (Call σ)) (p r : Child.Pid) : Prop
  | dropped {b c code a} (seen : .poll b c (.done (some code)) a ∈ l) (root : c.pid = r)
  | slipped {b c a} (stopped : .stop b c (.done ()) a ∈ l) (root : c.pid = r)
      (slips : Slips k.host view c p b)
  | abandoned {b f a i} (failed : .launch b (.raised f) a ∈ l)
      (made : Child.launch k.host k.stopPlan k.plan k.polls i b = (.raised f, a))
      (abandons : Abandons k.host view k.stopPlan k.plan k.polls i b p r)

/-- Whoever runs in the tree from now on got away. -/
def GivenUp (k : Tools T σ) (view : σ → Census) (l : List (Call σ)) (r : Child.Pid) (v : Census) :
    Prop :=
  ∀ v', After v v' → ∀ p, v'.alive p → v'.tree p = some r → Escaped k view l p r

/-- Of all the trees that there are one is held, and the others were given up. -/
structure Accounted (k : Tools T σ) (view : σ → Census) (held : Option Child.Handle)
    (l : List (Call σ)) (v : Census) : Prop where
  root {c} : held = some c → v.tree c.pid = some c.pid
  trees {p r} : v.tree p = some r → (∃ c, held = some c ∧ c.pid = r) ∨ GivenUp k view l r v

section Accounted

variable {k : Tools T σ} {view : σ → Census} {held : Option Child.Handle} {l l' : List (Call σ)}
  {p r : Child.Pid} {v v' : Census}

theorem Escaped.mono (h : Escaped k view l p r) (hl : l ⊆ l') : Escaped k view l' p r := by
  cases h with
  | dropped seen root => exact .dropped (hl seen) root
  | slipped stopped root slips => exact .slipped (hl stopped) root slips
  | abandoned failed made abandons => exact .abandoned (hl failed) made abandons

theorem GivenUp.later (h : GivenUp k view l r v) (hv : After v v') (hl : l ⊆ l') :
    GivenUp k view l' r v' := fun v'' hv' p ha hp => (h v'' (hv.trans hv') p ha hp).mono hl

/-- While nothing is launched and nothing is let go of. -/
theorem Accounted.later (h : Accounted k view held l v) (hd : Drift v v') (hl : l ⊆ l') :
    Accounted k view held l' v' := by
  refine ⟨fun hc => hd.after.tree (h.root hc), fun hp => ?_⟩
  obtain ⟨f, hf, -⟩ := hd.forebear hp
  exact (h.trees hf).imp_right fun hg => hg.later hd.after hl

/-- When the child that is held is let go of. -/
theorem Accounted.release {c : Child.Handle} (h : Accounted k view (some c) l v) (hd : Drift v v')
    (hl : l ⊆ l') (hg : GivenUp k view l' c.pid v') : Accounted k view none l' v' := by
  refine ⟨nofun, fun {p r} hp => .inr ?_⟩
  obtain ⟨f, hf, -⟩ := hd.forebear hp
  rcases h.trees hf with ⟨c', hc, rfl⟩ | hg'
  · cases hc
    exact hg
  · exact hg'.later hd.after hl

/-- When a child is spawned, and either held or given up. -/
theorem Accounted.spawn (h : Accounted k view none l v) (hs : Spawned r v v') (hl : l ⊆ l')
    (hr : (∃ c, held = some c ∧ c.pid = r) ∨ held = none ∧ GivenUp k view l' r v') :
    Accounted k view held l' v' := by
  refine ⟨fun {c} hc => ?_, fun {p q} hp => ?_⟩
  · rcases hr with ⟨c', hc', rfl⟩ | ⟨hn, -⟩
    · obtain rfl : c = c' := Option.some.inj (hc.symm.trans hc')
      exact hs.tree
    · rw [hn] at hc
      cases hc
  · rcases hs.forebear hp with rfl | ⟨f, hf⟩
    · exact hr.imp_right And.right
    · rcases h.trees hf with ⟨c, hc, -⟩ | hg
      · cases hc
      · exact .inr (hg.later hs.after hl)

/-- **Every call that comes to its end leaves all trees accounted for.** -/
theorem Accounted.call {wait : Phase → T → Action σ (Option Watch.Trigger)}
    (ht : Truthful k.host view) (hw : ∀ phase t, Drifts Stir view (wait phase t)) {call : Call σ}
    (made : call.Made (k.crew wait)) (fits : call.Fits held) (finished : call.Finished)
    (h : Accounted k view held l (view call.before)) :
    Accounted k view (call.leaves held) (l ++ [call]) (view call.after) := by
  have grows : l ⊆ l ++ [call] := List.subset_append_left l [call]
  have last : call ∈ l ++ [call] := List.mem_append_right l List.mem_cons_self
  cases call with
  | launch b o a =>
    cases (fits : held = none)
    obtain ⟨i, made⟩ := made
    have ends := (Child.launch_ends ht k.stopPlan k.plan k.polls i b).result made
    cases o with
    | done c => exact h.spawn (ends.1 c rfl) grows (.inl ⟨c, rfl, rfl⟩)
    | raised f =>
      rcases ends.2 f rfl with drift | ⟨r, spawned, abandoned⟩
      · exact h.later drift grows
      · refine h.spawn spawned grows (.inr ⟨rfl, fun v hv p ha hp => ?_⟩)
        exact .abandoned last made (abandoned v hv p ha hp)
    | unfinished => exact absurd rfl finished
  | stop b c o a =>
    cases (fits : held = some c)
    have ends := (Child.stop_ends ht k.stopPlan k.polls c b (h.root rfl)).result made
    cases o with
    | done _ =>
      exact h.release ends.1 grows fun v hv p ha hp => .slipped last rfl (ends.2 rfl v hv p ha hp)
    | raised f => exact h.later ends.1 grows
    | unfinished => exact absurd rfl finished
  | poll b c o a =>
    cases (fits : held = some c)
    have ends := (ht.poll c.pid b).result made
    rcases o with (_ | code) | f | _
    · exact h.later ends.1 grows
    · exact h.release ends.1 grows fun v hv p ha hp => .dropped last rfl
    · exact h.later ends.1 grows
    · exact absurd rfl finished
  | wait b o a =>
    obtain ⟨phase, t, made⟩ := made
    exact h.later (((hw phase t).ends b).result made) grows

end Accounted

/-! ## 2. When two instances run at once -/

/-- When a launch begins, every tree that there is was given up before. -/
def Exposed (k : Tools T σ) (view : σ → Census) (l : List (Call σ)) : Prop :=
  ∀ pre b o a post, l = pre ++ .launch b o a :: post → ∀ p r, (view b).tree p = some r →
    GivenUp k view pre r (view b)

section Life

variable {k : Tools T σ} {view : σ → Census} {wait : Phase → T → Action σ (Option Watch.Trigger)}

theorem Exposed.concat {held : Option Child.Handle} {l : List (Call σ)} {call : Call σ}
    (h : Exposed k view l) (fits : call.Fits held)
    (ha : Accounted k view held l (view call.before)) : Exposed k view (l ++ [call]) := by
  intro pre b o a post he p r hp
  rcases cut_concat he with ⟨rfl, rfl, -⟩ | ⟨post, -, rfl⟩
  · cases (fits : held = none)
    exact (ha.trees hp).resolve_left nofun
  · exact h _ _ _ _ _ rfl p r hp

variable [Stoppable σ]

theorem exposed_life (ht : Truthful k.host view) (hask : ∀ s, view (Stoppable.ask s) = view s)
    (i : Invocation) (os : List (Order T σ))
    (hw : ∀ o ∈ os, ∀ phase t, Drifts Stir view ((o.crew (k.crew wait)).wait phase t)) (w : σ)
    (hnone : ∀ p, (view w).tree p = none) : Exposed k view (life (k.crew wait) i os w).2.1 := by
  let Q (held : Option Child.Handle) (l : List (Call σ)) (w : σ) : Prop :=
    Exposed k view l ∧ ((∀ call ∈ l, call.Finished) → Accounted k view held l (view w))
  have carries (o) (ho : o ∈ os) : Carries (o.crew (k.crew wait)) Q := by
    obtain ⟨wait', hcrew⟩ : ∃ wait', o.crew (k.crew wait) = k.crew wait' := by
      cases o <;> exact ⟨_, rfl⟩
    have quiet := hw o ho
    rw [hcrew] at quiet ⊢
    refine ⟨fun {held l call} made fits finished hq => ?_, fun r hq => ?_, fun hq => ?_⟩
    · obtain ⟨exposed, accounted⟩ := hq
      have before := accounted finished
      refine ⟨exposed.concat fits before, fun all => ?_⟩
      exact before.call ht quiet made fits (all call (List.mem_append_right _ List.mem_cons_self))
    · exact ⟨hq.1, fun all => by rw [ht.note]; exact hq.2 all⟩
    · exact ⟨hq.1, fun all => by rw [hask]; exact hq.2 all⟩
  have begun : Q none [] w := by
    refine ⟨fun pre b o a post he => ?_, fun _ => ⟨nofun, fun {p r} hp => ?_⟩⟩
    · simp at he
    · rw [hnone p] at hp
      cases hp
  exact (Carries.life i os carries w begun).1

/-- **When exactly two instances run at once.** While a launch has begun and its child is not spawned
    yet, somebody runs in the tree of an earlier child if and only if somebody runs in it who got away
    by the calls before: nobody stopped the tree of a child that was seen to end, or the process
    slipped out of a stop, or it was abandoned when a start failed. -/
theorem overlap_iff (ht : Truthful k.host view) (hask : ∀ s, view (Stoppable.ask s) = view s)
    (i : Invocation) (os : List (Order T σ))
    (hw : ∀ o ∈ os, ∀ phase t, Drifts Stir view ((o.crew (k.crew wait)).wait phase t)) (w : σ)
    (hnone : ∀ p, (view w).tree p = none) {pre post : List (Call σ)} {b a : σ}
    {o : Outcome Child.Handle}
    (hl : (life (k.crew wait) i os w).2.1 = pre ++ .launch b o a :: post) {v : Census}
    (hv : Drift (view b) v) (r : Child.Pid) :
    (∃ p, v.alive p ∧ v.tree p = some r) ↔
      ∃ p, v.alive p ∧ v.tree p = some r ∧ Escaped k view pre p r := by
  constructor
  · intro h
    obtain ⟨p, ha, hp⟩ := h
    obtain ⟨f, hf, -⟩ := hv.forebear hp
    have given := exposed_life ht hask i os hw w hnone pre b o a post hl f r hf
    exact ⟨p, ha, hp, given v hv.after p ha hp⟩
  · intro h
    obtain ⟨p, ha, hp, -⟩ := h
    exact ⟨p, ha, hp⟩

end Life

section Nursery

open Child (Nursery)

/-- A shutdown is asked for once nothing is left of the script. -/
instance : Stoppable Nursery where
  asked s := s.script.isEmpty
  ask s := { s with script := [] }
  asked_ask _ := rfl

/-- Kills at once, and waits for one turn after each launch. -/
def swiftTools : Tools Seconds Nursery :=
  ⟨Nursery.host, ⟨0, 0, 0⟩, ⟨"", false, .whole 1, .session⟩, 1⟩

/-- The calls of a start, a look at the child, and another start. The first child forks, and then it
    ends. -/
def orphanedLedger : List (Call Nursery) :=
  (life (swiftTools.crew fun _ _ => pure none) ⟨[], .ofText "/"⟩ [.start, .check, .start]
    (.empty [[.birth 1], [.death 1]])).2.1

/-- The second process runs in the tree of the first one, which does not. -/
def orphaned : Nursery := ⟨[2], [(2, 1), (1, 1)], []⟩

/-- The tree of the first child still runs when the second one is launched. -/
theorem overlap_iff_orphaned :
    orphanedLedger = orphanedLedger.take 2 ++
        [.launch orphaned (.done ⟨3, true, [], ""⟩) ⟨[3, 2], [(3, 3), (2, 1), (1, 1)], []⟩] ∧
      ∃ p ∈ orphaned.living, orphaned.kin.lookup p = some 1 ∧
        Escaped swiftTools Nursery.view (orphanedLedger.take 2) p 1 := by
  have split : orphanedLedger = orphanedLedger.take 2 ++
      [.launch orphaned (.done ⟨3, true, [], ""⟩) ⟨[3, 2], [(3, 3), (2, 1), (1, 1)], []⟩] := by rfl
  have quiet (o : Order Seconds Nursery) (ho : o ∈ [.start, .check, .start]) (phase : Phase)
      (t : Seconds) :
      Drifts Stir Nursery.view ((o.crew (swiftTools.crew fun _ _ => pure none)).wait phase t) := by
    simp only [List.mem_cons, List.not_mem_nil, or_false] at ho
    rcases ho with rfl | rfl | rfl <;> exact .pure none
  have overlap := overlap_iff Nursery.truthful_host (fun _ => rfl) _ _ quiet _ (fun _ => rfl) split
    .refl 1
  exact ⟨split, overlap.1 ⟨2, List.mem_cons_self, rfl⟩⟩

end Nursery

end Respawn.Supervisor
