import Respawn.Proofs.Watch.View

/-!
# The one observer

An observer lives only from its start on, and a watcher starts one only where it holds it, or where
no other lives. So no observer lives but the one that the watcher holds, whatever ends a wait, and
once that one was stopped and joined none lives.

* `Tame`: a host on which nobody but the watcher brings observers to life. A faithful one is tame;
* `Endures.wait`, `Endures.next`: what the parts of a wait keep, a wait and an iterator keep;
* `wait_sole`: however a wait ends, no observer lives but the one that is held;
* `start_sole`, `stop_ends`: a watcher begins with one observer and ends with none.
-/

namespace Respawn.Watch

open Respawn.Action (Ends)

variable {T O σ : Type}

/-- No observer lives that did not live before. -/
def Dwindles (living : σ → O → Prop) (s t : σ) : Prop := ∀ o, living t o → living s o

section Dwindles

variable {living : σ → O → Prop} {s t u : σ}

theorem Dwindles.refl (s : σ) : Dwindles living s s := fun _ h => h

theorem Dwindles.trans (h : Dwindles living s t) (h' : Dwindles living t u) : Dwindles living s u :=
  fun o ho => h o (h' o ho)

theorem Dwindles.none (h : Dwindles living s t) (hn : ∀ o, ¬ living s o) (o : O) : ¬ living t o :=
  fun ho => hn o (h o ho)

end Dwindles

/-- A host on which an observer lives only once the watcher has asked for its start, whether or not
    the start succeeds. Nobody else starts or stops the watcher, and what is said to be dead is. -/
structure Tame [Mailboxed σ] [Log.Logbook σ] (h : Host T O σ) (living : σ → O → Prop) : Prop where
  note (r s) : Dwindles living s (Log.Logbook.note r s)
  update (f s) : Dwindles living s (Mailboxed.update f s)
  present (p s) : Ends (h.present p) s fun _ t => Dwindles living s t
  build (s) : Ends h.build s fun _ t => Dwindles living s t
  schedule (o f d s) : Ends (h.schedule o f d) s fun _ t => Dwindles living s t
  start (o s) : Ends (h.start o) s fun _ t => ∀ o', living t o' → living s o' ∨ o' = o
  stop (o s) : Ends (h.stop o) s fun _ t => Dwindles living s t
  alive (o s) : Ends (h.alive o) s fun r t =>
    Dwindles living s t ∧ (r = .done false → ¬ living t o)
  await (time w s) : Ends (h.await time) (w, s) fun _ y => y.1 = w ∧ Dwindles living s y.2
  pause (time w s) : Ends (h.pause time) (w, s) fun _ y => y.1 = w ∧ Dwindles living s y.2
  others (w s) : Ends h.others (w, s) fun _ y => y.1 = w ∧ Dwindles living s y.2

/-- A host that does what it is asked brings no other observer to life. -/
theorem Faithful.tame [Mailboxed σ] [Log.Logbook σ] {h : Host T O σ} {cwd : Path}
    {view : σ → View O}
    (hf : Faithful h cwd view) : Tame h fun s => (view s).alive where
  note r s o ho := by
    have same := congrFun (congrArg View.alive (hf.note r s)) o
    exact same.mp ho
  update f s o ho := by
    have same := congrFun (congrArg View.alive (hf.update f s)) o
    exact same.mp ho
  present p s := (hf.present p s).mono fun _ _ h _ ho => h.2.later.alive ho
  build s := (hf.build s).mono fun _ _ h _ ho => h.2.1.later.alive ho
  schedule o f d s := (hf.schedule o f d s).mono fun _ _ h _ ho => h.2.1.later.alive ho
  start o s := by
    refine (hf.start o s).mono fun r t h o' ho => ?_
    obtain ⟨-, begun, refused⟩ := h
    by_cases hr : r = .done ()
    · obtain ⟨v, before, after⟩ := begun hr
      exact (after.later.alive ho).imp_left before.later.alive
    · exact .inl ((refused hr).later.alive ho)
  stop o s := (hf.stop o s).mono fun _ _ h _ ho => h.2.later.alive ho
  alive o s := by
    refine (hf.alive o s).mono fun r t h => ⟨fun _ ho => h.2.1.later.alive ho, fun hr ho => ?_⟩
    obtain ⟨v, -, after, told⟩ := h.2.2 false hr
    exact nomatch told.2 (after.later.alive ho)
  await time w s := (hf.await time w s).mono fun _ _ h => ⟨h.1, fun _ ho => h.2.1.later.alive ho⟩
  pause time w s := (hf.pause time w s).mono fun _ _ h =>
    ⟨h.2.1, fun _ ho => h.2.2.1.later.alive ho⟩
  others w s := (hf.others w s).mono fun _ _ h => ⟨h.2.1, fun _ ho => h.2.2.later.alive ho⟩

namespace Watcher

/-- No observer lives but the one that the watcher holds. -/
def Sole (living : σ → O → Prop) (x : Watcher T O × σ) : Prop :=
  ∀ o, living x.2 o → x.1.observer = some o

section Sole

variable {living : σ → O → Prop} {w w' : Watcher T O} {s t : σ}

theorem Sole.dwindles (hs : Sole living (w, s)) (hw : w'.observer = w.observer)
    (h : Dwindles living s t) : Sole living (w', t) := fun o ho => hw.trans (hs o (h o ho))

/-- Where the observer that is held is dead, none lives. -/
theorem Sole.none_of_dead {o : O} (hs : Sole living (w, s)) (hw : w.observer = some o)
    (dead : ¬ living s o) (o' : O) : ¬ living s o' := by
  intro ha
  cases hw.symm.trans (hs o' ha)
  exact dead ha

theorem Sole.of_none (h : ∀ o, ¬ living s o) : Sole living (w, s) := fun o ho => absurd ho (h o)

end Sole

variable [Mailboxed σ] [Log.Logbook σ] {h : Host T O σ} {living : σ → O → Prop} {cwd : Path}

/-! ## 1. The observer -/

theorem observe_dwindles (ht : Tame h living) (cwd : Path) (w : Watcher T O) (s : σ) :
    Ends (observe h cwd w) s fun _ t => Dwindles living s t := by
  have scheduled (o : O) (f : Filter) (ds : List Path) : ∀ t, Dwindles living s t →
      Ends (Action.each (h.schedule o f) ds) t fun _ u => Dwindles living s u := by
    induction ds with
    | nil => exact fun _ hst => hst
    | cons d ds ih =>
      exact fun t hst => ((ht.schedule o f d t).mono fun _ _ htu => hst.trans htu).seq
        (fun _ hu => hu) fun _ => ih
  exact (ht.build s).seq (fun _ hst => hst) fun o t hst =>
    (scheduled o _ _ t hst).seq (fun _ hu => hu) fun _ _ hu => hu

/-- Where no observer lives, the one that is held can be started. -/
theorem start_host_sole (ht : Tame h living) {w : Watcher T O} {s : σ} {o : O}
    (none : ∀ o, ¬ living s o) (hw : w.observer = some o) :
    Ends (h.start o).inner (w, s) fun _ y => Sole living y := by
  intro o' ho
  rcases ht.start o s o' ho with before | rfl
  · exact absurd before (none o')
  · exact hw

/-- However a replacement ends, no observer lives but the one that is held. -/
theorem replace_sole (ht : Tame h living) {w : Watcher T O} {s : σ} (none : ∀ o, ¬ living s o)
    (dead : O) : Ends (replace h cwd dead) (w, s) fun _ y => Sole living y := by
  refine Ends.of_modify ?_
  have stopped (s : σ) (none : ∀ o, ¬ living s o) :
      Ends (h.stop dead).inner (w, s) fun _ y => ∀ o, ¬ living y.2 o := (ht.stop dead s).none none
  refine (stopped _ ((ht.note _ s).none none)).seq (fun y hy => .of_none hy) fun _ y none => ?_
  obtain ⟨w, t⟩ := y
  refine Ends.of_read ?_
  have observed : Ends (observe h cwd w).inner (w, t) fun _ y => ∀ o, ¬ living y.2 o :=
    (observe_dwindles ht cwd w t).none none
  refine observed.seq (fun y hy => .of_none hy) fun o y none => Ends.of_modify ?_
  refine (start_host_sole ht none rfl).seq (fun _ hy => hy) fun _ z sole => Ends.of_modify ?_
  exact sole.dwindles rfl ((ht.note _ z.2).trans (ht.update _ _))

/-- However the look at the observer ends, no observer lives but the one that is held. -/
theorem ensureAlive_sole (ht : Tame h living) {w : Watcher T O} {s : σ} (hs : Sole living (w, s)) :
    Ends (ensureAlive h cwd) (w, s) fun _ y => Sole living y := by
  refine Ends.of_read ?_
  cases held : w.observer with
  | none => exact hs
  | some o =>
    refine Ends.of_read ?_
    split
    · exact hs
    · have asked : Ends (h.alive o).inner (w, s) fun r y => y.1 = w ∧
          Dwindles living s y.2 ∧ (r = .done false → ¬ living y.2 o) := ⟨rfl, ht.alive o s⟩
      have stays {y : Watcher T O × σ} (hw : y.1 = w) (hd : Dwindles living s y.2) :
          Sole living y :=
        hs.dwindles (congrArg observer hw) hd
      refine asked.bind (fun b y hy => ?_) (fun _ y hy => stays hy.1 hy.2.1)
        fun y hy => stays hy.1 hy.2.1
      obtain ⟨hw, hd, dead⟩ := hy
      cases b with
      | true => exact stays hw hd
      | false =>
        have held : y.1.observer = some o := hw ▸ held
        exact replace_sole ht ((stays hw hd).none_of_dead held (dead rfl)) o

/-! ## 2. Waiting -/

omit [Mailboxed σ] [Log.Logbook σ] in
/-- While others act, no observer comes to life. -/
theorem Sole.while_others {α : Type} {x : Action (Watcher T O × σ) α} {y : Watcher T O × σ}
    (hs : Sole living y)
    (hx : ∀ w s, Ends x (w, s) fun _ y => y.1 = w ∧ Dwindles living s y.2) :
    Ends x y fun _ y => Sole living y :=
  (hx y.1 y.2).mono fun _ _ h => hs.dwindles (congrArg observer h.1) h.2

/-- A property of the watcher and its surroundings that nothing in a wait breaks, apart from the look
    at the observer. -/
structure Endures (h : Host T O σ) (P : Watcher T O × σ → Prop) : Prop where
  mail {y} (f : Mailbox → Mailbox) : P y → P (Mailboxed.update f y)
  note {y} (r : Log.Record) : P y → P (Log.Logbook.note r y)
  count {y : Watcher T O × σ} (n : Nat) : P y → P ({ y.1 with seq := n }, y.2)
  await {y} (timeout : Option T) : P y → Ends (h.await timeout) y fun _ z => P z
  pause {y} (time : T) : P y → Ends (h.pause time) y fun _ z => P z
  others {y} : P y → Ends h.others y fun _ z => P z

theorem Endures.sole (ht : Tame h living) : Endures h (Sole living) where
  mail f hy := hy.dwindles rfl (ht.update f _)
  note r hy := hy.dwindles rfl (ht.note r _)
  count _ hy := hy
  await timeout hy := hy.while_others (ht.await timeout)
  pause time hy := hy.while_others (ht.pause time)
  others hy := hy.while_others ht.others

namespace Endures

variable {P : Watcher T O × σ → Prop} (he : Endures h P) {y : Watcher T O × σ}
include he

theorem take (hy : P y) : Ends (Watcher.take h) y fun _ z => P z :=
  Ends.of_read (Ends.of_modify ((he.others (he.mail _ hy)).seq (fun _ hz => hz) fun _ _ hz => hz))

theorem fire (path : String) (hy : P y) : Ends (Watcher.fire h path) y fun _ z => P z :=
  Ends.of_modify ((he.others (he.mail _ hy)).seq (fun _ hz => hz) fun _ _ hz =>
    Ends.of_modify (Ends.of_read (Ends.of_modify (he.note _ (he.count _ hz)))))

variable [LT T] [DecidableLT T] [Zero T]

theorem settle (hy : P y) : Ends (Watcher.settle h) y fun _ z => P z := by
  refine Ends.of_read ?_
  split
  · exact he.pause _ hy
  · exact hy

variable (looked : ∀ {y}, P y → Ends (ensureAlive h cwd) y fun _ z => P z)
include looked

theorem wait (timeout : Option T) (hy : P y) :
    Ends (Watcher.wait h cwd timeout) y fun _ z => P z := by
  have collected : Ends (collect h cwd timeout) y fun _ z => P z := by
    refine (looked hy).seq (fun _ hz => hz) fun _ z hz => ?_
    split
    · exact hz
    · exact (he.await timeout hz).seq (fun _ hz => hz) fun _ _ => he.take
  refine collected.seq (fun _ hz => hz) fun path z hz => ?_
  cases path with
  | none => exact hz
  | some path =>
    refine (he.settle hz).seq (fun _ hz => hz) fun stopped z hz => ?_
    cases stopped with
    | true => exact hz
    | false => exact he.fire path hz

/-- What a wait keeps, an iterator keeps. -/
theorem next (poll : T) (patience : Nat) (hy : P y) :
    Ends (Watcher.next h cwd poll patience) y fun _ z => P z := by
  induction patience generalizing y with
  | zero => exact hy
  | succ patience ih =>
    refine Ends.of_read ?_
    split
    · exact hy
    · refine (he.wait looked (some poll) hy).seq (fun _ hz => hz) fun answer z hz => ?_
      cases answer with
      | some trigger => exact hz
      | none => exact ih hz

end Endures

variable [LT T] [DecidableLT T] [Zero T]

/-- **However a wait ends, no observer lives but the one that is held.** -/
theorem wait_sole (ht : Tame h living) (timeout : Option T) {y : Watcher T O × σ}
    (hs : Sole living y) : Ends (wait h cwd timeout) y fun _ y => Sole living y :=
  (Endures.sole ht).wait (ensureAlive_sole ht) timeout hs

/-! ## 3. From the start to the stop -/

omit [LT T] [DecidableLT T] [Zero T] in
theorem firstMissing_dwindles (ht : Tame h living) (ps : List Path) (s : σ) :
    Ends (firstMissing h ps) s fun _ t => Dwindles living s t := by
  have from_here : ∀ t, Dwindles living s t →
      Ends (firstMissing h ps) t fun _ u => Dwindles living s u := by
    induction ps with
    | nil => exact fun _ hst => hst
    | cons p ps ih =>
      intro t hst
      refine ((ht.present p t).mono fun _ _ htu => hst.trans htu).seq (fun _ hu => hu) ?_
      intro present u hu
      cases present with
      | true => exact ih u hu
      | false => exact hu
  exact from_here s (.refl s)

omit [LT T] [DecidableLT T] [Zero T] in
theorem beginObserving_only (ht : Tame h living) (cwd : Path) (w : Watcher T O) {s : σ}
    (none : ∀ o, ¬ living s o) : Ends (beginObserving h cwd w) s fun r t =>
      ∀ o, r = .done o → ∀ o', living t o' → o' = o := by
  have observing : Ends (do
      let o ← observe h cwd w
      h.start o
      pure o : Action σ O) s fun r t => ∀ o, r = .done o → ∀ o', living t o' → o' = o := by
    have observed : Ends (observe h cwd w) s fun _ t => ∀ o, ¬ living t o :=
      (observe_dwindles ht cwd w s).none none
    refine observed.bind (fun o t none => ?_) (fun _ _ _ => nofun) fun _ _ => nofun
    refine (ht.start o t).bind (fun _ u started => ?_) (fun _ _ _ => nofun) fun _ _ => nofun
    rintro _ ⟨⟩ o' ho
    exact (started o' ho).resolve_left (none o')
  refine observing.recover (fun _ _ h => h) (fun f t y _ hy => ?_) (fun _ _ _ _ => nofun)
    fun _ _ => nofun
  split at hy
  · cases hy
    exact nofun
  · cases hy

omit [LT T] [DecidableLT T] [Zero T] in
/-- A watcher that was started where no observer lived holds the only one that lives. -/
theorem start_sole (ht : Tame h living) (w : Watcher T O) {s : σ} (none : ∀ o, ¬ living s o) :
    Ends (start h cwd) (w, s) fun r y => r = .done () → Sole living y := by
  refine Ends.of_read ?_
  have looked : Ends (firstMissing h w.paths).inner (w, s) fun _ y => ∀ o, ¬ living y.2 o :=
    (firstMissing_dwindles ht w.paths s).none none
  refine looked.bind (fun missing y none => ?_) (fun _ _ _ => nofun) fun _ _ => nofun
  cases missing with
  | some p => exact nofun
  | none =>
    refine Ends.of_modify ?_
    have begun : Ends (beginObserving h cwd w).inner (Mailboxed.update .resume y) fun r y =>
        ∀ o, r = .done o → ∀ o', living y.2 o' → o' = o :=
      beginObserving_only ht cwd w ((ht.update .resume y.2).none none)
    refine begun.bind (fun o z only => ?_) (fun _ _ _ => nofun) fun _ _ => nofun
    refine Ends.of_modify fun _ o' ho => ?_
    exact congrArg some (only o rfl o' (ht.note _ z.2 o' ho)).symm

/-- An observer that is told to stop has ended once it was joined, and nobody starts the watcher
    again meanwhile. -/
structure Dismissive (h : Host T O σ) (living : σ → O → Prop) : Prop where
  note (r : Log.Record) (s : σ) :
    (Mailboxed.mailbox (Log.Logbook.note r s)).stopped = (Mailboxed.mailbox s).stopped
  dismiss (o s) : Ends (do h.stop o; if ← h.alive o then h.join o joinLimit) s fun r t =>
    r = .done () ∧ Dwindles living s t ∧ ¬ living t o ∧
      (Mailboxed.mailbox t).stopped = (Mailboxed.mailbox s).stopped

omit [LT T] [DecidableLT T] [Zero T] [Mailboxed σ] [Log.Logbook σ] in
/-- What is done to an observer on its own is done to it while it is held. -/
theorem dismiss_inner {o : O} {w : Watcher T O} {s : σ} {P : σ → Prop}
    {k : Action (Watcher T O × σ) Unit} {Q : Outcome Unit → Watcher T O × σ → Prop}
    (hd : Ends (do h.stop o; if ← h.alive o then h.join o joinLimit) s
      fun r t => r = .done () ∧ P t) (hk : ∀ t, P t → Ends k (w, t) Q) :
    Ends (do
      (h.stop o).inner
      if ← (h.alive o).inner then (h.join o joinLimit).inner
      k) (w, s) Q := by
  unfold Ends at hd hk ⊢
  rcases stop : h.stop o s with ⟨r, t⟩
  rcases alive : h.alive o t with ⟨b, u⟩
  rcases join : h.join o joinLimit u with ⟨r', v⟩
  cases r with
  | raised f => simp [Action.after, stop] at hd
  | unfinished => simp [Action.after, stop] at hd
  | done _ =>
    cases b with
    | raised f => simp [Action.after, stop, alive] at hd
    | unfinished => simp [Action.after, stop, alive] at hd
    | done b =>
      cases b with
      | false =>
        have ended : P u := by simpa [Action.after, stop, alive] using hd
        simpa [Action.after, stop, alive] using hk u ended
      | true =>
        cases r' with
        | raised f => simp [Action.after, stop, alive, join] at hd
        | unfinished => simp [Action.after, stop, alive, join] at hd
        | done _ =>
          have ended : P v := by simpa [Action.after, stop, alive, join] using hd
          simpa [Action.after, stop, alive, join] using hk v ended

omit [LT T] [DecidableLT T] [Zero T] in
/-- **A stop leaves no observer.** -/
theorem stop_ends (ht : Tame h living) (hd : Dismissive h living) {y : Watcher T O × σ}
    (hs : Sole living y) : Ends (stop h) y fun r z => r = .done () ∧ z.1.observer = none ∧
      (∀ o, ¬ living z.2 o) ∧ (Mailboxed.mailbox z).stopped = true := by
  obtain ⟨w, s⟩ := y
  have told : (Mailboxed.mailbox (Mailboxed.update Mailbox.stop s)).stopped = true := by
    rw [Mailboxed.mailbox_update]
    rfl
  have sole : Sole living (w, Mailboxed.update .stop s) := hs.dwindles rfl (ht.update .stop s)
  refine Ends.of_modify (Ends.of_read ?_)
  cases held : w.observer with
  | none =>
    refine ⟨rfl, held, fun o ho => ?_, told⟩
    exact nomatch held.symm.trans (sole o ho)
  | some o =>
    refine dismiss_inner (hd.dismiss o _) fun t ended => ?_
    obtain ⟨dwindles, dead, stopped⟩ := ended
    refine Ends.of_modify ⟨rfl, rfl, fun o' ho => ?_, ?_⟩
    · have none := (sole.dwindles rfl dwindles).none_of_dead held dead
      exact none o' (ht.note _ t o' ho)
    · exact (hd.note _ t).trans (stopped.trans told)

end Watcher

end Respawn.Watch
