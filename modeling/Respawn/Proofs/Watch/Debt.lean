import Respawn.Proofs.Watch.View

/-!
# What the watcher owes

A change that was not handed out as a trigger is owed: either it is pending, or the observer that
should have seen it is dead, and its replacement stands for it. Every step of a wait keeps what is
owed until a change is taken, and a wait that comes back with nothing owed nothing when it began.

* `owed_of_news`: what happens while others act is owed;
* `ensureAlive_ends`: what is owed is pending once the observer lives;
* `Takes`: what is left once a change is taken;
* `wait_ends`: all the ways in which a wait can end.
-/

namespace Respawn.Watch

open Respawn.Action (Ends)

variable {T O σ : Type}

namespace Watcher

/-! ## 1. Debts -/

/-- The watcher was started, and what it takes for its observer does look at all of its directories,
    if it lives. -/
def Sound (cwd : Path) (w : Watcher T O) (v : View O) : Prop :=
  v.mailbox.stopped = false ∧ ∃ o, w.observer = some o ∧
    (v.alive o → ∀ d ∈ w.directories, v.duties o (w.filter cwd) d)

/-- The watcher owes a trigger. -/
def Owed (w : Watcher T O) (v : View O) : Prop :=
  v.mailbox.pending.isSome = true ∨ ∃ o, w.observer = some o ∧ ¬ v.alive o

/-- An event that the watcher is there for. -/
def Concerns (cwd : Path) (w : Watcher T O) (c : Sighting) : Prop :=
  c.directory ∈ w.directories ∧ ((w.filter cwd).report cwd c.event).isSome = true

instance (cwd : Path) (w : Watcher T O) (c : Sighting) : Decidable (w.Concerns cwd c) :=
  inferInstanceAs (Decidable (_ ∧ _))

/-- Something that concerns the watcher has happened since an earlier view. -/
def News (cwd : Path) (w : Watcher T O) (v v' : View O) : Prop :=
  ∃ c ∈ v'.history.drop v.history.length, w.Concerns cwd c

section Others

variable {cwd : Path} {w : Watcher T O} {v v' v'' : View O}

theorem Sound.later (h : w.Sound cwd v) (hl : Later v v') : w.Sound cwd v' := by
  obtain ⟨hs, o, ho, hd⟩ := h
  exact ⟨hl.stopped.trans hs, o, ho, fun ha d hm => hl.duties (hd (hl.alive ha) d hm)⟩

theorem Owed.later (h : w.Owed v) (hl : Later v v') : w.Owed v' := by
  rcases h with hp | ⟨o, ho, hd⟩
  · exact .inl (hl.isSome_pending hp)
  · exact .inr ⟨o, ho, fun ha => hd (hl.alive ha)⟩

/-- An event that concerns the watcher is owed: a living observer has handed it on, and a dead one
    has to be replaced. -/
theorem owed_of_sighted {c : Sighting} (hs : w.Sound cwd v) (hc : w.Concerns cwd c)
    (h : Sighted cwd c v v') : w.Owed v' := by
  obtain ⟨-, o, ho, hd⟩ := hs
  cases h with
  | delivered alive duty report => exact .inl (Mailbox.pending_post _ _)
  | missed unseen =>
    refine .inr ⟨o, ho, fun ha => ?_⟩
    have reported := hc.2
    rw [unseen o _ ha (hd ha _ hc.1)] at reported
    cases reported

theorem not_news_self (v : View O) : ¬ w.News cwd v v := by
  intro h
  obtain ⟨c, hm, -⟩ := h
  simp at hm

/-- News since a view is news up to a later one, or news since that one. -/
theorem News.split (h : w.News cwd v v'') (hl : v.history <+: v'.history)
    (hl' : v'.history <+: v''.history) : w.News cwd v v' ∨ w.News cwd v' v'' := by
  obtain ⟨c, hm, hc⟩ := h
  obtain ⟨old, ho⟩ := hl
  obtain ⟨new, hn⟩ := hl'
  rw [← hn, ← ho] at hm
  simp only [List.append_assoc, List.drop_left] at hm
  rcases List.mem_append.1 hm with hm | hm
  · exact .inl ⟨c, by rw [← ho, List.drop_left]; exact hm, hc⟩
  · exact .inr ⟨c, by rw [← hn, List.drop_left]; exact hm, hc⟩

/-- What happens while others act is owed. -/
theorem owed_of_news (hs : w.Sound cwd v) (h : Passes cwd v v') (hn : w.News cwd v v') :
    w.Owed v' := by
  induction h with
  | refl => exact absurd hn (not_news_self v)
  | @tail a b ha hb ih =>
    rcases hn.split (Passes.later ha).history hb.later.history with hn | ⟨c, hm, hc⟩
    · exact (ih hn).later hb.later
    · have hs := hs.later (Passes.later ha)
      cases hb with
      | sighted c' h =>
        rw [h.history, List.drop_left, List.mem_singleton] at hm
        exact owed_of_sighted hs (hm ▸ hc) h
      | died o => simp [View.bury] at hm
      | enlisted o f d => simp [View.enlist] at hm

end Others

/-! ## 2. Steps that keep what is owed -/

/-- A step after which the watcher is as sound as before. It may have taken another observer and
    counted further, and nothing else of it has changed. -/
structure Continues (cwd : Path) (w : Watcher T O) (v : View O) (w' : Watcher T O) (v' : View O) :
    Prop where
  same : w' = { w with observer := w'.observer, seq := w'.seq }
  sound : w'.Sound cwd v'
  history : v.history <+: v'.history

/-- A step after which the watcher still owes what it owed, and owes what has happened meanwhile. -/
structure Goes (cwd : Path) (w : Watcher T O) (v : View O) (w' : Watcher T O) (v' : View O) :
    Prop extends Continues cwd w v w' v' where
  seq : w'.seq = w.seq
  pending : v.mailbox.pending.isSome = true → v'.mailbox.pending = v.mailbox.pending
  owed : w.Owed v ∨ w.News cwd v v' → w'.Owed v'

/-- A step that took a change and counted no trigger for it. What was pending when it was taken is
    pending no more, unless it happens again. -/
structure Takes (cwd : Path) (w : Watcher T O) (v : View O) (w' : Watcher T O) (v' : View O) :
    Prop extends Continues cwd w v w' v' where
  seq : w'.seq = w.seq
  emptied : ∃ u : View O, v.history <+: u.history ∧ u.mailbox.pending = none ∧ Passes cwd u v'

section Steps

variable {cwd : Path} {w w' w'' : Watcher T O} {v v' v'' : View O}

theorem Continues.trans (h : Continues cwd w v w' v') (h' : Continues cwd w' v' w'' v'') :
    Continues cwd w v w'' v'' :=
  ⟨by rw [h'.same, h.same], h'.sound, h.history.trans h'.history⟩

theorem Continues.news (h : Continues cwd w v w' v') {u u' : View O} (hn : w.News cwd u u') :
    w'.News cwd u u' := by
  rw [h.same]
  exact hn

theorem Continues.of_drained (hs : w.Sound cwd v) (h : Passes cwd (v.mail .drain) v') :
    Continues cwd w v w v' :=
  ⟨rfl, Sound.later (v := v.mail .drain) hs h.later, h.later.history⟩

theorem Goes.of_passes (hs : w.Sound cwd v) (h : Passes cwd v v') : Goes cwd w v w v' where
  same := rfl
  sound := hs.later h.later
  history := h.later.history
  seq := rfl
  pending := h.later.pending
  owed
    | .inl ho => ho.later h.later
    | .inr hn => owed_of_news hs h hn

theorem Goes.trans (h : Goes cwd w v w' v') (h' : Goes cwd w' v' w'' v'') :
    Goes cwd w v w'' v'' where
  toContinues := h.toContinues.trans h'.toContinues
  seq := h'.seq.trans h.seq
  pending hp := by
    have := h.pending hp
    rw [h'.pending (this ▸ hp), this]
  owed
    | .inl ho => h'.owed (.inl (h.owed (.inl ho)))
    | .inr hn =>
      match hn.split h.history h'.history with
      | .inl hn => h'.owed (.inl (h.owed (.inr hn)))
      | .inr hn => h'.owed (.inr (h.news hn))

theorem Takes.passes (h : Takes cwd w v w' v') (later : Passes cwd v' v'') :
    Takes cwd w v w' v'' where
  toContinues := h.toContinues.trans (Goes.of_passes h.sound later).toContinues
  seq := h.seq
  emptied := h.emptied.imp fun _ taken => ⟨taken.1, taken.2.1, taken.2.2.trans later⟩

/-- A step that ends with a debt. -/
theorem Goes.of_owed {o : O} (sound : { w with observer := some o }.Sound cwd v')
    (h : Retains v v') (ho : { w with observer := some o }.Owed v') :
    Goes cwd w v { w with observer := some o } v' :=
  ⟨⟨rfl, sound, h.history⟩, rfl, h.pending, fun _ => ho⟩

end Steps

/-! ## 3. The observer -/

variable [Mailboxed σ] [Log.Logbook σ] {h : Host T O σ} {cwd : Path} {view : σ → View O}

/-- An observer that was given a list of directories looks at all of them. -/
theorem scheduled_ends (hf : Faithful h cwd view) (o : O) (f : Filter) (ds : List Path) (s : σ) :
    Ends (Action.each (h.schedule o f) ds) s fun r t => r ≠ .unfinished ∧
      Passes cwd (view s) (view t) ∧ (r = .done () → ∀ d ∈ ds, (view t).duties o f d) := by
  induction ds generalizing s with
  | nil => exact ⟨nofun, .refl, fun _ => by simp⟩
  | cons d ds ih =>
    refine (hf.schedule o f d s).bind (fun _ t ht => ?_) (fun e t ht => ?_) (fun t ht => ?_)
    · obtain ⟨-, hp, hd⟩ := ht
      refine (ih t).mono fun r u hu => ⟨hu.1, hp.trans hu.2.1, fun hr => ?_⟩
      refine List.forall_mem_cons.2 ⟨?_, hu.2.2 hr⟩
      exact hu.2.1.later.duties (hd rfl)
    · exact ⟨nofun, ht.2.1, nofun⟩
    · exact absurd rfl ht.1

theorem observe_ends (hf : Faithful h cwd view) (w : Watcher T O) (s : σ) :
    Ends (observe h cwd w) s fun r t => r ≠ .unfinished ∧ Passes cwd (view s) (view t) ∧
      ∀ o, r = .done o → ¬ (view t).alive o ∧
        ∀ d ∈ w.directories, (view t).duties o (w.filter cwd) d := by
  refine (hf.build s).bind (fun o t ht => ?_) (fun e t ht => ?_) (fun t ht => ?_)
  · obtain ⟨-, hp, ha⟩ := ht
    refine (scheduled_ends hf o (w.filter cwd) w.directories t).bind (fun _ u hu => ?_)
      (fun e u hu => ?_) (fun u hu => ?_)
    · refine ⟨nofun, hp.trans hu.2.1, fun o' ho => ?_⟩
      cases ho
      exact ⟨fun hl => ha o rfl (hu.2.1.later.alive hl), hu.2.2 rfl⟩
    · exact ⟨nofun, hp.trans hu.2.1, nofun⟩
    · exact absurd rfl hu.1
  · exact ⟨nofun, ht.2.1, nofun⟩
  · exact absurd rfl ht.1

/-- What is left to be done once a new observer was given its directories. -/
theorem adopt_ends (hf : Faithful h cwd view) {w : Watcher T O} {s t : σ} {n : O}
    (hs : w.Sound cwd (view s)) (hp : Passes cwd (view s) (view t)) (hdead : ¬ (view t).alive n)
    (hd : ∀ d ∈ w.directories, (view t).duties n (w.filter cwd) d) :
    Ends (do
      (h.start n).inner
      .log .info logger "Observer restarted."
      mail (.post (w.directoryTexts.headD "")) : Action (Watcher T O × σ) Unit)
      ({ w with observer := some n }, t) fun r y => r ≠ .unfinished ∧
      Goes cwd w (view s) y.1 (view y.2) ∧
      (r = .done () → (view y.2).mailbox.pending.isSome = true) := by
  have hl := hp.later.toRetains
  refine ((hf.start n t).inner _).bind ?_ ?_ fun y hy => absurd rfl hy.2.1
  · -- The new observer lives: from here on only the change that is posted keeps the debt.
    intro _ y hy
    obtain ⟨_, u⟩ := y
    obtain ⟨rfl, -, hdone, -⟩ := hy
    obtain ⟨v, hv, hu⟩ := hdone rfl
    have hlv := hv.later.toRetains
    have hlu := (Retains.woken v n).trans hu.later.toRetains
    have kept := ((hl.trans hlv).trans hlu).trans (.posted (view u) (w.directoryTexts.headD ""))
    have posted := Mailbox.pending_post (w.directoryTexts.headD "") (view u).mailbox
    refine Ends.of_modify ⟨nofun, ?_⟩
    show Goes cwd w (view s) { w with observer := some n }
        (view (Mailboxed.update _ (Log.Logbook.note ⟨.info, logger, _⟩ u))) ∧
      (_ → (view (Mailboxed.update _ (Log.Logbook.note ⟨.info, logger, _⟩ u))).mailbox.pending.isSome)
    rw [hf.update, hf.note]
    refine ⟨.of_owed ⟨kept.stopped.trans hs.1, n, rfl, fun _ d hm => ?_⟩ kept (.inl posted),
      fun _ => posted⟩
    exact hlu.duties (hlv.duties (hd d hm))
  · -- The start failed: the watcher is left with an observer that does not live.
    intro e y hy
    obtain ⟨_, u⟩ := y
    obtain ⟨rfl, -, -, hraised⟩ := hy
    have hq := hraised nofun
    have kept := hl.trans hq.later.toRetains
    have dead : ¬ (view u).alive n := fun ha => hdead (hq.later.alive ha)
    refine ⟨nofun, .of_owed ⟨kept.stopped.trans hs.1, n, rfl, ?_⟩ kept (.inr ⟨n, rfl, dead⟩),
      nofun⟩
    exact fun ha => absurd ha dead

/-- A replacement that succeeds leaves a change pending; one that does not leaves the watcher with a
    dead observer. -/
theorem replace_ends (hf : Faithful h cwd view) {w : Watcher T O} {s : σ}
    (hs : w.Sound cwd (view s)) (dead : O) :
    Ends (replace h cwd dead) (w, s) fun r y => r ≠ .unfinished ∧
      Goes cwd w (view s) y.1 (view y.2) ∧
      (r = .done () → (view y.2).mailbox.pending.isSome = true) := by
  refine Ends.of_modify (((hf.stop dead _).inner w).bind ?_ ?_ fun y hy => absurd rfl hy.2.1)
  · intro _ y hy
    obtain ⟨_, t⟩ := y
    obtain ⟨rfl, -, hp⟩ := hy
    rw [hf.note] at hp
    refine Ends.of_read (((observe_ends hf _ t).inner _).bind ?_ ?_ fun y hy => absurd rfl hy.2.1)
    · intro n y hy
      obtain ⟨_, u⟩ := y
      obtain ⟨rfl, -, hq, hn⟩ := hy
      obtain ⟨hdead, hd⟩ := hn n rfl
      exact Ends.of_modify (adopt_ends hf hs (hp.trans hq) hdead hd)
    · intro e y hy
      obtain ⟨_, u⟩ := y
      obtain ⟨rfl, -, hq, -⟩ := hy
      exact ⟨nofun, .of_passes hs (hp.trans hq), nofun⟩
  · intro e y hy
    obtain ⟨_, t⟩ := y
    obtain ⟨rfl, -, hp⟩ := hy
    rw [hf.note] at hp
    exact ⟨nofun, .of_passes hs hp, nofun⟩

/-- Once the observer was seen to, what is owed is pending. -/
theorem ensureAlive_ends (hf : Faithful h cwd view) {w : Watcher T O} {s : σ}
    (hs : w.Sound cwd (view s)) :
    Ends (ensureAlive h cwd) (w, s) fun r y => r ≠ .unfinished ∧
      Goes cwd w (view s) y.1 (view y.2) ∧
      (r = .done () → w.Owed (view s) → (view y.2).mailbox.pending.isSome = true) := by
  obtain ⟨hstop, o, ho, -⟩ := id hs
  refine Ends.of_read ?_
  simp only [ho]
  refine Ends.of_read ?_
  have hstop' : (Mailboxed.mailbox (w, s)).stopped = false := by
    rw [mailbox_mk, ← hf.mailbox, hstop]
  rw [hstop']
  refine ((hf.alive o s).inner w).bind ?_ ?_ fun y hy => absurd rfl hy.2.1
  · intro b y hy
    obtain ⟨_, t⟩ := y
    obtain ⟨rfl, -, hp, htrue⟩ := hy
    obtain ⟨v, hv, -, hb⟩ := htrue b rfl
    cases b with
    | true =>
      refine ⟨nofun, .of_passes hs hp, fun _ howed => ?_⟩
      rcases howed with hpend | ⟨o', ho', hdead⟩
      · exact hp.later.isSome_pending hpend
      · cases ho.symm.trans ho'
        exact absurd (hv.later.alive (hb.1 rfl)) hdead
    | false =>
      refine (replace_ends hf (hs.later hp.later) o).mono fun r y hy => ?_
      exact ⟨hy.1, (Goes.of_passes hs hp).trans hy.2.1, fun hr _ => hy.2.2 hr⟩
  · intro e y hy
    obtain ⟨_, t⟩ := y
    obtain ⟨rfl, -, hp, -⟩ := hy
    exact ⟨nofun, .of_passes hs hp, nofun⟩

theorem beginObserving_ends (hf : Faithful h cwd view) (w : Watcher T O) (s : σ) :
    Ends (beginObserving h cwd w) s fun r t => ∀ o, r = .done o →
      (view t).mailbox.stopped = (view s).mailbox.stopped ∧
        ∀ d ∈ w.directories, (view t).duties o (w.filter cwd) d := by
  let Ready (r : Outcome O) (t : σ) : Prop := ∀ o, r = .done o →
    (view t).mailbox.stopped = (view s).mailbox.stopped ∧
      ∀ d ∈ w.directories, (view t).duties o (w.filter cwd) d
  have observing : Ends (do
      let o ← observe h cwd w
      h.start o
      pure o : Action σ O) s Ready := by
    refine (observe_ends hf w s).bind ?_ (fun e y hy => nofun) fun y hy => nofun
    intro n u hy
    obtain ⟨-, hp, hn⟩ := hy
    refine (hf.start n u).bind ?_ (fun e y hy => nofun) fun y hy => nofun
    rintro _ x ⟨-, hdone, -⟩ o ⟨⟩
    obtain ⟨v, hv, hx⟩ := hdone rfl
    have kept := (hv.later.toRetains.trans (.woken v n)).trans hx.later.toRetains
    refine ⟨kept.stopped.trans hp.later.stopped, fun d hd => kept.duties ((hn n rfl).2 d hd)⟩
  refine observing.recover (fun _ _ ho => ho) ?_ (fun e t _ _ => nofun) fun t _ => nofun
  intro e t y _ hy
  split at hy
  · cases hy
    exact nofun
  · cases hy

/-- A watcher that was started is sound. -/
theorem start_ends (hf : Faithful h cwd view) (w : Watcher T O) (s : σ) :
    Ends (start h cwd) (w, s) fun r y => r = .done () → y.1.Sound cwd (view y.2) := by
  refine Ends.of_read ?_
  have missing : Ends (firstMissing h w.paths) s fun _ _ => True := trivial
  refine (missing.inner w).bind ?_ (fun e y hy => nofun) fun y hy => nofun
  rintro (_ | p) ⟨w', t⟩ ⟨hw, -⟩
  · obtain rfl : w = w' := hw.symm
    refine Ends.of_modify ?_
    refine ((beginObserving_ends hf w (Mailboxed.update .resume t)).inner w).bind ?_
      (fun e y hy => nofun) fun y hy => nofun
    intro n y hy
    obtain ⟨_, u⟩ := y
    obtain ⟨rfl, hu⟩ := hy
    obtain ⟨hs, hd⟩ := hu n rfl
    rw [hf.update] at hs
    refine Ends.of_modify fun _ => ?_
    show Sound cwd _ (view (Log.Logbook.note ⟨.debug, logger, _⟩ u))
    rw [hf.note]
    exact ⟨hs, n, rfl, fun _ => hd⟩
  · exact nofun

/-! ## 4. Waiting -/

theorem take_ends (hf : Faithful h cwd view) (w : Watcher T O) (s : σ) :
    Ends (take h) (w, s) fun r y => r = .done (view s).mailbox.pending ∧ y.1 = w ∧
      Passes cwd ((view s).mail .drain) (view y.2) := by
  refine Ends.of_read (Ends.of_modify ((hf.others w (Mailboxed.update .drain s)).bind_of_done ?_))
  intro y hy
  obtain ⟨_, t⟩ := y
  obtain ⟨rfl, hp⟩ := hy
  rw [hf.update] at hp
  exact ⟨congrArg _ (congrArg _ (hf.mailbox s).symm), rfl, hp⟩

theorem fire_ends (hf : Faithful h cwd view) {w : Watcher T O} {s : σ}
    (hs : w.Sound cwd (view s)) (path : String) :
    Ends (fire h path) (w, s) fun r y => r = .done (some ⟨w.seq + 1⟩) ∧
      Continues cwd w (view s) y.1 (view y.2) ∧ y.1.seq = w.seq + 1 := by
  refine Ends.of_modify ((hf.others w (Mailboxed.update .drain s)).bind_of_done ?_)
  intro y hy
  obtain ⟨_, t⟩ := y
  obtain ⟨rfl, hp⟩ := hy
  rw [hf.update] at hp
  obtain ⟨-, sound, history⟩ := Continues.of_drained hs hp
  refine Ends.of_modify (Ends.of_read (Ends.of_modify ⟨rfl, ⟨rfl, ?_, ?_⟩, rfl⟩))
  · exact (hf.note _ t).symm ▸ sound
  · exact (hf.note _ t).symm ▸ history

/-- How a wait ends: it gives the next trigger, or it gives none and nothing was owed when it began, or
    a fault ends it, before a change was taken or after. -/
def Waited (cwd : Path) (w : Watcher T O) (v : View O) (r : Outcome (Option Trigger))
    (w' : Watcher T O) (v' : View O) : Prop :=
  match r with
  | .done (some t) => t.seq = w.seq + 1 ∧ w'.seq = w.seq + 1 ∧ Continues cwd w v w' v'
  | .done none | .unfinished => Goes cwd w v w' v' ∧ ¬ w.Owed v
  | .raised _ => Goes cwd w v w' v' ∨ Takes cwd w v w' v'

theorem Waited.continues {cwd : Path} {w w' : Watcher T O} {v v' : View O}
    {r : Outcome (Option Trigger)}
    (hw : Waited cwd w v r w' v') : Continues cwd w v w' v' := by
  rcases r with (_ | t) | f | _
  · exact hw.1.toContinues
  · exact hw.2.2
  · exact hw.elim Goes.toContinues Takes.toContinues
  · exact hw.1.toContinues

variable [LT T] [DecidableLT T] [Zero T]

theorem settle_ends (hf : Faithful h cwd view) {w : Watcher T O} {s : σ}
    (hs : w.Sound cwd (view s)) :
    Ends (settle h) (w, s) fun r y => (r = .done false ∨ ∃ f, r = .raised f) ∧ y.1 = w ∧
      Passes cwd (view s) (view y.2) := by
  refine Ends.of_read ?_
  simp only
  split
  · refine (hf.pause w.debounce w s).mono fun r y hy => ?_
    obtain ⟨ended, same, passes, told⟩ := hy
    refine ⟨?_, same, passes⟩
    cases r with
    | done b => exact .inl (congrArg _ ((told b rfl).trans hs.1))
    | raised f => exact .inr ⟨f, rfl⟩
    | unfinished => exact absurd rfl ended
  · exact ⟨.inl rfl, rfl, .refl⟩

/-- How looking for a change ends: one is taken, or nothing was owed, or a fault left everything as it
    was. -/
theorem collect_ends (hf : Faithful h cwd view) {w : Watcher T O} {s : σ}
    (hs : w.Sound cwd (view s)) (timeout : Option T) :
    Ends (collect h cwd timeout) (w, s) fun r y =>
      match r with
      | .done (some _) => Takes cwd w (view s) y.1 (view y.2)
      | .done none | .unfinished => Goes cwd w (view s) y.1 (view y.2) ∧ ¬ w.Owed (view s)
      | .raised _ => Goes cwd w (view s) y.1 (view y.2) := by
  refine (ensureAlive_ends hf hs).bind ?_ (fun e y hy => hy.2.1) fun y hy => absurd rfl hy.1
  intro _ y hy
  obtain ⟨w', t⟩ := y
  obtain ⟨-, hg, howed⟩ := hy
  have howed := howed rfl
  split
  · exact hg
  · refine (hf.await timeout w' t).bind ?_ ?_ ?_
    · intro _ y hy
      obtain ⟨_, u⟩ := y
      obtain ⟨rfl, hp, -⟩ := hy
      have hg := hg.trans (.of_passes hg.sound hp)
      refine (take_ends hf _ u).mono ?_
      intro _ y hy
      obtain ⟨_, x⟩ := y
      obtain ⟨rfl, rfl, hq⟩ := hy
      cases hfound : (view u).mailbox.pending with
      | none =>
        rw [View.drain_of_none hfound] at hq
        refine ⟨hg.trans (.of_passes hg.sound hq), fun ho => ?_⟩
        have := hp.later.isSome_pending (howed ho)
        rw [hfound] at this
        cases this
      | some path =>
        exact ⟨hg.toContinues.trans (.of_drained hg.sound hq), hg.seq, (view u).mail .drain,
          hg.history, rfl, hq⟩
    · intro e y hy
      obtain ⟨_, u⟩ := y
      obtain ⟨rfl, hp, -⟩ := hy
      exact hg.trans (.of_passes hg.sound hp)
    · intro y hy
      obtain ⟨_, u⟩ := y
      obtain ⟨rfl, hp, hn⟩ := hy
      refine ⟨hg.trans (.of_passes hg.sound hp), fun ho => ?_⟩
      have := howed ho
      rw [hn rfl] at this
      cases this

/-- **How a wait ends.** -/
theorem wait_ends (hf : Faithful h cwd view) {w : Watcher T O} {s : σ}
    (hs : w.Sound cwd (view s)) (timeout : Option T) :
    Ends (wait h cwd timeout) (w, s) fun r y => Waited cwd w (view s) r y.1 (view y.2) := by
  refine (collect_ends hf hs timeout).bind ?_ (fun e y hy => .inl hy) fun y hy => hy
  rintro (_ | path) ⟨w', t⟩ hc
  · exact hc
  · have hc : Takes cwd w (view s) w' (view t) := hc
    refine (settle_ends hf hc.sound).bind ?_ ?_ ?_
    · intro stopped y hy
      obtain ⟨_, u⟩ := y
      obtain ⟨landed, rfl, hp⟩ := hy
      obtain rfl : stopped = false := landed.elim Outcome.done.inj fun ⟨f, hf⟩ => nomatch hf
      have hc := hc.passes hp
      refine (fire_ends hf hc.sound path).mono ?_
      intro _ y hy
      obtain ⟨w'', x⟩ := y
      obtain ⟨rfl, hfire, hnum⟩ := hy
      exact ⟨congrArg (· + 1) hc.seq, hnum.trans (congrArg (· + 1) hc.seq),
        hc.toContinues.trans hfire⟩
    · intro f y hy
      obtain ⟨_, u⟩ := y
      obtain ⟨-, rfl, hp⟩ := hy
      exact .inr (hc.passes hp)
    · intro y hy
      obtain ⟨never | ⟨f, never⟩, -⟩ := hy
      · cases never
      · cases never

end Watcher

end Respawn.Watch
