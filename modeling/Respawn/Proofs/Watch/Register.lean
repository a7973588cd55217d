import Respawn.Proofs.Watch.Images
import Respawn.Proofs.Watch.Lookout
import Respawn.Proofs.Watch.Numbering
import Respawn.Proofs.Watch.Observing
import Respawn.Proofs.Watch.Sole

/-!
# One observer at a time

An observer is built in two places: where the watcher is started, and where a dead observer is
replaced. A start that fails lets go of its observer, a replacement that fails keeps it. Here it is
entered in a register which observers have come to life and which were told to stop, and what is
true of the register is followed through whatever the consumer asks for.

* `registered_mirrors`, `perform_registered`: the register changes nothing;
* `replace_accounted`, `ensureAlive_accounted`, `start_accounted`, `stop_accounted`: what each step
  leaves behind, wherever it stops;
* `one_observer`: what is true in a whole service.
-/

namespace Respawn.Watch

open Respawn.Action (Agrees Without Concludes Covers Drifts Ends)
open Relation (ReflTransGen)

variable {T O σ : Type}

/-! ## 1. The register -/

/-- The observers that have come to life, and those that were told to stop. -/
structure Register (O : Type) where
  lived : List O
  told : List O
  deriving DecidableEq, Repr

namespace Register

def empty : Register O := ⟨[], []⟩

def enter (o : O) (r : Register O) : Register O := { r with lived := r.lived ++ [o] }

def dismiss (o : O) (r : Register O) : Register O := { r with told := r.told ++ [o] }

end Register

/-- What is asked of an observer, and an entry in the register once it is done. -/
def entering (f : Register O → Register O) (x : Action σ Unit) : Action (Register O × σ) Unit := do
  x.inner
  .modify fun y => (f y.1, y.2)

/-- A host with a register. -/
def Host.registered (h : Host T O σ) : Host T O (Register O × σ) :=
  { h.beside with
    start := fun o => entering (.enter o) (h.start o)
    stop := fun o => entering (.dismiss o) (h.stop o) }

theorem entering_agrees (f : Register O → Register O) (x : Action σ Unit) :
    Agrees Without (entering f x) x := by
  rintro ⟨r, s⟩ _ rfl
  show (entering f x (r, s)).1 = (x s).1 ∧ (entering f x (r, s)).2.2 = (x s).2
  rcases hx : x s with ⟨_ | _ | _, t⟩ <;> simp [entering, Action.after, hx]

/-- **The register changes nothing.** -/
theorem registered_mirrors [Mailboxed σ] [Log.Logbook σ] (h : Host T O σ) :
    h.registered.Mirrors Without h :=
  { beside_mirrors h with
    start := fun o => entering_agrees (.enter o) (h.start o)
    stop := fun o => entering_agrees (.dismiss o) (h.stop o) }

/-- A tame host on which a start that fails brings nothing to life, and on which an observer that was
    joined is dead. It may live on after it was told to stop, and it may die at any time. -/
structure Punctual [Mailboxed σ] [Log.Logbook σ] (h : Host T O σ) (living : σ → O → Prop) : Prop
    extends Tame h living where
  unstarted (o s) : Ends (h.start o) s fun r t => r ≠ .done () → Dwindles living s t
  join (o limit s) : Ends (h.join o limit) s fun r t =>
    Dwindles living s t ∧ (r = .done () → ¬ living t o)

/-- A host whose observers answer when they are stopped. -/
structure Obliging (h : Host T O σ) : Prop where
  stop (o) : Concludes (fun _ => False) (h.stop o)
  alive (o) : Concludes (fun _ => False) (h.alive o)
  join (o limit) : Concludes (fun _ => False) (h.join o limit)

theorem Obliging.registered {h : Host T O σ} (ho : Obliging h) :
    Obliging h.registered where
  stop o := (ho.stop o).inner.bind fun _ => .modify _
  alive o := (ho.alive o).inner
  join o limit := (ho.join o limit).inner

namespace Lookout

theorem punctual_host (cwd : Path) : Punctual (host cwd) fun s => s.view.alive where
  toTame := (faithful_host cwd).tame
  unstarted o s := by
    by_cases accepted : s.refusals = 0
    · have started : begin o s = (.done (), { s with living := o :: s.living }) := if_pos accepted
      exact Ends.of_result (x := begin o) started fun undone => absurd rfl undone
    · have refused : begin o s = (.raised refused, { s with refusals := s.refusals - 1 }) :=
        if_neg accepted
      exact Ends.of_result (x := begin o) refused fun _ _ living => living
  join o limit s := by
    have ended : Ends ((host cwd).join o limit) s fun _ t => t.view = s.view.bury o :=
      view_bury o s
    refine ended.mono fun _ t buried => ?_
    show Dwindles _ s t ∧ _
    simp only [Dwindles, buried]
    exact ⟨fun _ living => living.1, fun _ living => living.2 rfl⟩

theorem obliging_host (cwd : Path) : Obliging (host cwd) where
  stop _ := .modify _
  alive _ := .read _
  join _ _ := .modify _

end Lookout

/-! ## 2. What the register tells -/

/-- No observer comes to life, and nothing is entered. -/
def Fades (living : σ → O → Prop) (y z : Register O × σ) : Prop :=
  z.1 = y.1 ∧ Dwindles living y.2 z.2

/-- No observer lives, and those that did were told to stop. -/
structure Vacant (living : σ → O → Prop) (y : Register O × σ) : Prop where
  none : ∀ o, ¬ living y.2 o
  told : ∀ o ∈ y.1.lived, o ∈ y.1.told

/-- No observer lives but the one that is held, and none was let go of that was not told to stop. -/
structure Accounted (living : σ → O → Prop) (x : Watcher T O × Register O × σ) : Prop where
  sole : ∀ o, living x.2.2 o → x.1.observer = some o
  entered : ∀ o, living x.2.2 o → o ∈ x.2.1.lived
  dismissed : ∀ o ∈ x.2.1.lived, x.1.observer = some o ∨ o ∈ x.2.1.told

section Register

variable {living : σ → O → Prop} {w w' : Watcher T O} {y z : Register O × σ}

theorem Fades.trans {u : Register O × σ} (h : Fades living y z) (h' : Fades living z u) :
    Fades living y u := ⟨h'.1.trans h.1, h.2.trans h'.2⟩

theorem fades_of_moves (h : ReflTransGen (Fades living) y z) : Fades living y z := by
  induction h with
  | refl => exact ⟨rfl, .refl _⟩
  | tail _ last ih => exact ih.trans last

/-- What is asked for beside the register. -/
theorem inner_fades {α : Type} {x : Action σ α} (hx : ∀ s, Ends x s fun _ t => Dwindles living s t) :
    Drifts (Fades living) id (x.inner : Action (Register O × σ) α) :=
  .of_move fun y => ⟨rfl, hx y.2⟩

theorem Vacant.fades (hv : Vacant living y) (h : Fades living y z) : Vacant living z where
  none := h.2.none hv.none
  told := h.1 ▸ hv.told

theorem Vacant.accounted (hv : Vacant living y) (w : Watcher T O) : Accounted living (w, y) where
  sole o ho := absurd ho (hv.none o)
  entered o ho := absurd ho (hv.none o)
  dismissed o ho := .inr (hv.told o ho)

namespace Accounted

theorem fades (ha : Accounted living (w, y)) (hw : w'.observer = w.observer)
    (h : Fades living y z) : Accounted living (w', z) where
  sole o ho := hw.trans (ha.sole o (h.2 o ho))
  entered o ho := h.1 ▸ ha.entered o (h.2 o ho)
  dismissed := by
    rw [h.1, hw]
    exact ha.dismissed

/-- Whatever is told to stop, nothing is let go of. -/
theorem dismiss (ha : Accounted living (w, y)) (o : O) :
    Accounted living (w, y.1.dismiss o, y.2) where
  sole := ha.sole
  entered := ha.entered
  dismissed o' ho := (ha.dismissed o' ho).imp_right (List.mem_append_left _)

/-- Where the one that is held is dead and was told to stop, it can be let go of. -/
theorem vacant (ha : Accounted living (w, y)) {o : O} (held : w.observer = some o)
    (dead : ¬ living y.2 o) (told : o ∈ y.1.told) : Vacant living y where
  none o' ho := by
    cases held.symm.trans (ha.sole o' ho)
    exact dead ho
  told o' ho := by
    rcases ha.dismissed o' ho with still | before
    · cases held.symm.trans still
      exact told
    · exact before

theorem vacant_of_none (ha : Accounted living (w, y)) (held : w.observer = none) :
    Vacant living y where
  none o ho := nomatch held.symm.trans (ha.sole o ho)
  told o ho := (ha.dismissed o ho).resolve_left fun still => nomatch held.symm.trans still

end Accounted

/-- An observer that comes to life where none lives, and that is held. -/
theorem Vacant.enter (hv : Vacant living y) {o : O} (held : w.observer = some o) {s : σ}
    (born : ∀ o', living s o' → living y.2 o' ∨ o' = o) :
    Accounted living (w, y.1.enter o, s) := by
  have only (o' : O) (ho : living s o') : o' = o := (born o' ho).resolve_left (hv.none o')
  refine ⟨fun o' ho => ?_, fun o' ho => ?_, fun o' ho => ?_⟩
  · rw [only o' ho, held]
  · rw [only o' ho]
    exact List.mem_append_right _ (List.mem_singleton.2 rfl)
  · rcases List.mem_append.1 ho with before | last
    · exact .inr (hv.told o' before)
    · rw [List.mem_singleton.1 last]
      exact .inl held

end Register

/-! ## 3. The observers -/

namespace Watcher

variable [Mailboxed σ] [Log.Logbook σ] {h : Host T O σ} {living : σ → O → Prop} {cwd : Path}
  {w : Watcher T O} {y : Register O × σ}

theorem note_fades (ht : Tame h living) (r : Log.Record) (y : Register O × σ) :
    Fades living y (Log.Logbook.note r y) := ⟨rfl, ht.note r y.2⟩

theorem update_fades (ht : Tame h living) (f : Mailbox → Mailbox) (y : Register O × σ) :
    Fades living y (Mailboxed.update f y) := ⟨rfl, ht.update f y.2⟩

/-- An observer that is started where none lives. -/
theorem start_entered (hp : Punctual h living) (hv : Vacant living y) (o : O) :
    Ends (h.registered.start o) y fun r z => (r ≠ .done () → Vacant living z) ∧
      ∀ w : Watcher T O, w.observer = some o → Accounted living (w, z) := by
  obtain ⟨reg, s⟩ := y
  have refused {t : σ} (less : Dwindles living s t) : Vacant living (reg, t) := hv.fades ⟨rfl, less⟩
  have started := Ends.inner ((hp.start o s).and (hp.unstarted o s)) reg
  refine started.bind ?_ ?_ ?_
  · rintro _ ⟨_, t⟩ ⟨rfl, born, -⟩
    exact ⟨fun refused => absurd rfl refused, fun w held => hv.enter held born⟩
  · rintro f ⟨_, t⟩ ⟨rfl, -, less⟩
    exact ⟨fun _ => refused (less nofun), fun w _ => (refused (less nofun)).accounted w⟩
  · rintro ⟨_, t⟩ ⟨rfl, -, less⟩
    exact ⟨fun _ => refused (less nofun), fun w _ => (refused (less nofun)).accounted w⟩

/-- An observer that is told to stop is still held. -/
theorem stop_entered (ht : Tame h living) (o : O) (ha : Accounted living (w, y)) :
    Ends (h.registered.stop o).inner (w, y) fun r z => z.1 = w ∧ Accounted living (w, z.2) ∧
      Dwindles living y.2 z.2.2 ∧ (r = .done () → o ∈ z.2.1.told) := by
  obtain ⟨reg, s⟩ := y
  have less {t : σ} (less : Dwindles living s t) : Accounted living (w, reg, t) :=
    ha.fades rfl ⟨rfl, less⟩
  have stopped : Ends (h.registered.stop o) (reg, s) fun r z => Accounted living (w, z) ∧
      Dwindles living s z.2 ∧ (r = .done () → o ∈ z.1.told) := by
    refine (Ends.inner (ht.stop o s) reg).bind ?_ ?_ ?_
    · rintro _ ⟨_, t⟩ ⟨rfl, h⟩
      exact ⟨(less h).dismiss o, h, fun _ => List.mem_append_right _ (List.mem_singleton.2 rfl)⟩
    · rintro f ⟨_, t⟩ ⟨rfl, h⟩
      exact ⟨less h, h, nofun⟩
    · rintro ⟨_, t⟩ ⟨rfl, h⟩
      exact ⟨less h, h, nofun⟩
  exact stopped.inner w

/-- An observer that is found to be dead is dead. -/
theorem alive_fades (ht : Tame h living) (o : O) (w : Watcher T O) (y : Register O × σ) :
    Ends (h.registered.alive o).inner (w, y) fun r z => z.1 = w ∧ Fades living y z.2 ∧
      (r = .done false → ¬ living z.2.2 o) :=
  ⟨rfl, ⟨rfl, (ht.alive o y.2).1⟩, (ht.alive o y.2).2⟩

/-- An observer that was joined is dead. -/
theorem join_fades (hp : Punctual h living) (o : O) (limit : Nat) (w : Watcher T O)
    (y : Register O × σ) : Ends (h.registered.join o limit).inner (w, y) fun r z => z.1 = w ∧
      Fades living y z.2 ∧ (r = .done () → ¬ living z.2.2 o) :=
  ⟨rfl, ⟨rfl, (hp.join o limit y.2).1⟩, (hp.join o limit y.2).2⟩

theorem observe_fades (ht : Tame h living) (cwd : Path) (w : Watcher T O) (y : Register O × σ) :
    Ends (observe h.registered cwd w) y fun _ z => Fades living y z :=
  ((observe_moves (inner_fades ht.build) (fun o f d => inner_fades (ht.schedule o f d))
    cwd w).ends y).mono fun _ _ => fades_of_moves

/-- However a replacement ends, the old observer was told to stop before it is let go of, and nothing
    is started that is not held. -/
theorem replace_accounted (hp : Punctual h living) {dead : O} (ha : Accounted living (w, y))
    (held : w.observer = some dead) (gone : ¬ living y.2 dead) :
    Ends (replace h.registered cwd dead) (w, y) fun _ z => Accounted living z := by
  have stopped (r : Log.Record) :=
    stop_entered hp.toTame dead (ha.fades rfl (note_fades hp.toTame r y))
  refine Ends.of_modify ((stopped _).bind ?_ ?_ ?_)
  · rintro _ ⟨v, z⟩ ⟨rfl, still, less, told⟩
    have vacant : Vacant living z :=
      still.vacant held (fun ho => gone (hp.note _ y.2 _ (less _ ho))) (told rfl)
    refine Ends.of_read ((Ends.inner (observe_fades hp.toTame cwd v z) v).seq ?_ ?_)
    · rintro ⟨_, z'⟩ ⟨rfl, fades⟩
      exact (vacant.fades fades).accounted _
    · rintro o ⟨v, z'⟩ ⟨rfl, fades⟩
      have started := (start_entered hp (vacant.fades fades) o).mono fun _ _ ended => ended.2
      refine Ends.of_modify ((Ends.inner started _).seq ?_ ?_)
      · rintro ⟨_, u⟩ ⟨rfl, held⟩
        exact held _ rfl
      · rintro _ ⟨_, u⟩ ⟨rfl, held⟩
        have noted (r : Log.Record) :=
          (held { v with observer := some o } rfl).fades rfl (note_fades hp.toTame r u)
        exact Ends.of_modify ((noted _).fades rfl (update_fades hp.toTame _ _))
  · rintro f ⟨_, z⟩ ⟨rfl, still, -, -⟩
    exact still
  · rintro ⟨_, z⟩ ⟨rfl, still, -, -⟩
    exact still

/-- However the look at the observer ends, all observers are accounted for. -/
theorem ensureAlive_accounted (hp : Punctual h living) {x : Watcher T O × Register O × σ}
    (ha : Accounted living x) :
    Ends (ensureAlive h.registered cwd) x fun _ z => Accounted living z := by
  obtain ⟨w, y⟩ := x
  refine Ends.of_read ?_
  cases held : w.observer with
  | none => exact ha
  | some o =>
    refine Ends.of_read ?_
    split
    · exact ha
    · refine (alive_fades hp.toTame o w y).bind ?_ ?_ ?_
      · rintro b ⟨_, z⟩ ⟨rfl, fades, dead⟩
        have still := ha.fades rfl fades
        cases b with
        | true => exact still
        | false => exact replace_accounted hp still held (dead rfl)
      · rintro f ⟨_, z⟩ ⟨rfl, fades, -⟩
        exact ha.fades rfl fades
      · rintro ⟨_, z⟩ ⟨rfl, fades, -⟩
        exact ha.fades rfl fades

/-- What goes on in a wait apart from that leaves all observers accounted for. -/
theorem endures_accounted (ht : Tame h living) : Endures h.registered (Accounted living) where
  mail f ha := ha.fades rfl (update_fades ht f _)
  note r ha := ha.fades rfl (note_fades ht r _)
  count _ ha := ha.fades rfl ⟨rfl, .refl _⟩
  await {y} timeout ha :=
    have ended := ht.await timeout y.1 y.2.2
    ha.fades (congrArg observer ended.1) ⟨rfl, ended.2⟩
  pause {y} time ha :=
    have ended := ht.pause time y.1 y.2.2
    ha.fades (congrArg observer ended.1) ⟨rfl, ended.2⟩
  others {y} ha :=
    have ended := ht.others y.1 y.2.2
    ha.fades (congrArg observer ended.1) ⟨rfl, ended.2⟩

/-! ## 4. From the start to the stop -/

theorem beginObserving_entered (hp : Punctual h living) (cwd : Path) (w : Watcher T O)
    (hv : Vacant living y) : Ends (beginObserving h.registered cwd w) y fun r z =>
      ((∀ o, r ≠ .done o) → Vacant living z) ∧
        ∀ o, r = .done o → ∀ w : Watcher T O, w.observer = some o → Accounted living (w, z) := by
  have observing : Ends (do
      let o ← observe h.registered cwd w
      h.registered.start o
      pure o : Action (Register O × σ) O) y fun r z => ((∀ o, r ≠ .done o) → Vacant living z) ∧
        ∀ o, r = .done o → ∀ w : Watcher T O, w.observer = some o → Accounted living (w, z) := by
    refine (observe_fades hp.toTame cwd w y).bind (fun o z fades => ?_)
      (fun _ _ fades => ⟨fun _ => hv.fades fades, nofun⟩)
      fun _ fades => ⟨fun _ => hv.fades fades, nofun⟩
    refine (start_entered hp (hv.fades fades) o).bind (fun _ u started => ?_)
      (fun _ _ refused => ⟨fun _ => refused.1 nofun, nofun⟩)
      fun _ refused => ⟨fun _ => refused.1 nofun, nofun⟩
    refine ⟨fun undone => absurd rfl (undone o), ?_⟩
    rintro _ ⟨⟩
    exact started.2
  refine observing.recover (fun _ _ ended => ended) (fun f z y ended handled => ?_)
    (fun _ _ ended _ => ended) fun _ ended => ended
  split at handled
  · cases handled
    exact ⟨fun _ => ended.1 nofun, nofun⟩
  · cases handled

/-- However a start ends, all observers are accounted for if none was held before. -/
theorem start_accounted (hp : Punctual h living) (ha : Accounted living (w, y))
    (free : w.observer = none) :
    Ends (start h.registered cwd) (w, y) fun _ z => Accounted living z := by
  have looked : Drifts (Fades living) id (firstMissing h.registered w.paths) :=
    firstMissing_moves (fun p => inner_fades (hp.present p)) w.paths
  refine Ends.of_read ((Ends.inner (looked.ends y) w).seq ?_ ?_)
  · rintro ⟨_, z⟩ ⟨rfl, moves⟩
    exact ha.fades rfl (fades_of_moves moves)
  rintro missing ⟨_, z⟩ ⟨rfl, moves⟩
  have still : Accounted living (_, z) := ha.fades rfl (fades_of_moves moves)
  cases missing with
  | some p => exact still
  | none =>
    have vacant := (still.fades rfl (update_fades hp.toTame .resume z)).vacant_of_none free
    refine Ends.of_modify ((Ends.inner (beginObserving_entered hp cwd _ vacant) _).bind ?_ ?_ ?_)
    · rintro o ⟨_, u⟩ ⟨rfl, -, begun⟩
      exact Ends.of_modify ((begun o rfl _ rfl).fades rfl (note_fades hp.toTame _ u))
    · rintro f ⟨_, u⟩ ⟨rfl, failed, -⟩
      exact (failed nofun).accounted _
    · rintro ⟨_, u⟩ ⟨rfl, failed, -⟩
      exact (failed nofun).accounted _

/-- What a stop has come to: all observers are accounted for, and when it is done there are none. -/
def Halted (living : σ → O → Prop) (r : Outcome Unit) (z : Watcher T O × Register O × σ) : Prop :=
  Accounted living z ∧ (r = .done () → z.1.observer = none ∧ Vacant living z.2)

/-- The last steps of a stop: a dead observer that was told to stop is let go of. -/
theorem release_halted (ht : Tame h living) {o : O} (ha : Accounted living (w, y))
    (held : w.observer = some o) (dead : ¬ living y.2 o) (told : o ∈ y.1.told) :
    Ends (do
      change fun w : Watcher T O => { w with observer := none }
      .log .debug logger "Observer stopped." : Action (Watcher T O × Register O × σ) Unit)
      (w, y) (Halted living) := by
  have noted (r : Log.Record) : Vacant living (Log.Logbook.note r y) :=
    (ha.vacant held dead told).fades (note_fades ht r y)
  exact Ends.of_modify ⟨(noted _).accounted _, fun _ => ⟨rfl, noted _⟩⟩

/-- However a stop ends, all observers are accounted for; one that is done leaves none. -/
theorem stop_accounted (hp : Punctual h living) {x : Watcher T O × Register O × σ}
    (ha : Accounted living x) : Ends (stop h.registered) x (Halted living) := by
  obtain ⟨w, y⟩ := x
  have told := ha.fades rfl (update_fades hp.toTame .stop y)
  refine Ends.of_modify (Ends.of_read ?_)
  cases held : w.observer with
  | none => exact ⟨told, fun _ => ⟨held, told.vacant_of_none held⟩⟩
  | some o =>
    refine (stop_entered hp.toTame o told).bind ?_ ?_ ?_
    · rintro _ ⟨v, y⟩ ⟨rfl, still, -, entered⟩
      have gone {z : Register O × σ} (fades : Fades living y z) (dead : ¬ living z.2 o) :=
        release_halted hp.toTame (still.fades rfl fades) held dead (fades.1 ▸ entered rfl)
      refine (alive_fades hp.toTame o v y).bind ?_ ?_ ?_
      · rintro alive ⟨v, z⟩ ⟨rfl, fades, dead⟩
        cases alive with
        | false => exact gone fades (dead rfl)
        | true =>
          refine (join_fades hp o joinLimit v z).bind ?_ ?_ ?_
          · rintro _ ⟨v, u⟩ ⟨rfl, more, dead⟩
            exact gone (fades.trans more) (dead rfl)
          · rintro f ⟨_, u⟩ ⟨rfl, more, -⟩
            exact ⟨still.fades rfl (fades.trans more), nofun⟩
          · rintro ⟨_, u⟩ ⟨rfl, more, -⟩
            exact ⟨still.fades rfl (fades.trans more), nofun⟩
      · rintro f ⟨_, z⟩ ⟨rfl, fades, -⟩
        exact ⟨still.fades rfl fades, nofun⟩
      · rintro ⟨_, z⟩ ⟨rfl, fades, -⟩
        exact ⟨still.fades rfl fades, nofun⟩
    · rintro f ⟨_, z⟩ ⟨rfl, still, -, -⟩
      exact ⟨still, nofun⟩
    · rintro ⟨_, z⟩ ⟨rfl, still, -, -⟩
      exact ⟨still, nofun⟩

/-- A stop comes to its end where the observers answer. -/
theorem stop_concludes (ho : Obliging h) : Concludes (fun _ => False) (stop h) := by
  refine .bind (.modify _) fun _ => .bind (.read _) fun w => ?_
  cases w.observer with
  | none => exact .pure _
  | some o =>
    refine (ho.stop o).inner.bind fun _ => (ho.alive o).inner.bind fun alive => ?_
    have rest : Concludes (fun _ => False) (do
        change fun w : Watcher T O => { w with observer := none }
        .log .debug logger "Observer stopped." : Action (Watcher T O × σ) Unit) :=
      .bind (.modify _) fun _ => .modify _
    cases alive with
    | true => exact (ho.join o joinLimit).inner.bind fun _ => rest
    | false => exact rest

/-! ## 5. Service -/

variable [LT T] [DecidableLT T] [Zero T]

/-- Whatever is asked for, the register changes nothing. -/
theorem perform_registered (h : Host T O σ) (cwd : Path) (r : Request T) :
    Covers (Prod.map id Prod.snd) (perform h.registered cwd r) (perform h cwd r) := by
  refine Agrees.covers_beside ?_
  have hm := registered_mirrors h
  cases r with
  | start => exact (start_agrees hm cwd).bind fun _ => .pure _
  | stop => exact (stop_agrees hm).bind fun _ => .pure _
  | wait timeout => exact wait_agrees hm cwd timeout
  | next poll patience => exact next_agrees hm cwd poll patience

/-- However a request ends, all observers are accounted for, unless it is a second start. -/
theorem perform_accounted (hp : Punctual h living) (r : Request T)
    {x : Watcher T O × Register O × σ} (ha : Accounted living x)
    (free : r = .start → x.1.observer = none) :
    Ends (perform h.registered cwd r) x fun _ z => Accounted living z := by
  have looked {y : Watcher T O × Register O × σ} (hy : Accounted living y) :
      Ends (ensureAlive h.registered cwd) y fun _ z => Accounted living z :=
    ensureAlive_accounted hp hy
  cases r with
  | start => exact (start_accounted hp ha (free rfl)).seq (fun _ hz => hz) fun _ _ hz => hz
  | stop =>
    have stopped := (stop_accounted hp ha).mono fun _ _ ended => ended.1
    exact stopped.seq (fun _ hz => hz) fun _ _ hz => hz
  | wait timeout => exact (endures_accounted hp.toTame).wait looked timeout ha
  | next poll patience => exact (endures_accounted hp.toTame).next looked poll patience ha

/-- The service of a watcher from a state on: requests of its consumer, none of which is a start
    while an observer is held, and what others do in between. A request may end with a fault, or
    not come to its end. -/
inductive Service (h : Host T O σ) (living : σ → O → Prop) (cwd : Path)
    (x : Watcher T O × Register O × σ) : Watcher T O × Register O × σ → Prop
  | opened : Service h living cwd x x
  | meanwhile {v : Watcher T O} {y z : Register O × σ} (served : Service h living cwd x (v, y))
    (fades : Fades living y z) : Service h living cwd x (v, z)
  | asked {y : Watcher T O × Register O × σ} (served : Service h living cwd x y) (r : Request T)
    (free : r = .start → y.1.observer = none) :
    Service h living cwd x (perform h.registered cwd r y).2

theorem accounted_of_service (hp : Punctual h living) {x₀ x : Watcher T O × Register O × σ}
    (ha : Accounted living x₀) (served : Service h living cwd x₀ x) : Accounted living x := by
  induction served with
  | opened => exact ha
  | meanwhile _ fades ih => exact ih.fades rfl fades
  | asked _ r free ih => exact perform_accounted hp r ih free

/-- **One observer at a time.** In every service of a watcher that begins with none, wherever its
    requests stop, whichever of them fail and whenever observers die:

    * no observer lives but the one that the watcher holds;
    * the ones that live are in the register, and each that has come to life is held, or was told to
      stop. A request can stop at any call of the host, so it was told before it was let go of;
    * a stop that is done leaves none that lives and none that is held, and it is done where the
      observers answer. -/
theorem one_observer (hp : Punctual h living) {x₀ x : Watcher T O × Register O × σ}
    (fresh : x₀.2.1 = .empty) (unborn : ∀ o, ¬ living x₀.2.2 o)
    (served : Service h living cwd x₀ x) :
    (∀ o, living x.2.2 o → x.1.observer = some o) ∧
    (∀ o, living x.2.2 o → o ∈ x.2.1.lived) ∧
    (∀ o ∈ x.2.1.lived, x.1.observer = some o ∨ o ∈ x.2.1.told) ∧
    (∀ y, stop h.registered x = (.done (), y) → y.1.observer = none ∧ (∀ o, ¬ living y.2.2 o) ∧
      ∀ o ∈ y.2.1.lived, o ∈ y.2.1.told) ∧
    (Obliging h → ∃ y, stop h.registered x = (.done (), y)) := by
  have vacant : Vacant living x₀.2 := ⟨unborn, by simp [fresh, Register.empty]⟩
  have accounted := accounted_of_service hp (vacant.accounted x₀.1) served
  refine ⟨accounted.sole, accounted.entered, accounted.dismissed, fun y stopped => ?_,
    fun obliging => ?_⟩
  · obtain ⟨held, vacant⟩ := ((stop_accounted hp accounted).result stopped).2 rfl
    exact ⟨held, vacant.none, vacant.told⟩
  · have ended := stop_concludes obliging.registered x
    rcases stopped : stop h.registered x with ⟨r, y⟩
    rw [stopped] at ended
    cases ended with
    | done _ => exact ⟨y, rfl⟩
    | raised never => exact never.elim

end Watcher

namespace Lookout

open Watcher

/-- The observer dies, and the next start is refused. -/
def trouble : List (List Incident) := [[.death 0, .refusal]]

/-- The watcher before its first start, with an empty register. -/
def unused : Watcher Seconds Nat × Register Nat × Lookout := (sentry, .empty, waiting trouble)

/-- Waits for a second at most. -/
def briefly : Watcher.Request Seconds := .wait (some (.whole 1))

/-- The watcher after one request more. -/
def asked (r : Watcher.Request Seconds) (x : Watcher Seconds Nat × Register Nat × Lookout) :
    Watcher Seconds Nat × Register Nat × Lookout := (perform (host root).registered root r x).2

/-- The replacement for the dead observer did not start. -/
def bereft : Watcher Seconds Nat × Register Nat × Lookout :=
  asked briefly (asked briefly (asked .start unused))

/-- The next one did. -/
def recovered : Watcher Seconds Nat × Register Nat × Lookout :=
  asked briefly bereft

/-- The observer that did not start is held, and let go of for the next one, after which nothing is
    left to be told but that one. -/
theorem one_observer_recovered :
    bereft.1.observer = some 1 ∧ bereft.2.1 = ⟨[0], [0]⟩ ∧
    recovered.1.observer = some 2 ∧ recovered.2.1 = ⟨[0, 2], [0, 1]⟩ ∧
    (∀ o, recovered.2.2.view.alive o → recovered.1.observer = some o) ∧
    ∃ y, stop (host root).registered recovered = (.done (), y) ∧ y.1.observer = none ∧
      ∀ o ∈ y.2.1.lived, o ∈ y.2.1.told := by
  have served : Service (host root) (fun s => s.view.alive) root unused recovered :=
    .asked (.asked (.asked (.asked .opened .start fun _ => rfl) briefly nofun) briefly nofun)
      briefly nofun
  have unborn (o : Nat) : ¬ unused.2.2.view.alive o := List.not_mem_nil
  obtain ⟨sole, -, -, left, ended⟩ := one_observer (punctual_host root) rfl unborn served
  obtain ⟨y, stopped⟩ := ended (obliging_host root)
  obtain ⟨held, -, told⟩ := left y stopped
  exact ⟨by decide +kernel, by decide +kernel, by decide +kernel, by decide +kernel, sole, y,
    stopped, held, told⟩

end Lookout

end Respawn.Watch
