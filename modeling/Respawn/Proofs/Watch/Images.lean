import Respawn.Proofs.Actions
import Respawn.Watch.Watcher

/-!
# Watchers in surroundings that agree

Where two hosts answer every request alike as long as their surroundings agree, and leave them so,
two watchers on them do the same. The surroundings can differ in what was written down beside them,
or in what nobody asks for.

* `Host.Mirrors`: two hosts that answer alike;
* `Host.beside`: a host with something besides that nobody asks for;
* `start_agrees`, `stop_agrees`, `wait_agrees`, `next_agrees`: the watchers on them;
* `stop_besides`, `wait_besides`: what there is besides stays as it is.
-/

namespace Respawn.Watch

open Respawn.Action (Agrees Beside Ends Holding Without)

variable {T O σ τ : Type} [Mailboxed σ] [Log.Logbook σ] [Mailboxed τ] [Log.Logbook τ]

/-- Where their surroundings agree, two hosts answer alike, the mailbox is the same, and neither a
    change of it nor a record makes a difference. -/
structure Host.Mirrors (R : σ → τ → Prop) (h : Host T O σ) (k : Host T O τ) : Prop where
  mailbox {s t} : R s t → Mailboxed.mailbox s = Mailboxed.mailbox t
  update {s t} (f) : R s t → R (Mailboxed.update f s) (Mailboxed.update f t)
  note {s t} (r) : R s t → R (Log.Logbook.note r s) (Log.Logbook.note r t)
  present (p) : Agrees R (h.present p) (k.present p)
  build : Agrees R h.build k.build
  schedule (o f d) : Agrees R (h.schedule o f d) (k.schedule o f d)
  start (o) : Agrees R (h.start o) (k.start o)
  stop (o) : Agrees R (h.stop o) (k.stop o)
  alive (o) : Agrees R (h.alive o) (k.alive o)
  join (o limit) : Agrees R (h.join o limit) (k.join o limit)
  await (timeout) : Agrees (Beside R) (h.await timeout) (k.await timeout)
  pause (time) : Agrees (Beside R) (h.pause time) (k.pause time)
  others : Agrees (Beside R) h.others k.others

/-- A host whose surroundings have a part of their own besides, which nobody asks for. -/
def Host.beside {ρ : Type} (h : Host T O σ) : Host T O (ρ × σ) where
  present p := (h.present p).inner
  build := h.build.inner
  schedule o f d := (h.schedule o f d).inner
  start o := (h.start o).inner
  stop o := (h.stop o).inner
  alive o := (h.alive o).inner
  join o limit := (h.join o limit).inner
  await timeout := (h.await timeout).beside
  pause time := (h.pause time).beside
  others := h.others.beside

omit [Mailboxed τ] [Log.Logbook τ] in
/-- The part besides makes no difference. -/
theorem beside_mirrors {ρ : Type} (h : Host T O σ) :
    (h.beside : Host T O (ρ × σ)).Mirrors Without h where
  mailbox same := congrArg Mailboxed.mailbox same
  update f same := congrArg (Mailboxed.update f) same
  note r same := congrArg (Log.Logbook.note r) same
  present p := .inner_without (h.present p)
  build := .inner_without h.build
  schedule o f d := .inner_without (h.schedule o f d)
  start o := .inner_without (h.start o)
  stop o := .inner_without (h.stop o)
  alive o := .inner_without (h.alive o)
  join o limit := .inner_without (h.join o limit)
  await timeout := .beside_without (h.await timeout)
  pause time := .beside_without (h.pause time)
  others := .beside_without h.others

omit [Mailboxed τ] [Log.Logbook τ] in
/-- And it stays as it is. -/
theorem beside_holding {ρ : Type} (h : Host T O σ) (r : ρ) :
    (h.beside : Host T O (ρ × σ)).Mirrors (Holding r) h where
  mailbox held := congrArg (fun z : ρ × σ => Mailboxed.mailbox z.2) held
  update f held := congrArg (fun z : ρ × σ => (z.1, Mailboxed.update f z.2)) held
  note e held := congrArg (fun z : ρ × σ => (z.1, Log.Logbook.note e z.2)) held
  present p := .inner_holding r (h.present p)
  build := .inner_holding r h.build
  schedule o f d := .inner_holding r (h.schedule o f d)
  start o := .inner_holding r (h.start o)
  stop o := .inner_holding r (h.stop o)
  alive o := .inner_holding r (h.alive o)
  join o limit := .inner_holding r (h.join o limit)
  await timeout := .beside_holding r (h.await timeout)
  pause time := .beside_holding r (h.pause time)
  others := .beside_holding r h.others

/-- Hosts that answer alike do so whatever there is besides. -/
theorem Host.Mirrors.beside {ρ : Type} {R : σ → τ → Prop} {h : Host T O σ} {k : Host T O τ}
    (hm : h.Mirrors R k) : (h.beside : Host T O (ρ × σ)).Mirrors (Beside R) k.beside where
  mailbox same := hm.mailbox same.2
  update f same := ⟨same.1, hm.update f same.2⟩
  note r same := ⟨same.1, hm.note r same.2⟩
  present p := (hm.present p).inner
  build := hm.build.inner
  schedule o f d := (hm.schedule o f d).inner
  start o := (hm.start o).inner
  stop o := (hm.stop o).inner
  alive o := (hm.alive o).inner
  join o limit := (hm.join o limit).inner
  await timeout := (hm.await timeout).beside
  pause time := (hm.pause time).beside
  others := hm.others.beside

namespace Watcher

variable {R : σ → τ → Prop} {h : Host T O σ} {k : Host T O τ}

/-! ## 1. The watcher's own part -/

omit [Mailboxed σ] [Log.Logbook σ] [Mailboxed τ] [Log.Logbook τ] in
theorem own_agrees : Agrees (Beside R) (own : Action (Watcher T O × σ) _) own :=
  .read fun _ _ h => h.1

omit [Mailboxed σ] [Log.Logbook σ] [Mailboxed τ] [Log.Logbook τ] in
theorem change_agrees (f : Watcher T O → Watcher T O) :
    Agrees (Beside R) (change f : Action (Watcher T O × σ) _) (change f) :=
  .modify fun _ _ h => ⟨congrArg f h.1, h.2⟩

variable (hm : h.Mirrors R k)
include hm

theorem mail_agrees (f : Mailbox → Mailbox) :
    Agrees (Beside R) (mail f : Action (Watcher T O × σ) _) (mail f) :=
  .modify fun _ _ h => ⟨h.1, hm.update f h.2⟩

theorem mailbox_agrees :
    Agrees (Beside R) (mailbox : Action (Watcher T O × σ) _) mailbox :=
  .read fun _ _ h => hm.mailbox h.2

theorem note_agrees (r : Log.Record) : Agrees (Beside R)
    (Action.modify (Log.Logbook.note r) : Action (Watcher T O × σ) _)
    (.modify (Log.Logbook.note r)) :=
  .modify fun _ _ h => ⟨h.1, hm.note r h.2⟩

/-! ## 2. The observer -/

theorem firstMissing_agrees (ps : List Path) : Agrees R (firstMissing h ps) (firstMissing k ps) := by
  induction ps with
  | nil => exact .pure none
  | cons p ps ih =>
    refine (hm.present p).bind fun there => ?_
    cases there with
    | true => exact ih
    | false => exact .pure (some p)

theorem observe_agrees (cwd : Path) (w : Watcher T O) :
    Agrees R (observe h cwd w) (observe k cwd w) :=
  hm.build.bind fun o => (Agrees.each (hm.schedule o _) _).bind fun _ => .pure o

theorem beginObserving_agrees (cwd : Path) (w : Watcher T O) :
    Agrees R (beginObserving h cwd w) (beginObserving k cwd w) := by
  have observing : Agrees R
      (do let o ← observe h cwd w; h.start o; pure o : Action σ O)
      (do let o ← observe k cwd w; k.start o; pure o) :=
    (observe_agrees hm cwd w).bind fun o => (hm.start o).bind fun _ => .pure o
  refine observing.recover fun f => ?_
  split
  · exact .some (.raise _)
  · exact .none

theorem start_agrees (cwd : Path) : Agrees (Beside R) (start h cwd) (start k cwd) := by
  refine own_agrees.bind fun w => (firstMissing_agrees hm w.paths).inner.bind fun missing => ?_
  cases missing with
  | some p => exact .raise _
  | none =>
    exact (mail_agrees hm _).bind fun _ => (beginObserving_agrees hm cwd w).inner.bind fun o =>
      (change_agrees _).bind fun _ => note_agrees hm _

theorem stop_agrees : Agrees (Beside R) (stop h) (stop k) := by
  refine (mail_agrees hm _).bind fun _ => own_agrees.bind fun w => ?_
  cases w.observer with
  | none => exact .pure _
  | some o =>
    refine (hm.stop o).inner.bind fun _ => (hm.alive o).inner.bind fun alive => ?_
    have rest : Agrees (Beside R)
        (do
          change fun w : Watcher T O => { w with observer := none }
          .log .debug logger "Observer stopped." : Action (Watcher T O × σ) Unit)
        (do
          change fun w => { w with observer := none }
          .log .debug logger "Observer stopped.") :=
      (change_agrees _).bind fun _ => note_agrees hm _
    cases alive with
    | true => exact (hm.join o joinLimit).inner.bind fun _ => rest
    | false => exact rest

theorem replace_agrees (cwd : Path) (dead : O) :
    Agrees (Beside R) (replace h cwd dead) (replace k cwd dead) :=
  (note_agrees hm _).bind fun _ => (hm.stop dead).inner.bind fun _ => own_agrees.bind fun w =>
    (observe_agrees hm cwd w).inner.bind fun o => (change_agrees _).bind fun _ =>
      (hm.start o).inner.bind fun _ => (note_agrees hm _).bind fun _ => mail_agrees hm _

theorem ensureAlive_agrees (cwd : Path) :
    Agrees (Beside R) (ensureAlive h cwd) (ensureAlive k cwd) := by
  refine own_agrees.bind fun w => ?_
  cases w.observer with
  | none => exact .pure _
  | some o =>
    refine (mailbox_agrees hm).bind fun m => ?_
    cases m.stopped with
    | true => exact .pure _
    | false =>
      refine (hm.alive o).inner.bind fun alive => ?_
      cases alive with
      | true => exact .pure _
      | false => exact replace_agrees hm cwd o

/-! ## 3. Waiting -/

theorem fire_agrees (path : String) : Agrees (Beside R) (fire h path) (fire k path) :=
  (mail_agrees hm _).bind fun _ => hm.others.bind fun _ => (change_agrees _).bind fun _ =>
    own_agrees.bind fun _ => (note_agrees hm _).bind fun _ => .pure _

theorem take_agrees : Agrees (Beside R) (take h) (take k) :=
  (mailbox_agrees hm).bind fun _ => (mail_agrees hm _).bind fun _ => hm.others.bind fun _ => .pure _

variable [LT T] [DecidableLT T] [Zero T]

theorem collect_agrees (cwd : Path) (timeout : Option T) :
    Agrees (Beside R) (collect h cwd timeout) (collect k cwd timeout) := by
  refine (ensureAlive_agrees hm cwd).bind fun _ => ?_
  split
  · exact .raise _
  · exact (hm.await timeout).bind fun _ => take_agrees hm

theorem settle_agrees : Agrees (Beside R) (settle h) (settle k) := by
  refine own_agrees.bind fun w => ?_
  split
  · exact hm.pause w.debounce
  · exact .pure false

theorem wait_agrees (cwd : Path) (timeout : Option T) :
    Agrees (Beside R) (wait h cwd timeout) (wait k cwd timeout) := by
  refine (collect_agrees hm cwd timeout).bind fun found => ?_
  cases found with
  | none => exact .pure none
  | some path =>
    refine (settle_agrees hm).bind fun stopped => ?_
    cases stopped with
    | true => exact .pure none
    | false => exact fire_agrees hm path

theorem next_agrees (cwd : Path) (poll : T) (patience : Nat) :
    Agrees (Beside R) (next h cwd poll patience) (next k cwd poll patience) := by
  induction patience with
  | zero => exact .exhausted
  | succ patience ih =>
    refine (mailbox_agrees hm).bind fun m => ?_
    cases m.stopped with
    | true => exact .pure none
    | false =>
      refine (wait_agrees hm cwd (some poll)).bind fun answer => ?_
      cases answer with
      | some trigger => exact .pure _
      | none => exact ih

end Watcher

/-! ## 4. What there is besides -/

section Besides

omit [Mailboxed τ] [Log.Logbook τ]

omit [Mailboxed σ] [Log.Logbook σ] in
theorem besides_of_agrees {ρ α : Type} {x : Action (Watcher T O × ρ × σ) α}
    {x' : Action (Watcher T O × σ) α} (h : ∀ r, Agrees (Beside (Holding r)) x x')
    (y : Watcher T O × ρ × σ) : Ends x y fun _ z => z.2.1 = y.2.1 :=
  have held : (x y).2.2 = (y.2.1, _) := (h y.2.1 y (y.1, y.2.2) ⟨rfl, rfl⟩).2.2
  have first := congrArg Prod.fst held
  first

theorem Watcher.stop_besides {ρ : Type} (h : Host T O σ) (y : Watcher T O × ρ × σ) :
    Ends (Watcher.stop h.beside) y fun _ z => z.2.1 = y.2.1 :=
  besides_of_agrees (fun r => Watcher.stop_agrees (beside_holding h r)) y

theorem Watcher.wait_besides [LT T] [DecidableLT T] [Zero T] {ρ : Type} (h : Host T O σ)
    (cwd : Path) (timeout : Option T) (y : Watcher T O × ρ × σ) :
    Ends (Watcher.wait h.beside cwd timeout) y fun _ z => z.2.1 = y.2.1 :=
  besides_of_agrees (fun r => Watcher.wait_agrees (beside_holding h r) cwd timeout) y

end Besides

end Respawn.Watch
