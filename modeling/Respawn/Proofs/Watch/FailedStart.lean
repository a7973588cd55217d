import Respawn.Proofs.Watch.Lookout
import Respawn.Proofs.Watch.Observing

/-!
# A start that fails

A watcher starts in three steps: it sees whether its paths are there, it is marked as no longer stopped,
and it is given a new observer. A start that fails at the last of them leaves the mark as it is then. So
a watcher that was stopped is not a stopped one any more, though it observes nothing.

* `Starts`: what surroundings may do while a watcher starts;
* `Fails`: how a start fails, and what has become of the mailbox then;
* **`start_failed`**: the watcher's own part is what it was, and the mailbox but for the mark.
-/

namespace Respawn.Watch

open Relation (ReflTransGen)
open Respawn.Action (Drifts Ends Raises)

variable {T O σ : Type} [Mailboxed σ]

/-! ## 1. What a start asks for -/

/-- While a watcher starts, only others change its mailbox, and it can be told of every path whether
    it is there. -/
structure Starts (Move : Mailbox → Mailbox → Prop) (h : Host T O σ) : Prop where
  present (p) : Drifts Move Mailboxed.mailbox (h.present p)
  told (p s) : ∃ there, (h.present p s).1 = .done there
  build : Drifts Move Mailboxed.mailbox h.build
  schedule (o f d) : Drifts Move Mailboxed.mailbox (h.schedule o f d)
  start (o) : Drifts Move Mailboxed.mailbox (h.start o)

/-- The faults with which a new observer is refused: it cannot be built, be given one of the
    directories, or be started. -/
inductive Trouble (h : Host T O σ) (cwd : Path) (w : Watcher T O) : Fault → Prop
  | build {s f} (fault : (h.build s).1 = .raised f) : Trouble h cwd w f
  | schedule {o d s f} (entry : d ∈ w.directories)
      (fault : (h.schedule o (w.filter cwd) d s).1 = .raised f) : Trouble h cwd w f
  | start {o s f} (fault : (h.start o s).1 = .raised f) : Trouble h cwd w f

/-- What a watcher makes of a fault of its observer: what the system refuses is a complaint. -/
def complaint (w : Watcher T O) : Fault → Fault
  | .os e => .cannotWatch (", ".intercalate w.directoryTexts) e.message
  | f => f

namespace Watcher

section Steps

variable {Move : Mailbox → Mailbox → Prop} {h : Host T O σ}

omit [Mailboxed σ] in
theorem observing_raises (h : Host T O σ) (cwd : Path) (w : Watcher T O) :
    Raises (Trouble h cwd w) (do
      let o ← observe h cwd w
      h.start o
      pure o : Action σ O) := by
  refine .bind (.bind (fun s f fault => .build fault) fun o => ?_) fun o => ?_
  · exact (Raises.each_mem fun d entry s f fault => .schedule entry fault).bind fun _ => .pure o
  · exact .bind (fun s f fault => .start fault) fun _ => .pure o

omit [Mailboxed σ] in
/-- What is complained of is a fault of the observer. -/
theorem beginObserving_raises (h : Host T O σ) (cwd : Path) (w : Watcher T O) :
    Raises (fun f => ∃ e, Trouble h cwd w e ∧ f = complaint w e) (beginObserving h cwd w) := by
  refine (observing_raises h cwd w).recover (fun f trouble y handled => ?_) fun f trouble none => ?_
  · cases f with
    | os e =>
      cases handled
      exact .raise ⟨_, trouble, rfl⟩
    | _ => cases handled
  · refine ⟨f, trouble, ?_⟩
    cases f with
    | os e => cases none
    | _ => rfl

omit [Mailboxed σ] in
/-- Of every watch set it can be told whether a path of it is missing. -/
theorem firstMissing_ends (told : ∀ p s, ∃ there, (h.present p s).1 = .done there)
    (ps : List Path) (s : σ) : Ends (firstMissing h ps) s fun o _ =>
      ∃ missing, o = .done missing ∧ ∀ p ∈ missing, p ∈ ps := by
  induction ps generalizing s with
  | nil => exact ⟨none, rfl, nofun⟩
  | cons p ps ih =>
    refine (Ends.here _ s).bind (fun there t asked => ?_) (fun f t asked => ?_) fun t asked => ?_
    · cases there with
      | true =>
        refine (ih t).mono fun o u => ?_
        rintro ⟨missing, ended, entry⟩
        exact ⟨missing, ended, fun q hq => List.mem_cons_of_mem _ (entry q hq)⟩
      | false =>
        refine ⟨some p, rfl, ?_⟩
        rintro _ ⟨⟩
        exact List.mem_cons_self
    · obtain ⟨there, answered⟩ := told p s
      rw [asked] at answered
      cases answered
    · obtain ⟨there, answered⟩ := told p s
      rw [asked] at answered
      cases answered

end Steps

end Watcher

/-! ## 2. How a start fails -/

/-- How a start fails, and what has become of the mailbox: a path is missing, and nobody but others
    has changed it; or the new observer is refused, and in between the watcher was marked as no longer
    stopped. -/
inductive Fails (Move : Mailbox → Mailbox → Prop) (h : Host T O σ) (cwd : Path) (w : Watcher T O)
    (s : σ) : Fault → Mailbox → Prop
  | missing {p after} (found : (Watcher.firstMissing h w.paths s).1 = .done (some p))
      (entry : p ∈ w.paths) (moved : ReflTransGen Move (Mailboxed.mailbox s) after) :
      Fails Move h cwd w s (.cannotWatch p.text WatchSet.absentReason) after
  | refused {e ready after} (found : (Watcher.firstMissing h w.paths s).1 = .done none)
      (trouble : Trouble h cwd w e) (early : ReflTransGen Move (Mailboxed.mailbox s) ready)
      (late : ReflTransGen Move ready.resume after) : Fails Move h cwd w s (complaint w e) after

namespace Watcher

section Start

variable [Log.Logbook σ] {Move : Mailbox → Mailbox → Prop} {h : Host T O σ}

/-- How a start ends: with the new observer, or it fails. -/
theorem start_cases (hs : Starts Move h) (cwd : Path) (w : Watcher T O) (s : σ) :
    Ends (start h cwd) (w, s) fun o y =>
      (o = .done () → ∃ t new, firstMissing h w.paths s = (.done none, t) ∧
        (beginObserving h cwd w (Mailboxed.update Mailbox.resume t)).1 = .done new ∧
        y.1 = { w with observer := some new }) ∧
      ∀ f, o = .raised f → y.1 = w ∧ Fails Move h cwd w s f (Mailboxed.mailbox y.2) := by
  have looked := firstMissing_ends hs.told w.paths s
  have early := firstMissing_moves hs.present w.paths s
  rcases found : firstMissing h w.paths s with ⟨o, t⟩
  obtain ⟨missing, rfl, entry⟩ := looked.result found
  rw [found] at early
  have asked : (firstMissing h w.paths).inner (w, s) = (.done missing, w, t) := by
    rw [Action.inner_apply, found]
  have there : (firstMissing h w.paths s).1 = .done missing := congrArg Prod.fst found
  refine Ends.of_read (Ends.bind_of_done (P := (· = (w, t))) (.of_result asked ⟨rfl, rfl⟩) ?_)
  rintro _ rfl
  cases missing with
  | some p =>
    refine ⟨nofun, ?_⟩
    rintro _ ⟨⟩
    exact ⟨rfl, .missing there (entry p rfl) early⟩
  | none =>
    have late := beginObserving_moves hs.build hs.schedule cwd w hs.start
      (Mailboxed.update Mailbox.resume t)
    rw [Mailboxed.mailbox_update] at late
    refine Ends.of_modify (((Ends.here (beginObserving h cwd w) _).inner w).bind ?_ ?_ ?_)
    · rintro new ⟨_, u⟩ ⟨rfl, begun⟩
      exact Ends.of_modify ⟨fun _ => ⟨t, new, rfl, congrArg Prod.fst begun, rfl⟩, fun _ => nofun⟩
    · rintro f ⟨_, u⟩ ⟨rfl, begun⟩
      obtain ⟨e, trouble, rfl⟩ := beginObserving_raises h cwd _ _ f (congrArg Prod.fst begun)
      refine ⟨nofun, ?_⟩
      rintro _ ⟨⟩
      rw [begun] at late
      exact ⟨rfl, .refused there trouble early late⟩
    · exact fun _ _ => ⟨nofun, fun _ => nofun⟩

/-- **A start that fails leaves the watcher's own part as it was, and the mailbox but for the mark.** A
    start succeeds only if all paths are there and the new observer is not refused, and then the
    watcher holds it. Otherwise it holds what it held, its number is what it was, and:

    * with a path missing, that is complained of, and only others have changed the mailbox;
    * with the observer refused, what the system refuses is complained of, and every other fault
      passes through. Besides what others did, the watcher is then marked as not stopped.

    If no other changes the mailbox meanwhile, what is pending stays as it was, and all of the mailbox
    does exactly if a path was missing or the watcher had not been stopped. -/
theorem start_failed (hs : Starts Move h) (cwd : Path) (w : Watcher T O) (s : σ) :
    (∀ y, start h cwd (w, s) = (.done (), y) → ∃ t new,
      firstMissing h w.paths s = (.done none, t) ∧
        (beginObserving h cwd w (Mailboxed.update Mailbox.resume t)).1 = .done new ∧
        y.1 = { w with observer := some new }) ∧
    ∀ f y, start h cwd (w, s) = (.raised f, y) →
      y.1 = w ∧ Fails Move h cwd w s f (Mailboxed.mailbox y.2) ∧
      ((∀ m m', Move m m' → m' = m) →
        (Mailboxed.mailbox y.2).pending = (Mailboxed.mailbox s).pending ∧
        (Mailboxed.mailbox y.2 = Mailboxed.mailbox s ↔
          (∃ p, (firstMissing h w.paths s).1 = .done (some p)) ∨
            (Mailboxed.mailbox s).stopped = false)) := by
  have ended := start_cases hs cwd w s
  refine ⟨fun y started => (ended.result started).1 rfl, fun f y failed => ?_⟩
  obtain ⟨kept, fails⟩ := (ended.result failed).2 f rfl
  refine ⟨kept, fails, fun alone => ?_⟩
  have still {m m' : Mailbox} (moved : ReflTransGen Move m m') : m' = m := by
    induction moved with
    | refl => rfl
    | tail _ move ih => rw [alone _ _ move, ih]
  cases fails with
  | missing found entry moved =>
    rw [still moved]
    exact ⟨rfl, fun _ => .inl ⟨_, found⟩, fun _ => rfl⟩
  | refused found trouble early late =>
    rw [still late, still early]
    refine ⟨rfl, fun same => .inr ?_, fun cause => ?_⟩
    · exact (congrArg Mailbox.stopped same).symm
    · rcases cause with ⟨p, other⟩ | unstopped
      · cases found.symm.trans other
      · generalize Mailboxed.mailbox s = m at unstopped ⊢
        cases m
        cases unstopped
        rfl

end Start

end Watcher

/-! ## 3. A watcher that is stopped and started again -/

namespace Lookout

/-- In a lookout nobody else changes the mailbox while a watcher starts. -/
theorem starts_host (cwd : Path) : Starts Eq (host cwd) where
  present _ := .of_eq fun _ => rfl
  told _ _ := ⟨true, rfl⟩
  build := .of_eq fun _ => rfl
  schedule _ _ _ := .of_eq fun _ => rfl
  start o := .of_eq fun s => by
    show Mailboxed.mailbox (begin o s).2 = _
    unfold begin
    split <;> rfl

/-- The watcher was started and stopped, and the next start will be refused. -/
def dismissed : Watcher Seconds Nat × Lookout :=
  let (w, s) := (Watcher.stop (host root) (guarded [])).2
  (w, s.happen root .refusal)

/-- The start that is refused is complained of. The watcher was marked as stopped before it, and is not
    any more. -/
theorem start_failed_dismissed : ∃ y,
    Watcher.start (host root) root dismissed = (.raised (complaint dismissed.1 refused), y) ∧
      y.1 = dismissed.1 ∧ (Mailboxed.mailbox dismissed).stopped = true ∧
      Mailboxed.mailbox y.2 ≠ Mailboxed.mailbox dismissed := by
  have failed : (Watcher.start (host root) root dismissed).1 =
      .raised (complaint dismissed.1 refused) := by with_unfolding_all rfl
  have stopped : (Mailboxed.mailbox dismissed).stopped = true := by with_unfolding_all rfl
  have there : (Watcher.firstMissing (host root) dismissed.1.paths dismissed.2).1 = .done none := by
    with_unfolding_all rfl
  obtain ⟨kept, -, alone⟩ := (Watcher.start_failed (starts_host root) root dismissed.1 dismissed.2).2
    _ _ (Prod.ext failed rfl)
  refine ⟨_, Prod.ext failed rfl, kept, stopped, fun same => ?_⟩
  rcases ((alone fun _ _ => Eq.symm).2.1 same) with ⟨p, missing⟩ | unstopped
  · cases there.symm.trans missing
  · exact absurd (stopped.symm.trans unstopped) (by decide)

end Lookout

end Respawn.Watch
