import Respawn.Proofs.Session.Preparation
import Respawn.Proofs.Watch.Observing

/-!
# The start of the watcher

A session starts its watcher before it supervises. The watcher starts to observe, or its watch set is
refused, which is an orderly end; or a fault ends the session then. It can be one of a few: what an
override or the environment put into a setting is used where nothing guards against it.

* `Early`, `Unmanned`: what a session does before it has a command line, and before it supervises;
* `Derails`: the faults that end a session before it supervises;
* `start_observes`: a watcher that was started has an observer;
* `startedWatcher_cases`: how the start of the watcher ends.
-/

namespace Respawn.Session

open Respawn.Action (Ends Drifts Concludes Conclusive bind_done bind_raised)
open Relation (ReflTransGen)
open Settings (Fit Unspeakable)
open Watch (Watcher)

variable {O σ : Type} [Log.Logbook σ] [Watch.Mailboxed σ]

/-! ## 1. What a session relies on -/

/-- Surroundings that a session can start in. The log is set up as a journal is, the system tells
    which paths are there, and what is asked of observers ends with an answer, or with a fault of which
    `q` is true. -/
structure Ready (w : Surroundings O σ) (q : Fault → Prop) (journal : σ → Log.Journal) : Prop where
  cwd : w.cwd.isAskable = true
  setUpLog (level file s) :
    (w.setUpLog level file s).1 = (Log.Journal.setUp w.cwd level file (journal s)).1
  setTitle (text s) : (w.setTitle text s).1 ≠ .unfinished
  present (p) : Concludes (fun _ => False) (w.observers.present p)
  build : Concludes q w.observers.build
  schedule (o f d) : Concludes q (w.observers.schedule o f d)
  start (o) : Concludes q (w.observers.start o)

/-- What a session does before it has a command line. -/
inductive Early (w : Surroundings O σ) : σ → σ → Prop
  | note (r s) : Early w s (Log.Logbook.note r s)
  | setUpLog (level file s) : Early w s (w.setUpLog level file s).2

/-- What a session does before it supervises. No process is asked for anything. -/
inductive Unmanned (w : Surroundings O σ) : σ → σ → Prop
  | early {s t} (h : Early w s t) : Unmanned w s t
  | setTitle (text s) : Unmanned w s (w.setTitle text s).2
  | mail (f s) : Unmanned w s (Watch.Mailboxed.update f s)
  | present (p s) : Unmanned w s (w.observers.present p s).2
  | build (s) : Unmanned w s (w.observers.build s).2
  | schedule (o f d s) : Unmanned w s (w.observers.schedule o f d s).2
  | start (o s) : Unmanned w s (w.observers.start o s).2

/-! ## 2. Why a session ends before it supervises -/

/-- The part of a pattern before its first name with a wildcard. -/
def plainPart (pattern : Path) : Path :=
  ⟨pattern.anchor, pattern.parts.takeWhile fun name => !Glob.isMagic name⟩

/-- Patterns that cannot be expanded: the system is asked for a directory whose path is no text or
    holds a NUL. -/
inductive Unlistable (pattern : Path) : Fault → Prop
  | unencodable (h : Text.hasBytes (plainPart pattern).text.toList = false) :
      Unlistable pattern (.unencodable (Text.unencodable (plainPart pattern).text.toList))
  | nul (h : (plainPart pattern).isAskable = false) : Unlistable pattern .nulInPath

/-- The faults that end a session before it supervises. -/
inductive Derails (w : Surroundings O σ) (q : Fault → Prop) (request : Request) (s : Settings) :
    Fault → Prop
  | level {name : String} {f : Fault} (quiet : request.verbose = false)
      (h : s.get "LOG_LEVEL" = .ok (.text name))
      (stray : (String.ofList (Text.toUpper name.toList), f) ∈ Log.Journal.strayNames) :
      Derails w q request s f
  | logFile {p : Path} (h : s.get "LOG_FILE_PATH" = .ok (.path p)) (nul : p.isAskable = false) :
      Derails w q request s .nulInPath
  | command {f : Fault} (h : Unspeakable s f) : Derails w q request s f
  | title {r : Role} {t : σ} {f : Fault} (h : (w.setTitle (title r) t).1 = .raised f) :
      Derails w q request s f
  | glob {v : Value} (h : s.get "WATCH_GLOB" = .ok v) (hv : v.kind ≠ .text) :
      Derails w q request s (.notAPath v.kind)
  | pattern {v : Value} {base spelled : Path} {f : Fault} (h : s.get "WATCH_GLOB" = .ok v)
      (hs : Settings.toPath v = .ok spelled) (hb : s.get "WATCH_BASE_DIR" = .ok (.path base))
      (hf : Unlistable (WatchSet.anchored w.cwd base spelled) f) : Derails w q request s f
  | observer {f : Fault} (h : q f) (hf : ∀ e, f ≠ .os e) : Derails w q request s f

/-! ## 3. The watch set -/

theorem expandSorted_cases (t : FileTree) (pattern : Path) :
    (∃ found, Glob.expandSorted t pattern = .ok found) ∨
      ∃ f, Glob.expandSorted t pattern = .error f ∧ Unlistable pattern f := by
  cases h : Glob.expandSorted t pattern with
  | ok found => exact .inl ⟨found, rfl⟩
  | error f =>
    refine .inr ⟨f, rfl, ?_⟩
    have failed := map_eq_error.1 h
    unfold Glob.expand at failed
    dsimp only at failed
    split at failed
    · cases failed
    · split at failed
      · rename_i bytes
        cases failed
        exact .unencodable (by simpa [plainPart] using bytes)
      · split at failed
        · rename_i nul
          cases failed
          exact .nul (by simpa [plainPart] using nul)
        · cases failed

/-- A pattern comes to a watch set, or to a complaint, or it cannot be expanded. -/
theorem resolve_cases (cwd : Path) (t : FileTree) (base pattern : Path) (mayRead : Path → Bool) :
    (∃ found, WatchSet.resolve cwd t base pattern mayRead = .ok found) ∨
      (∃ path reason,
        WatchSet.resolve cwd t base pattern mayRead = .error (.cannotWatch path reason)) ∨
      ∃ f, WatchSet.resolve cwd t base pattern mayRead = .error f ∧
        Unlistable (WatchSet.anchored cwd base pattern) f := by
  unfold WatchSet.resolve
  dsimp only
  obtain ⟨found, h⟩ | ⟨f, h, unlistable⟩ := expandSorted_cases t (WatchSet.anchored cwd base pattern)
  · rw [h]
    cases found with
    | nil => exact .inr (.inl ⟨_, _, rfl⟩)
    | cons p rest =>
      dsimp only
      split
      · exact .inr (.inl ⟨_, _, rfl⟩)
      · exact .inl ⟨_, rfl⟩
  · rw [h]
    exact .inr (.inr ⟨f, rfl, unlistable⟩)

theorem toPath_cases (v : Value) : (∃ p, Settings.toPath v = .ok p) ∨
    (v.kind ≠ .text ∧ Settings.toPath v = .error (.notAPath v.kind)) := by
  cases v <;> first | exact .inl ⟨_, rfl⟩ | exact .inr ⟨nofun, rfl⟩

section Watching

variable {w : Surroundings O σ} {q : Fault → Prop} {journal : σ → Log.Journal} {s : Settings}
  {request : Request}

/-- The faults with which a watcher does not come about: a complaint, or one that derails. -/
def Halts (w : Surroundings O σ) (q : Fault → Prop) (request : Request) (s : Settings)
    (f : Fault) : Prop :=
  (∃ path reason, f = .cannotWatch path reason) ∨ Derails w q request s f

omit [Watch.Mailboxed σ] in
/-- A watcher is made for the watch set of the settings, or there is a reason against it. -/
theorem watcherOf_concludes (hs : Fit s) : Concludes (Halts w q request s) (watcherOf w s) := by
  obtain ⟨pattern, told⟩ : ∃ pattern, s.get "WATCH_GLOB" = .ok pattern := hs.there (by decide)
  obtain ⟨debounce, time⟩ : ∃ debounce, s.getSeconds "DEBOUNCE_SECONDS" = .ok debounce :=
    hs.seconds (by decide)
  obtain ⟨base, held⟩ := hs.base
  have place : s.get "WATCH_BASE_DIR" = .ok (.path base) := (Settings.get_eq_ok_iff _ _ _).2 held
  unfold watcherOf Watcher.ofPattern
  rw [told, time, place]
  refine .of_ok (.of_ok (.of_ok (.bind (.read _) fun tree => .bind (.read _) fun mayRead => ?_)))
  obtain ⟨spelled, path⟩ | ⟨kind, odd⟩ := toPath_cases pattern
  · rw [path]
    refine .of_ok ?_
    obtain ⟨found, resolved⟩ | ⟨p, reason, missing⟩ | ⟨f, failed, unlistable⟩ :=
      resolve_cases w.cwd tree base spelled mayRead
    · rw [resolved]
      refine .of_ok (.bind (.modify _) fun _ => .ofExcept fun f refused => ?_)
      cases found with
      | nil => exact absurd rfl (WatchSet.resolve_ne_nil resolved)
      | cons p rest => cases refused
    · rw [missing]
      exact .of_error _ (.inl ⟨p, reason, rfl⟩)
    · rw [failed]
      exact .of_error _ (.inr (.pattern told path place unlistable))
  · rw [odd]
    exact .of_error _ (.inr (.glob told kind))

/-! ## 4. The observer -/

omit [Log.Logbook σ] [Watch.Mailboxed σ] in
/-- All paths of a watch set can be asked for. -/
theorem firstMissing_concludes (hw : Ready w q journal) (ps : List Path) :
    Concludes (fun _ => False) (Watcher.firstMissing w.observers ps) := by
  induction ps with
  | nil => exact .pure none
  | cons p ps ih =>
    refine (hw.present p).bind fun present => ?_
    cases present with
    | true => exact ih
    | false => exact .pure (some p)

omit [Log.Logbook σ] [Watch.Mailboxed σ] in
/-- What the system refuses of an observer is a complaint. -/
theorem beginObserving_concludes (hw : Ready w q journal) (v : Watcher Seconds O) :
    Concludes (Halts w q request s) (Watcher.beginObserving w.observers w.cwd v) := by
  have observing : Concludes q (do
      let o ← Watcher.observe w.observers w.cwd v
      w.observers.start o
      pure o : Action σ O) := by
    refine .bind (hw.build.bind fun o => ?_) fun o => (hw.start o).bind fun _ => .pure o
    exact (Concludes.each (hw.schedule o _) _).bind fun _ => .pure o
  refine observing.recover (fun f _ y hy => ?_) fun f hf hn => ?_
  · split at hy
    · cases hy
      exact .raise (.inl ⟨_, _, rfl⟩)
    · cases hy
  · refine .inr (.observer hf fun e same => ?_)
    subst same
    cases hn

/-- The start of a watcher succeeds, or there is a reason against it. -/
theorem start_concludes (hw : Ready w q journal) :
    Concludes (Halts w q request s) (Watcher.start w.observers w.cwd) := by
  refine .bind (.read _) fun v => ?_
  refine ((firstMissing_concludes hw v.paths).mono fun _ => False.elim).inner.bind fun missing => ?_
  cases missing with
  | some p => exact .raise (.inl ⟨_, _, rfl⟩)
  | none =>
    refine .bind (.modify _) fun _ => (beginObserving_concludes hw v).inner.bind fun o => ?_
    exact .bind (.modify _) fun _ => .modify _

/-- A watcher that was started has an observer. -/
theorem start_observes (h : Watch.Host Seconds O σ) (cwd : Path)
    (y : Watcher Seconds O × σ) : Ends (Watcher.start h cwd) y fun o z =>
      o = .done () → z.1.observer.isSome = true := by
  refine Ends.of_read ?_
  refine (Ends.here _ y).bind (fun missing z _ => ?_) (fun _ _ _ => nofun) fun _ _ => nofun
  cases missing with
  | some p => exact nofun
  | none =>
    refine Ends.of_modify ((Ends.here _ _).bind (fun o z _ => ?_) (fun _ _ _ => nofun) ?_)
    · exact Ends.of_modify fun _ => rfl
    · exact fun _ _ => nofun

/-! ## 5. What is done on the way -/

theorem drifts_note (r : Log.Record) :
    Drifts (Unmanned w) id (.modify (Log.Logbook.note r) : Action σ Unit) :=
  .of_move fun s => .early (.note r s)

theorem watcherOf_drifts (w : Surroundings O σ) (s : Settings) :
    Drifts (Unmanned w) id (watcherOf w s) := by
  refine .bind (.ofExcept _) fun pattern => .bind (.ofExcept _) fun base => ?_
  refine .bind (.ofExcept _) fun debounce => .bind (.read _) fun tree => ?_
  refine .bind (.read _) fun mayRead => .bind (.ofExcept _) fun spelled => ?_
  refine .bind (.ofExcept _) fun paths => ?_
  exact .bind (drifts_note _) fun _ => .ofExcept _

theorem firstMissing_drifts (w : Surroundings O σ) (ps : List Path) :
    Drifts (Unmanned w) id (Watcher.firstMissing w.observers ps) :=
  Watcher.firstMissing_moves (fun p => .of_move fun s => .present p s) ps

theorem beginObserving_drifts (w : Surroundings O σ) (v : Watcher Seconds O) :
    Drifts (Unmanned w) id (Watcher.beginObserving w.observers w.cwd v) :=
  Watcher.beginObserving_moves (.of_move fun s => .build s)
    (fun o f d => .of_move fun s => .schedule o f d s) w.cwd v
    fun o => .of_move fun s => .start o s

theorem start_drifts (w : Surroundings O σ) :
    Drifts (Unmanned w) (fun y : Watcher Seconds O × σ => y.2)
      (Watcher.start w.observers w.cwd) := by
  refine .bind (.read _) fun v => (firstMissing_drifts w v.paths).inner.bind fun missing => ?_
  cases missing with
  | some p => exact .raise _
  | none =>
    refine .bind (.of_move fun y => .mail _ y.2) fun _ => ?_
    refine (beginObserving_drifts w v).inner.bind fun o => ?_
    exact .bind (.of_eq fun _ => rfl) fun _ => .of_move fun y => .early (.note _ y.2)

theorem carrying_drifts {τ : Type} {x : Action (τ × σ) Unit}
    (hx : Drifts (Unmanned w) (fun y : τ × σ => y.2) x) (t : τ) :
    Drifts (Unmanned w) id (carrying t x) := by
  intro s
  have moved := hx (t, s)
  revert moved
  unfold carrying
  rcases x (t, s) with ⟨_ | f | _, u⟩ <;> exact id

theorem startedWatcher_drifts (w : Surroundings O σ) (s : Settings) :
    Drifts (Unmanned w) id (startedWatcher w s) := by
  refine .recover (.bind (watcherOf_drifts w s) fun v => ?_) fun f y hy => ?_
  · exact .bind (carrying_drifts (start_drifts w) v) fun _ => .pure _
  · split at hy
    · cases hy
      exact .bind (drifts_note _) fun _ => .pure none
    · cases hy

/-! ## 6. The watcher -/

omit [Log.Logbook σ] [Watch.Mailboxed σ] in
theorem carrying_of_done {τ : Type} {x : Action (τ × σ) Unit} {t u : τ} {y z : σ}
    (h : x (t, y) = (.done (), u, z)) : carrying t x y = (.done u, z) := by
  simp only [carrying, h]

omit [Log.Logbook σ] [Watch.Mailboxed σ] in
theorem carrying_of_raised {τ : Type} {x : Action (τ × σ) Unit} {t u : τ} {y z : σ} {f : Fault}
    (h : x (t, y) = (.raised f, u, z)) : carrying t x y = (.raised f, z) := by
  simp only [carrying, h]

/-- A watch set that cannot be resolved, or that cannot be monitored. -/
inductive Refused (w : Surroundings O σ) (s : Settings) (f : Fault) (x y : σ) : Prop
  | unresolved (h : watcherOf w s x = (.raised f, y))
  | unmonitored {v v' : Watcher Seconds O} {z : σ} (hv : watcherOf w s x = (.done v, z))
      (h : Watcher.start w.observers w.cwd (v, z) = (.raised f, v', y))

/-- The record of a watch set that is refused. -/
def refusalRecord (path reason : Value) : Log.Record :=
  ⟨.critical, logger,
    s!"{Fault.complaint (.watchSetup path reason)}. Nothing to supervise, exiting."⟩

/-- **How the start of the watcher ends.** -/
inductive Watched (w : Surroundings O σ) (q : Fault → Prop) (request : Request) (s : Settings)
    (x : σ) : Outcome (Option (Watcher Seconds O)) → σ → Prop
  | started {v v' : Watcher Seconds O} {y z : σ} (hv : watcherOf w s x = (.done v, y))
      (h : Watcher.start w.observers w.cwd (v, y) = (.done (), v', z)) :
      Watched w q request s x (.done (some v')) z
  | refused {path reason : Value} {y : σ}
      (h : Refused w s (.complaint (.watchSetup path reason)) x y) :
      Watched w q request s x (.done none) (Log.Logbook.note (refusalRecord path reason) y)
  | derailed {f : Fault} {y : σ} (h : Derails w q request s f) :
      Watched w q request s x (.raised f) y

/-- The watcher of the settings is made and started, or a fault keeps it away. -/
inductive Attempted (w : Surroundings O σ) (q : Fault → Prop) (request : Request) (s : Settings)
    (x : σ) : Outcome (Option (Watcher Seconds O)) → σ → Prop
  | started {v v' : Watcher Seconds O} {y z : σ} (hv : watcherOf w s x = (.done v, y))
      (h : Watcher.start w.observers w.cwd (v, y) = (.done (), v', z)) :
      Attempted w q request s x (.done (some v')) z
  | failed {f : Fault} {y : σ} (h : Refused w s f x y) (halts : Halts w q request s f) :
      Attempted w q request s x (.raised f) y

theorem attempt_cases (hw : Ready w q journal) (hs : Fit s) (request : Request) (x : σ) :
    Ends (do
      let watcher ← watcherOf w s
      let watcher ← carrying watcher (Watcher.start w.observers w.cwd)
      pure (some watcher) : Action σ (Option (Watcher Seconds O))) x
      (Attempted w q request s x) := by
  rcases made : watcherOf w s x with ⟨o, y⟩
  have concluded : Conclusive (Halts w q request s) o :=
    ((watcherOf_concludes hs).ends x).result made
  cases concluded with
  | raised halts => exact .of_result (bind_raised made _) (.failed (.unresolved made) halts)
  | done v =>
    rcases begun : Watcher.start w.observers w.cwd (v, y) with ⟨o, v', z⟩
    have concluded : Conclusive (Halts w q request s) o :=
      ((start_concludes hw).ends (v, y)).result begun
    cases concluded with
    | raised halts =>
      refine .of_result ((bind_done made _).trans (bind_raised (carrying_of_raised begun) _)) ?_
      exact .failed (.unmonitored made begun) halts
    | done _ =>
      refine .of_result ((bind_done made _).trans (bind_done (carrying_of_done begun) _)) ?_
      exact .started made begun

theorem startedWatcher_cases (hw : Ready w q journal) (hs : Fit s) (request : Request) (x : σ) :
    Ends (startedWatcher w s) x (Watched w q request s x) := by
  refine (attempt_cases hw hs request x).recover (fun made z h => ?_) (fun f z y h hy => ?_)
    (fun f z h hn => ?_) fun z h => nomatch h
  · cases h with
    | started hv begun => exact .started hv begun
  · cases h with
    | failed refused =>
      -- the one fault that is handled is a complaint about the watch set
      split at hy
      · cases hy
        exact .refused refused
      · cases hy
  · cases h with
    | failed refused halts =>
      obtain ⟨path, reason, rfl⟩ | derails := halts
      · cases hn
      · exact .derailed derails

end Watching

end Respawn.Session
