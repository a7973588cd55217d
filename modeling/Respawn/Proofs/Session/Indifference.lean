import Respawn.Proofs.Child.Errands
import Respawn.Proofs.Log.Console
import Respawn.Proofs.Session.Images
import Respawn.Rehearsal.Play

/-!
# More detail on the console

How much the console tells is asked for on the command line. Nothing a session does depends on it, as
long as its surroundings do not. A ledger of what the system is asked for is part of the surroundings
here, so that this covers the order of all launches and stops.

* `Surroundings.recorded`: surroundings with such a ledger; `run_recorded`: it changes nothing;
* `Indifferent`: surroundings in which the level of the console makes no difference;
* **`conduct_agrees_on`**: in these, two sessions in the same role end alike, and on states that agree;
* `indifferent_rehearsal`: those of a rehearsal are indifferent.
-/

namespace Respawn

open Respawn.Action (Agrees Beside Without)

variable {O σ τ α : Type}

/-! ## 1. Surroundings with a ledger -/

/-- The surroundings with a ledger of what the system is asked for about processes. -/
def Surroundings.recorded (w : Surroundings O σ) :
    Surroundings O (List (Child.Errand Seconds) × σ) where
  cwd := w.cwd
  tree y := w.tree y.2
  mayRead y := w.mayRead y.2
  readEnv := w.readEnv
  processes := w.processes.recorded
  observers := w.observers.beside
  isolation := w.isolation
  setUpLog level file := (w.setUpLog level file).inner
  setTitle text := (w.setTitle text).inner

section Ledger

variable [Log.Logbook σ] [Watch.Mailboxed σ] [Stoppable σ] [Log.Logbook τ] [Watch.Mailboxed τ]
  [Stoppable τ]

omit [Log.Logbook τ] [Watch.Mailboxed τ] [Stoppable τ] in
theorem Surroundings.recorded_mirrors (w : Surroundings O σ) : w.recorded.Mirrors Without w where
  cwd := rfl
  isolation := rfl
  tree same := congrArg w.tree same
  mayRead same := congrArg w.mayRead same
  readEnv := rfl
  asked same := congrArg Stoppable.asked same
  ask same := congrArg Stoppable.ask same
  processes := Child.recorded_mirrors w.processes
  observers := Watch.beside_mirrors w.observers
  setTitle text := .inner_without (w.setTitle text)

/-- **Surroundings that answer alike are asked for the same.** -/
theorem Surroundings.Mirrors.recorded {R : σ → τ → Prop} {w : Surroundings O σ}
    {v : Surroundings O τ} (hm : w.Mirrors R v) : w.recorded.Mirrors (Beside R) v.recorded where
  cwd := hm.cwd
  isolation := hm.isolation
  tree same := hm.tree same.2
  mayRead same := hm.mayRead same.2
  readEnv := hm.readEnv
  asked same := hm.asked same.2
  ask same := ⟨same.1, hm.ask same.2⟩
  processes := hm.processes.recorded
  observers := hm.observers.beside
  setTitle text := (hm.setTitle text).inner

omit [Log.Logbook τ] [Watch.Mailboxed τ] [Stoppable τ] in
/-- A ledger changes nothing of a session. -/
theorem Session.run_recorded (w : Surroundings O σ) (environment : EnvFile.Bindings)
    (budget : Session.Budget) (args : List String) :
    Agrees Without (Session.run w.recorded environment budget args)
      (Session.run w environment budget args) :=
  Session.run_agrees w.recorded_mirrors
    (fun level file => .inner_without (w.setUpLog level file)) environment budget args

end Ledger

/-! ## 2. Indifferent surroundings -/

section Indifferent

variable [Log.Logbook σ] [Watch.Mailboxed σ] [Stoppable σ] {R : σ → σ → Prop}
  {w : Surroundings O σ}

/-- Surroundings in which the level of the console makes no difference: states that are the same but
    for that are told apart by no answer, and they come about where the log is set up with different
    levels. -/
structure Indifferent (R : σ → σ → Prop) (w : Surroundings O σ) : Prop extends
    Surroundings.Mirrors R w w where
  refl (s) : R s s
  setUpLog {level level' : Value} {threshold threshold' : Log.Level} (file : Option Path) :
    Log.Journal.resolveLevel level = .ok threshold →
    Log.Journal.resolveLevel level' = .ok threshold' →
    Agrees R (w.setUpLog level file) (w.setUpLog level' file)

theorem Indifferent.recorded (hi : Indifferent R w) : Indifferent (Beside R) w.recorded :=
  { hi.toMirrors.recorded with
    refl := fun y => ⟨rfl, hi.refl y.2⟩
    setUpLog := fun file h h' => (hi.setUpLog file h h').inner }

namespace Session

/-- The level that the settings give is understood: it is a number, or a name that means no other
    thing where levels are looked up. -/
def Understood (s : Settings) : Prop :=
  ∃ v threshold, s.get "LOG_LEVEL" = .ok v ∧ Log.Journal.resolveLevel v = .ok threshold

/-- Then so is the level of the console, whatever is asked for. -/
theorem consoleLevel_understood {s : Settings} (h : Understood s) (request : Request) :
    ∃ level threshold, consoleLevel request s = .ok level ∧
      Log.Journal.resolveLevel level = .ok threshold := by
  unfold consoleLevel
  split
  · exact ⟨_, _, rfl, rfl⟩
  · exact h

/-- **Two sessions in the same role end alike, whatever else their command lines say.** -/
theorem conduct_agrees_on (hi : Indifferent R w) {s : Settings} (understood : Understood s)
    (budget : Budget) {args args' : List String}
    (same : Role.derive (Request.parse args).selector s =
      Role.derive (Request.parse args').selector s) :
    Agrees R (conduct w s budget args) (conduct w s budget args') := by
  obtain ⟨level, threshold, told, resolved⟩ := consoleLevel_understood understood (Request.parse args)
  obtain ⟨level', threshold', told', resolved'⟩ :=
    consoleLevel_understood understood (Request.parse args')
  unfold conduct
  dsimp only
  rw [told, told', same]
  refine .of_ok (.bind (.ofExcept _) fun file => ?_)
  refine (hi.setUpLog file resolved resolved').bind fun _ => .bind (.ofExcept _) fun role => ?_
  refine (invocationOf_agrees hi.toMirrors role s).bind fun found => ?_
  cases found with
  | none => exact .pure _
  | some i => exact proceed_agrees hi.toMirrors s budget role i

/-- The same of two whole sessions on one state. -/
theorem run_agrees_on (hi : Indifferent R w) (environment : EnvFile.Bindings) (budget : Budget)
    {args args' : List String} (x : σ)
    (same : ∀ s, (Settings.effective environment w.cwd (w.tree x) w.readEnv).result = .ok s →
      Understood s ∧
        Role.derive (Request.parse args).selector s = Role.derive (Request.parse args').selector s) :
    (run w environment budget args x).1 = (run w environment budget args' x).1 ∧
      R (run w environment budget args x).2 (run w environment budget args' x).2 := by
  -- the settings are those of the state that the session begins with
  have opened (args : List String) : run w environment budget args x = (do
      Child.noteAll (Settings.effective environment w.cwd (w.tree x) w.readEnv).records
      let s ← .ofExcept (Settings.effective environment w.cwd (w.tree x) w.readEnv).result
      conduct w s budget args : Action σ Ending) x := rfl
  rw [opened args, opened args']
  refine Agrees.bind (.each (note_agrees hi.toMirrors) _) (fun _ => ?_) x x (hi.refl x)
  cases loaded : (Settings.effective environment w.cwd (w.tree x) w.readEnv).result with
  | error f => exact .raise f
  | ok s =>
    obtain ⟨understood, roles⟩ := same s loaded
    exact .of_ok (conduct_agrees_on hi understood budget roles)

end Session

end Indifferent

/-! ## 3. A rehearsal -/

namespace Rehearsal

open Log (Journal)

namespace Stage

variable {D : Type}

/-- Stages that are the same but for what the console was told. -/
def Alike (s t : Stage D) : Prop := ∃ j, s.journal.Alike j ∧ t = { s with journal := j }

theorem Alike.note {s t : Stage D} (h : Alike s t) (r : Log.Record) :
    Alike (Log.Logbook.note r s) (Log.Logbook.note r t) := by
  obtain ⟨j, same, rfl⟩ := h
  exact ⟨j.emit r, same.emit r, rfl⟩

theorem Alike.tree {s t : Stage D} (h : Alike s t) : s.tree = t.tree := by
  obtain ⟨_, ⟨_, _, -, rfl⟩, rfl⟩ := h
  rfl

/-- A change of anything but the journal. -/
theorem Alike.change {s t : Stage D} (h : Alike s t) {f : Stage D → Stage D}
    (kept : ∀ s, (f s).journal = s.journal)
    (apart : ∀ s j, f { s with journal := j } = { f s with journal := j }) : Alike (f s) (f t) := by
  obtain ⟨j, same, rfl⟩ := h
  exact ⟨j, (kept s).symm ▸ same, apart s j⟩

theorem modify_agrees {f : Stage D → Stage D} (kept : ∀ s, (f s).journal = s.journal)
    (apart : ∀ s j, f { s with journal := j } = { f s with journal := j }) :
    Agrees (Alike : Stage D → _) (.modify f) (.modify f) :=
  .modify fun _ _ same => same.change kept apart

theorem onTroupe_agrees (x : Action Troupe α) :
    Agrees (Alike : Stage D → _) (onTroupe x) (onTroupe x) := by
  rintro s _ ⟨j, same, rfl⟩
  exact ⟨rfl, j, same, rfl⟩

theorem onFleet_agrees (x : Action Fleet α) :
    Agrees (Alike : Stage D → _) (onFleet x) (onFleet x) := by
  rintro s _ ⟨j, same, rfl⟩
  exact ⟨rfl, j, same, rfl⟩

theorem onJournal_agrees {x y : Action Journal α} (h : Agrees Journal.Alike x y) :
    Agrees (Alike : Stage D → _) (onJournal x) (onJournal y) := by
  rintro s _ ⟨j, same, rfl⟩
  have ends := h s.journal j same
  exact ⟨ends.1, _, ends.2, rfl⟩

theorem processes_mirrors : (processes (D := D)).Mirrors Alike processes where
  note r same := same.note r
  spawn _ := onTroupe_agrees _
  find _ := onTroupe_agrees _
  terminate _ := onTroupe_agrees _
  kill _ := onTroupe_agrees _
  descendants _ := onTroupe_agrees _
  status _ := onTroupe_agrees _
  waitAll _ _ := onTroupe_agrees _
  now := .read fun s _ => by
    rintro ⟨j, -, rfl⟩
    rfl
  reap _ _ := onTroupe_agrees _
  poll _ := onTroupe_agrees _
  pipe _ _ := (onTroupe_agrees _).bind fun _ => .pure _
  closePipe _ _ := onTroupe_agrees _
  inBackground _ _ _ same := (onTroupe_agrees _).bind fun _ => same

theorem deliver_agrees (e : Watch.Event) :
    Agrees (Alike : Stage D → _) (deliver e) (deliver e) := by
  refine .of_read fun s _ => ?_
  rintro ⟨j, -, rfl⟩
  dsimp only
  split
  · exact .pure false
  · next filter _ =>
    rw [filter.handle_eq]
    refine .bind ?_ fun _ => .pure true
    cases filter.report s.cwd e with
    | none => exact .pure ()
    | some path =>
      exact .bind (.modify fun _ _ same => same.note _) fun _ =>
        modify_agrees (fun _ => by rfl) fun _ _ => by rfl

theorem put_agrees (p : Path) (e : Entry) : Agrees (Alike : Stage D → _) (put p e) (put p e) := by
  refine .of_read fun s _ => ?_
  rintro ⟨j, -, rfl⟩
  refine .modify fun t _ => ?_
  rintro ⟨_, ⟨console, sinks, same, rfl⟩, rfl⟩
  exact ⟨_, ⟨console, sinks, same, rfl⟩, rfl⟩

end Stage

namespace Play

open Stage (Alike deliver_agrees modify_agrees onFleet onFleet_agrees onJournal_agrees onTroupe
  onTroupe_agrees put_agrees)

/-- One step, with what it brings taken apart. -/
theorem happen_eq (events : List Watch.Event) (dies : Bool) (exit : Option Int)
    (writes : List (Path × Stage.Entry)) (signal : Option Signal) (interrupt : Bool)
    (during : Option (List Cue)) :
    happen (.cue events dies exit writes signal interrupt during) = (do
      Action.each (fun e => do let _ ← Stage.deliver e) events
      (if dies then onFleet Fleet.killCurrent else pure () : Action (Stage Cue) Unit)
      (exit.elim (pure ()) fun code => onTroupe (Troupe.finishLast code))
      Action.each (fun e => Stage.put e.1 e.2) writes
      (during.elim (pure ()) fun cues => .modify fun s => { s with during := cues })
      (signal.elim (pure ()) handle)
      if interrupt then .raise .interrupted else pure ()) := by
  cases dies <;> cases exit <;> cases during <;> cases signal <;> rfl

theorem happen_agrees (cue : Cue) : Agrees Alike (happen cue) (happen cue) := by
  obtain ⟨events, dies, exit, writes, signal, interrupt, during⟩ := cue
  rw [happen_eq]
  refine .bind (.each (fun e => (deliver_agrees e).bind fun _ => .pure ()) _) fun _ => ?_
  refine .bind ?_ fun _ => .bind ?_ fun _ => .bind (.each (fun _ => put_agrees _ _) _) fun _ =>
    .bind ?_ fun _ => .bind ?_ fun _ => ?_
  · split
    · exact onFleet_agrees _
    · exact .pure ()
  · cases exit with
    | none => exact .pure ()
    | some code => exact onTroupe_agrees _
  · cases during with
    | none => exact .pure ()
    | some cues => exact modify_agrees (fun _ => by rfl) fun _ _ => by rfl
  · cases signal with
    | none => exact .pure ()
    | some signal =>
      exact .bind (.modify fun _ _ same => same.note _) fun _ =>
        modify_agrees (fun _ => by rfl) fun _ _ => by rfl
  · split
    · exact .raise _
    · exact .pure ()

theorem await_agrees (timeout : Option Seconds) : Agrees Alike (await timeout) (await timeout) := by
  refine (onTroupe_agrees _).bind fun _ => .of_read fun s _ => ?_
  rintro ⟨j, -, rfl⟩
  dsimp only
  split
  · exact .raise _
  · exact (modify_agrees (fun _ => by rfl) fun _ _ => by rfl).bind fun _ => happen_agrees _

theorem mailbox_alike {s t : Stage Cue} (same : Alike s t) :
    Watch.Mailboxed.mailbox s = Watch.Mailboxed.mailbox t := by
  obtain ⟨_, -, rfl⟩ := same
  rfl

theorem pause_agrees : Agrees Alike pause pause := by
  refine .of_read fun s _ => ?_
  rintro ⟨j, -, rfl⟩
  exact (modify_agrees (fun _ => by rfl) fun _ _ => by rfl).bind fun _ => .each happen_agrees _

/-- **Nothing in a rehearsal depends on how much the console tells.** -/
theorem indifferent_rehearsal (cwd : Path) : Indifferent Alike (surroundings cwd) where
  cwd := rfl
  isolation := rfl
  tree same := same.tree
  mayRead _ := rfl
  readEnv := rfl
  asked same := by
    obtain ⟨_, -, rfl⟩ := same
    rfl
  ask same := same.change (fun _ => rfl) fun _ _ => rfl
  processes := Stage.processes_mirrors
  observers := {
    mailbox := mailbox_alike
    update := fun f same => same.change (fun _ => rfl) fun _ _ => rfl
    note := fun r same => same.note r
    present := fun p => .read fun s t same => by
      obtain ⟨_, ⟨_, _, -, rfl⟩, rfl⟩ := same
      rfl
    build := onFleet_agrees _
    schedule := fun _ _ _ => onFleet_agrees _
    start := fun _ => onFleet_agrees _
    stop := fun _ => onFleet_agrees _
    alive := fun _ => onFleet_agrees _
    join := fun _ _ => onFleet_agrees _
    await := fun timeout => (await_agrees timeout).inner
    pause := fun _ => (onFleet_agrees _).inner.bind fun _ => pause_agrees.inner.bind fun _ =>
      .read fun _ _ same => congrArg Watch.Mailbox.stopped (mailbox_alike same.2)
    others := .pure () }
  setTitle _ := modify_agrees (fun _ => by rfl) fun _ _ => by rfl
  refl s := ⟨s.journal, .refl _, rfl⟩
  setUpLog file h h' := onJournal_agrees (Journal.setUp_agrees h h' cwd file)

end Play

end Rehearsal

end Respawn
