import Respawn.Proofs.Session.Watching
import Respawn.Proofs.Settings.Variables
import Respawn.Rehearsal.Play

/-!
# The start of a session

Before a session supervises it sets its log up, settles its role and its command line, and starts its
watcher. It may end there in an orderly way: without a command line, before any observer is built, or
without a watch set, before any process is started. Or it is derailed there by a fault.

* `invocationOf_cases`: how the making of the command line ends;
* `finished_eq`: once it supervises, a session ends as its supervision does;
* **`startup_begins`**: how the start of a session ends.
-/

namespace Respawn.Session

open Respawn.Action (Ends Drifts Concludes recover_of_done)
open Relation (ReflTransGen)
open Settings (Fit Unspeakable)
open Watch (Watcher)

variable {O σ : Type} [Log.Logbook σ] [Watch.Mailboxed σ]

/-! ## 1. The way to the watcher -/

section Way

variable {w : Surroundings O σ} {q : Fault → Prop} {journal : σ → Log.Journal} {s : Settings}
  {request : Request}

/-- There is always a level for the console. -/
theorem consoleLevel_cases (hs : Fit s) (request : Request) :
    ∃ level, consoleLevel request s = .ok level ∧ (level = .int Log.Level.debug.number ∨
      ∃ name, level = .text name ∧ request.verbose = false ∧ s.get "LOG_LEVEL" = .ok level) := by
  obtain ⟨name, held⟩ := hs.logLevel
  have told : s.get "LOG_LEVEL" = .ok (.text name) := (Settings.get_eq_ok_iff _ _ _).2 held
  unfold consoleLevel
  cases loud : request.verbose with
  | true => exact ⟨_, rfl, .inl rfl⟩
  | false => exact ⟨_, told, .inr ⟨name, rfl, rfl, told⟩⟩

/-- The log file of the settings is a path, if there is one. -/
theorem logFile_cases (hs : Fit s) : ∃ file, logFile s = .ok file ∧
    ∀ p, file = some p → s.get "LOG_FILE_PATH" = .ok (.path p) := by
  unfold logFile
  obtain held | ⟨p, held⟩ := hs.logFile <;> rw [(Settings.get_eq_ok_iff _ _ _).2 held]
  · exact ⟨none, rfl, nofun⟩
  · refine ⟨some p, rfl, ?_⟩
    rintro _ ⟨⟩
    rfl

omit [Log.Logbook σ] [Watch.Mailboxed σ] in
/-- The log is set up, unless its level or its file derails the session. -/
theorem setUpLog_concludes (hw : Ready w q journal) (hs : Fit s) {level : Value}
    {file : Option Path} (hl : consoleLevel request s = .ok level) (hf : logFile s = .ok file) :
    Concludes (Derails w q request s) (w.setUpLog level file) := by
  intro y
  rw [hw.setUpLog]
  refine (Log.Journal.setUp_concludes hw.cwd level file (journal y)).mono fun f hf' => ?_
  obtain refused | ⟨rfl, p, given, nul⟩ := hf'
  · obtain ⟨level', told, rfl | ⟨name, rfl, quiet, held⟩⟩ := consoleLevel_cases hs request
    · cases hl.symm.trans told
      cases refused
    · cases hl.symm.trans told
      exact .level quiet held (Log.Journal.stray_of_resolveLevel refused)
  · obtain ⟨file', told, held⟩ := logFile_cases hs
    cases hf.symm.trans told
    exact .logFile (held p given) nul

/-- The record of settings that give no command line. -/
def emptyRecord : Log.Record :=
  ⟨.critical, logger, s!"Invalid configuration: {Fault.emptyCommand}"⟩

/-- **How the making of the command line ends**: it is built, or it is empty, or it cannot be
    spoken. -/
inductive Prepared (r : Role) (s : Settings) (y : σ) : Outcome (Option Invocation) → σ → Prop
  | built {i : Invocation} (h : Invocation.build r s = .ok i) :
      Prepared r s y (.done (some i)) (Log.Logbook.note (Invocation.builtRecord r i) y)
  | empty (h : Invocation.build r s = .error .emptyCommand) :
      Prepared r s y (.done none) (Log.Logbook.note emptyRecord y)
  | unspeakable {f : Fault} (h : Unspeakable s f) : Prepared r s y (.raised f) y

omit [Watch.Mailboxed σ] in
theorem invocationOf_built {r : Role} {i : Invocation} (h : Invocation.build r s = .ok i) (y : σ) :
    invocationOf r s y = (.done (some i), Log.Logbook.note (Invocation.builtRecord r i) y) := by
  refine recover_of_done ?_ _
  simp [Invocation.prepare, h, Action.after, Action.ofExcept]

omit [Watch.Mailboxed σ] in
theorem invocationOf_cases (hs : Fit s) {selector : Option String} {r : Role}
    (hr : Role.derive selector s = .ok r) (y : σ) : Ends (invocationOf r s) y (Prepared r s y) := by
  obtain ⟨i, built⟩ | empty | ⟨f, failed, unspeakable⟩ := hs.build_cases hr
  · exact .of_result (invocationOf_built built y) (.built built)
  · exact .of_result (invocationOf_invalid empty rfl y) (.empty empty)
  · have unnamed : f.isValueFault = false := by cases unspeakable <;> rfl
    refine .of_result ?_ (.unspeakable unspeakable)
    simp [invocationOf, Invocation.prepare, failed, unnamed, Action.recover, Action.after,
      Action.ofExcept]

end Way

/-! ## 2. The supervision -/

variable [Stoppable σ]

/-- How a session ends whose supervision ends so. -/
def entered : Outcome Unit → Outcome Ending
  | .done _ => .done .finished
  | .raised f => .raised f
  | .unfinished => .unfinished

/-- What a session supervises with: its plans, and how often it looks. -/
structure Means (w : Surroundings O σ) (s : Settings) where
  launch : Child.LaunchPlan Seconds
  stop : Child.StopPlan Seconds
  interval : Seconds
  launch_eq : Child.launchPlan s w.isolation none none none = .ok launch
  stop_eq : Child.stopPlan s none none = .ok stop
  interval_eq : s.getSeconds "SUPERVISOR_SLEEP_INTERVAL" = .ok interval

/-- The supervision of a command line, with a watcher that was started. -/
def supervision (w : Surroundings O σ) (budget : Budget) (means : Means w s) (i : Invocation)
    (watcher : Watcher Seconds O) (x : σ) :
    Outcome Unit × (Supervisor × (Watcher Seconds O × σ)) :=
  supervise w (crew w means.launch means.stop budget.polls) means.interval budget.rounds
    (Supervisor.ofInvocation i, (watcher, x))

theorem superviseWith_eq (w : Surroundings O σ) (budget : Budget) (means : Means w s)
    (i : Invocation) (watcher : Watcher Seconds O) (x : σ) :
    superviseWith w s budget i watcher x =
      ((supervision w budget means i watcher x).1,
        (supervision w budget means i watcher x).2.2.2) := by
  have opened : superviseWith w s budget i watcher = (do
      let _ ← carrying watcher (do
        let _ ← carrying (Supervisor.ofInvocation i) (supervise w
          (crew w means.launch means.stop budget.polls) means.interval budget.rounds)
        pure ())) := by
    unfold superviseWith
    rw [means.launch_eq, means.stop_eq, means.interval_eq]
    rfl
  rw [opened]
  unfold supervision
  rcases ended : supervise w (crew w means.launch means.stop budget.polls) means.interval
    budget.rounds (Supervisor.ofInvocation i, watcher, x) with ⟨_ | f | _, v, u, z⟩ <;>
  simp [carrying, Action.after, ended]

/-- A session that supervises ends as its supervision does. -/
theorem finished_eq (w : Surroundings O σ) (budget : Budget) (means : Means w s) (i : Invocation)
    (watcher : Watcher Seconds O) (x : σ) :
    (do
      superviseWith w s budget i watcher
      pure .finished : Action σ Ending) x =
      (entered (supervision w budget means i watcher x).1,
        (supervision w budget means i watcher x).2.2.2) := by
  simp only [Action.bind_apply, Action.after, superviseWith_eq w budget means]
  cases (supervision w budget means i watcher x).1 <;> rfl

/-! ## 3. The whole start -/

/-- **How the start of a session ends**: without a command line, since the build command is empty;
    without a watch set, since it is refused; in the supervision, with a watcher that observes; or
    derailed. -/
inductive Begun (w : Surroundings O σ) (q : Fault → Prop) (s : Settings) (budget : Budget)
    (request : Request) (x : σ) : Outcome Ending → σ → Prop
  | unbuilt {r : Role} {y : σ} (hr : Role.derive request.selector s = .ok r)
      (hb : Invocation.build r s = .error .emptyCommand) (moves : ReflTransGen (Early w) x y) :
      Begun w q s budget request x (.done .invalidSettings) (Log.Logbook.note emptyRecord y)
  | unwatched {r : Role} {i : Invocation} {path reason : Value} {y z : σ}
      (hr : Role.derive request.selector s = .ok r) (hb : Invocation.build r s = .ok i)
      (before : ReflTransGen (Unmanned w) x y)
      (h : Refused w s (.complaint (.watchSetup path reason)) y z)
      (moves : ReflTransGen (Unmanned w) y (Log.Logbook.note (refusalRecord path reason) z)) :
      Begun w q s budget request x (.done .nothingToWatch)
        (Log.Logbook.note (refusalRecord path reason) z)
  | supervised {r : Role} {i : Invocation} {v watcher : Watcher Seconds O} {y z t : σ}
      (hr : Role.derive request.selector s = .ok r) (hb : Invocation.build r s = .ok i)
      (before : ReflTransGen (Unmanned w) x y) (hv : watcherOf w s y = (.done v, z))
      (started : Watcher.start w.observers w.cwd (v, z) = (.done (), watcher, t))
      (observes : watcher.observer.isSome = true) (moves : ReflTransGen (Unmanned w) y t)
      (means : Means w s) :
      Begun w q s budget request x (entered (supervision w budget means i watcher t).1)
        (supervision w budget means i watcher t).2.2.2
  | derailed {f : Fault} {y : σ} (h : Derails w q request s f)
      (moves : ReflTransGen (Unmanned w) x y) : Begun w q s budget request x (.raised f) y

omit [Stoppable σ] in
theorem Early.unmanned {w : Surroundings O σ} {x y : σ} (h : ReflTransGen (Early w) x y) :
    ReflTransGen (Unmanned w) x y :=
  ReflTransGen.mono (fun _ _ => Unmanned.early) _ _ h

section Whole

variable {w : Surroundings O σ} {q : Fault → Prop} {journal : σ → Log.Journal} {s : Settings}
  {request : Request} {x : σ}

omit [Watch.Mailboxed σ] [Stoppable σ] in
/-- What every record keeps, all of them keep. -/
theorem noteAll_keeps {P : σ → Prop} (note : ∀ r {y : σ}, P y → P (Log.Logbook.note r y))
    (records : List Log.Record) {y : σ} (hy : P y) :
    Ends (Child.noteAll records) y fun o z => o = .done () ∧ P z := by
  induction records generalizing y with
  | nil => exact ⟨rfl, hy⟩
  | cons r rest ih => exact Ends.of_modify (ih (note r hy))

omit [Watch.Mailboxed σ] [Stoppable σ] in
theorem noteAll_ends (w : Surroundings O σ) (records : List Log.Record) (y : σ) :
    Ends (Child.noteAll records) y fun o z => o = .done () ∧ ReflTransGen (Early w) y z :=
  noteAll_keeps (fun r z before => before.tail (.note r z)) records .refl

/-- Where settings load, a session is what it does under them, after what was told of the loading. -/
theorem run_of_loaded {w : Surroundings O σ} {environment : EnvFile.Bindings} {s : Settings} {x : σ}
    (loaded : (Settings.effective environment w.cwd (w.tree x) w.readEnv).result = .ok s)
    (budget : Budget) (args : List String) : run w environment budget args x = (do
      Child.noteAll (Settings.effective environment w.cwd (w.tree x) w.readEnv).records
      conduct w s budget args : Action σ Ending) x := by
  show (do
    Child.noteAll (Settings.effective environment w.cwd (w.tree x) w.readEnv).records
    let s ← .ofExcept (Settings.effective environment w.cwd (w.tree x) w.readEnv).result
    conduct w s budget args : Action σ Ending) x = _
  rw [loaded]
  rfl

omit [Log.Logbook σ] [Watch.Mailboxed σ] [Stoppable σ] in
theorem means_of_fit (hs : Fit s) (w : Surroundings O σ) : Nonempty (Means w s) := by
  obtain ⟨launch, launching⟩ := hs.launchPlan w.isolation
  obtain ⟨stop, stopping⟩ := hs.stopPlan
  exact ⟨⟨launch, stop, .real Settings.half, launching, stopping, hs.interval⟩⟩

/-- From the command line on. -/
theorem proceed_begins (hw : Ready w q journal) (hs : Fit s) (budget : Budget) {r : Role}
    {i : Invocation} (hr : Role.derive request.selector s = .ok r)
    (hb : Invocation.build r s = .ok i) {y : σ} (before : ReflTransGen (Unmanned w) x y) :
    Ends (proceed w s budget r i) y (Begun w q s budget request x) := by
  have move : Drifts (Unmanned w) id (w.setTitle (title r)) := .of_move (.setTitle (title r))
  refine ((Ends.here _ y).and (move.ends y)).bind (fun _ z h => ?_) (fun f z h => ?_) fun z h => ?_
  · refine Ends.of_modify ?_
    have there := (before.trans h.2).tail (.early (.note ⟨.info, logger, s!"Role: {r}"⟩ z))
    refine ((startedWatcher_cases hw hs request _).and ((startedWatcher_drifts w s).ends _)).bind
      (fun found u h => ?_) (fun f u h => ?_) fun u h => nomatch h.1
    · obtain ⟨watched, moves⟩ := h
      cases watched with
      | refused refused => exact .unwatched hr hb there refused moves
      | started hv begun =>
        -- from here on the session is its supervision, whatever that comes to
        obtain ⟨means⟩ := means_of_fit hs w
        have observes := (start_observes w.observers w.cwd _).result begun rfl
        refine .of_result (finished_eq w budget means i _ u) ?_
        exact .supervised hr hb there hv begun observes moves means
    · obtain ⟨watched, moves⟩ := h
      cases watched with
      | derailed derails => exact .derailed derails (there.trans moves)
  · exact .derailed (.title (congrArg Prod.fst h.1)) (before.trans h.2)
  · exact absurd (congrArg Prod.fst h.1) (hw.setTitle (title r) y)

/-- From the settings on. -/
theorem conduct_begins (hw : Ready w q journal) (hs : Fit s) (budget : Budget) (args : List String)
    {y : σ} (before : ReflTransGen (Early w) x y) :
    Ends (conduct w s budget args) y (Begun w q s budget (Request.parse args) x) := by
  obtain ⟨level, console, -⟩ := consoleLevel_cases hs (Request.parse args)
  obtain ⟨file, filed, -⟩ := logFile_cases hs
  obtain ⟨r, hr⟩ : ∃ r, Role.derive (Request.parse args).selector s = .ok r := by
    obtain primary | ⟨host, port, -, replica⟩ := hs.role (Request.parse args).selector
    · exact ⟨_, primary⟩
    · exact ⟨_, replica⟩
  unfold conduct
  dsimp only
  rw [console, filed, hr]
  refine Ends.of_ok (Ends.of_ok ?_)
  -- up to the command line only the log can be at fault
  have move : Drifts (Early w) id (w.setUpLog level file) := .of_move (.setUpLog level file)
  refine (((setUpLog_concludes hw hs console filed).ends y).and (move.ends y)).bind
    (fun _ z h => ?_) (fun f z h => ?_) fun z h => nomatch h.1
  · have there := before.trans h.2
    refine Ends.of_ok ((invocationOf_cases hs hr z).bind (fun found u h => ?_) (fun f u h => ?_)
      fun u h => nomatch h)
    · cases h with
      | built built =>
        exact proceed_begins hw hs budget hr built (Early.unmanned (there.tail (.note _ z)))
      | empty empty => exact .unbuilt hr empty there
    · cases h with
      | unspeakable unspeakable => exact .derailed (.command unspeakable) (Early.unmanned there)
  · cases h.1 with
    | raised derails => exact .derailed derails (Early.unmanned (before.trans h.2))

/-- **Where settings load, the start of a session comes to one of its ends.** -/
theorem startup_begins (hw : Ready w q journal) {environment : EnvFile.Bindings}
    (hs : (Settings.effective environment w.cwd (w.tree x) w.readEnv).result = .ok s) (budget : Budget)
    (args : List String) : Ends (run w environment budget args) x
      (Begun w q s budget (Request.parse args) x) := by
  refine Ends.of_read (Ends.bind_of_done (noteAll_ends w _ x) fun y before => ?_)
  rw [hs]
  exact Ends.of_ok (conduct_begins hw (Settings.fit_of_effective hs) budget args before)

end Whole

/-! ## 4. A number for a command -/

open Rehearsal (Stage Fleet Play.surroundings Cue)

theorem onFleet_concludes {α D : Type} {q : Fault → Prop} {x : Action Fleet α}
    (hx : Concludes q x) : Concludes q (Stage.onFleet x : Action (Stage D) α) := fun s => hx s.fleet

/-- Rehearsed observers fail as the system does. -/
theorem failAt_concludes (o : Nat) (site : Rehearsal.Site) :
    Concludes (fun f => ∃ e, f = .os e) (Fleet.failAt o site) := by
  refine .bind (.read _) fun fleet => ?_
  split
  · split
    · exact .raise ⟨_, rfl⟩
    · exact .pure ()
  · exact .pure ()

/-- A session can start in the surroundings of a rehearsal. -/
theorem ready_rehearsal {cwd : Path} (h : cwd.isAskable = true) :
    Ready (Play.surroundings cwd) (fun f => ∃ e, f = .os e) Stage.journal where
  cwd := h
  setUpLog _ _ _ := rfl
  setTitle _ _ := nofun
  present _ := .read _
  build := onFleet_concludes (.bind (.modify _) fun _ => .bind (.read _) fun _ =>
    .bind (.modify _) fun _ => .pure _)
  schedule o _ _ := onFleet_concludes (.bind (.modify _) fun _ => .bind (.modify _) fun _ =>
    failAt_concludes o _)
  start o := onFleet_concludes (.bind (.modify _) fun _ => .bind (failAt_concludes o _) fun _ =>
    .modify _)

/-- A stage before overrides that give a number for the command. -/
def numberStage : Stage Cue :=
  .opening .top (.preliminary ⟨0, 0⟩ (Settings.desk Settings.crossed)) (.waiting [] none)
    (.waiting [] false) []

section Number

open Settings (pointing desk crossed note)

/-- With overrides that are in range, the settings load. They are those of the environment, merged
    with the overrides. -/
theorem effective_desk {content : String} {entries : Table Value}
    (read : Settings.readOverrides .top (desk content) note = .ok (.entries entries))
    (range : Settings.InRange entries) : ∃ plain s,
      Settings.ofEnvironment pointing .top (desk content) = .ok plain ∧
      (Settings.effective pointing .top (desk content)).result = .ok s ∧
      ∀ name, name ≠ Settings.moduleName →
        Table.get? s name = Settings.mergedValue plain entries name := by
  have apart : ∀ src ∈ Settings.sources, "DEVLOOP_OVERRIDES" ≠ src.key := by decide
  refine Settings.effective_desk_of_unset (fun src hs => ?_) Settings.basePath_pointing rfl read range
  simp [pointing, Table.get?_cons, apart src hs]

/-- The settings load, and the number is among them. -/
theorem effective_crossed : ∃ s, (Settings.effective pointing .top (desk crossed)).result = .ok s ∧
    s.get "BUILD_COMMAND" = .ok (.int 5) := by
  have read : Settings.readOverrides .top (desk crossed) note =
      .ok (.entries Settings.crossedEntries) := Settings.readOverrides_desk rfl rfl rfl
  obtain ⟨plain, s, plainly, loaded, settles⟩ := effective_desk read Settings.inRange_crossed
  have stems := Settings.stems_ofEnvironment plainly
  have source : Settings.sources[0] ∈ Settings.sources := List.getElem_mem (by decide)
  obtain ⟨old, held, sort⟩ := stems.sort source
  obtain ⟨v, merged, -, taken⟩ := Settings.mergedValue_sort stems.standard.toGoverned source held sort
    Settings.crossedEntries
  refine ⟨s, loaded, (Settings.get_eq_ok_iff _ _ _).2 ?_⟩
  rw [← taken (.int 5) rfl (Settings.foreign_number 5), ← merged]
  exact settles _ (by decide)

/-- No command line comes of the number, and the session has no way out for that. -/
theorem startup_begins_number : ∃ s f y,
    (Settings.effective pointing .top numberStage.tree).result = .ok s ∧
      run (Play.surroundings .top) pointing ⟨2, 1⟩ [] numberStage = (.raised f, y) ∧
      Derails (Play.surroundings .top) (fun f => ∃ e, f = .os e) (Request.parse []) s f := by
  obtain ⟨s, loaded, number⟩ := effective_crossed
  have unbuilt (r : Role) : Invocation.build r s = .error (.notIterable .int) := by
    simp only [Invocation.build, number, bind, Except.bind, Value.items]
    rfl
  -- the tree of the stage and its directory, as the surroundings tell them
  have loads : (Settings.effective pointing (Play.surroundings .top).cwd
      ((Play.surroundings .top).tree numberStage)).result = .ok s := loaded
  rcases ended : run (Play.surroundings .top) pointing ⟨2, 1⟩ [] numberStage with ⟨o, y⟩
  have askable : Path.top.isAskable = true := rfl
  have begun := (startup_begins (ready_rehearsal askable) loads ⟨2, 1⟩ []).result ended
  cases begun with
  | unbuilt hr hb => cases (unbuilt _).symm.trans hb
  | unwatched hr hb => cases (unbuilt _).symm.trans hb
  | supervised hr hb => cases (unbuilt _).symm.trans hb
  | derailed derails moves => exact ⟨s, _, y, loaded, rfl, derails⟩

end Number

end Respawn.Session
