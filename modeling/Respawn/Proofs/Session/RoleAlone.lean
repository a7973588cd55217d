import Respawn.Proofs.Session.Errands
import Respawn.Proofs.Session.Wording
import Respawn.Proofs.Watch.Acceptance

/-!
# Only the role matters to the processes

Of the command line of a session nothing but the role comes through to the system: two sessions in the
same role ask for the same launches and the same stops, in the same order, and they end alike.

* **`role_alone`**: what two command lines with the same role have in common.
-/

namespace Respawn.Session

open Respawn.Action (Ends)
open Watch (Watcher)

variable {O σ : Type} [Log.Logbook σ] [Watch.Mailboxed σ] [Stoppable σ]

/-! ## 1. The role alone -/

/-- **Only the role matters to the processes.** Two command lines agree on whether the first word
    other than the flag for more detail is the name of the primary, and the level of the console in
    the settings is understood. In surroundings that are indifferent to this level, two sessions on
    the same state then end alike and have asked the system for the same, in the same order. Where the
    settings have the sorts of their defaults, everything they started is the command line for their
    role, in the directory that is watched: the build command, and for a replica the separator, unless
    it is empty, the port of the replica, and where its primary is. -/
theorem role_alone {R : σ → σ → Prop} {w : Surroundings O σ} (hi : Indifferent R w)
    (environment : EnvFile.Bindings) (budget : Budget) {args args' : List String} {x : σ}
    (consent : ∀ s, (Settings.effective environment w.cwd (w.tree x) w.readEnv).result = .ok s →
      Understood s ∧ (Request.parse args).namesPrimary s = (Request.parse args').namesPrimary s) :
    (run w environment budget args x).1 = (run w environment budget args' x).1 ∧
      errands w environment budget args x = errands w environment budget args' x ∧
      ∀ s, (Settings.effective environment w.cwd (w.tree x) w.readEnv).result = .ok s → s.Sorted →
        ∃ wording : Wording s, ∀ what, .spawn what ∈ errands w environment budget args x →
          what.invocation = wording.invocation ((Request.parse args).namesPrimary s) := by
  have recorded (args : List String) := run_recorded w environment budget args ([], x) x rfl
  obtain ⟨ends, ledger, -⟩ := run_agrees_on hi.recorded environment budget ([], x)
    fun s loaded => (consent s loaded).imp_right (derive_congr (Settings.fit_of_effective loaded))
  refine ⟨?_, ledger, fun s loaded sorted => ?_⟩
  · rw [← (recorded args).1, ← (recorded args').1]
    exact ends
  · have fit := Settings.fit_of_effective loaded
    obtain ⟨wording⟩ := Wording.of_sorted fit sorted
    exact ⟨wording, errands_only environment budget args loaded fun _ _ => wording.build_eq fit⟩

/-! ## 2. Words around the role -/

section Desk

open Rehearsal (Cue Play.surroundings Stage)
open Settings (desk note pointing)

/-- Overrides by which their own file is watched. -/
def watchful : String := "\x7b\"WATCH_GLOB\": \"note\"\x7d"

def watchfulEntries : Table Value := [("WATCH_GLOB", .text "note")]

theorem inRange_watchful : Settings.InRange watchfulEntries := by
  intro e _ v hv old _ overflows
  obtain ⟨-, rfl⟩ := Prod.mk.inj (List.mem_singleton.1 hv)
  cases overflows

/-- No entry is of a foreign sort. -/
theorem familiar_watchful (src : Settings.Source) (hs : src ∈ Settings.sources) :
    ¬ ∃ w, watchfulEntries.get? src.setting = some w ∧ Settings.Foreign src.kind w := by
  rintro ⟨w, entry, foreign⟩
  have known : ∀ src ∈ Settings.sources, "WATCH_GLOB" = src.setting → src.kind = .text := by decide
  rw [watchfulEntries, Table.get?_cons] at entry
  split at entry
  · rename_i named
    cases entry
    rw [known src hs named] at foreign
    exact foreign.not_hasSort (.of_kind rfl nofun)
  · cases entry

/-- What the settings say with these overrides over them: they are of their sorts, the level of the
    console is understood, no log file is wanted, and the overrides themselves are watched. -/
structure Watchful (s : Settings) : Prop where
  sorted : s.Sorted
  level : Understood s
  logFile : s.get "LOG_FILE_PATH" = .ok .null
  command : s.get "BUILD_COMMAND" = .ok (Settings.listOfWords ["cargo", "run"])
  pattern : s.get "WATCH_GLOB" = .ok (.text "note")
  base : s.get "WATCH_BASE_DIR" = .ok (.path .top)

theorem effective_watchful :
    ∃ s, (Settings.effective pointing .top (desk watchful)).result = .ok s ∧ Watchful s := by
  have read : Settings.readOverrides .top (desk watchful) note = .ok (.entries watchfulEntries) :=
    Settings.readOverrides_desk rfl rfl rfl
  obtain ⟨plain, s, plainly, loaded, settles⟩ := effective_desk read inRange_watchful
  have stems := Settings.stems_ofEnvironment plainly
  have governed := stems.standard.toGoverned
  -- what the overrides do not name is as the environment gave it
  have kept {name : String} {v : Value} (hn : name ≠ Settings.moduleName)
      (absent : name ∉ watchfulEntries.names) (held : Table.get? plain name = some v) :
      s.get name = .ok v :=
    (Settings.get_eq_ok_iff _ _ _).2
      ((settles name hn).trans ((Settings.mergedValue_of_absent plain absent).trans held))
  have given (i : Nat) (hi : i < Settings.sources.length) {v : Value}
      (read : Settings.sources[i].read pointing = .ok v) :
      Table.get? plain Settings.sources[i].setting = some v := by
    obtain ⟨_, told, held⟩ := stems.source _ (List.getElem_mem hi)
    cases told.symm.trans read
    exact held
  have sorted := Settings.sorted_of_settles stems settles familiar_watchful
  refine ⟨s, loaded, sorted, ?_, ?_, ?_, ?_, ?_⟩
  · obtain ⟨level, understood⟩ : ∃ level, Log.Journal.resolveLevel (.text "INFO") = .ok level :=
      Log.Journal.resolveLevel_named (by decide)
    exact ⟨_, level, kept (by decide) (by decide) (Settings.logLevel_ofEnvironment plainly),
      understood⟩
  · exact kept (by decide) (by decide) (Settings.log_ofEnvironment plainly).2
  · exact kept (by decide) (by decide) (given 0 (by decide) rfl)
  · have old : Table.get? plain "WATCH_GLOB" = some (.text "src/*") := given 5 (by decide) rfl
    have converted : plain.conversion "WATCH_GLOB" (.text "note") = some (.ok (.text "note")) := by
      rw [Settings.conversion, if_pos (by decide), old]
      rfl
    have named : watchfulEntries.get? "WATCH_GLOB" = some (.text "note") := rfl
    refine (Settings.get_eq_ok_iff _ _ _).2 ((settles _ (by decide)).trans ?_)
    rw [governed.mergedValue_eq, Settings.settled, named, Option.bind_some, converted]
  · obtain ⟨base, found, held⟩ := stems.base
    rw [Settings.basePath_pointing, Settings.canonical_top] at found
    cases found
    exact kept (by decide) (by decide) held

/-- A stage before these settings. -/
def watchfulStage : Stage Cue :=
  .opening .top (.preliminary ⟨0, 0⟩ (desk watchful)) (.waiting [] none) (.waiting [] false) []

/-- A stage before these settings on which no observer was built and only the console listens. -/
structure Unobserved (x : Stage Cue) : Prop where
  cwd : x.cwd = .top
  tree : x.tree = desk watchful
  fleet : x.fleet = .waiting [] false
  console : ∀ k ∈ x.journal.sinks, k.target = .console

theorem Unobserved.note {x : Stage Cue} (h : Unobserved x) (r : Log.Record) :
    Unobserved (Log.Logbook.note r x) := by
  obtain ⟨console, errors, told⟩ := Log.Journal.emit_console h.console r
  refine ⟨h.cwd, ?_, h.fleet, ?_⟩
  · show (x.journal.emit r).files = _
    rw [told]
    exact h.tree
  · show ∀ k ∈ (x.journal.emit r).sinks, _
    rw [told]
    exact h.console

/-- The watcher of these settings, before it observes. -/
def noteWatcher (debounce : Seconds) : Watcher Seconds Nat :=
  ⟨[note], some note.text, debounce, none, 0⟩

/-- The overrides are there. -/
theorem reaches_desk (content : String) : (desk content).reaches note = true := by
  unfold FileTree.reaches
  rw [show (desk content).lookup note = _ from Settings.lookup_desk content]
  rfl

theorem watcherOf_watchful {s : Settings} (hs : Watchful s) {debounce : Seconds}
    (held : s.getSeconds "DEBOUNCE_SECONDS" = .ok debounce) {x : Stage Cue} (h : Unobserved x) :
    ∃ r, watcherOf (Play.surroundings .top) s x =
      (.done (noteWatcher debounce), Log.Logbook.note r x) := by
  have spelled : WatchSet.anchored .top .top (.ofText "note") = note := by decide
  have resolved : WatchSet.resolve .top (desk watchful) .top (.ofText "note") (fun _ => true) =
      .ok [WatchSet.anchored .top .top (.ofText "note")] := by
    refine WatchSet.resolve_plain (by decide) (by decide) ?_
    rw [spelled, WatchSet.readable, reaches_desk]
    rfl
  rw [spelled] at resolved
  have read : Settings.toPath (.text "note") = .ok (.ofText "note") := rfl
  rw [← h.tree] at resolved
  unfold watcherOf
  rw [hs.pattern, hs.base, held]
  exact ⟨_, Watcher.ofPattern_of_resolve read resolved⟩

/-- No failure is laid down for its observer. -/
theorem beginObserving_noteWatcher (debounce : Seconds) {x : Stage Cue}
    (h : x.fleet = .waiting [] false) :
    (Watcher.beginObserving (Play.surroundings .top).observers .top (noteWatcher debounce) x).1 =
      .done 0 := by
  have watched : (noteWatcher debounce).directories = [.top] := List.mergeSort_singleton _
  obtain ⟨cwd, journal, records, mailbox, asked, troupe, fleet, script, during, titles⟩ := x
  cases h
  unfold Watcher.beginObserving Watcher.observe
  rw [watched]
  rfl

theorem start_noteWatcher (debounce : Seconds) {x : Stage Cue} (h : Unobserved x) :
    Ends (Watcher.start (Play.surroundings .top).observers .top) (noteWatcher debounce, x)
      fun o _ => o = .done () := by
  have present : (desk watchful).reaches (Path.top.within note) = true := reaches_desk watchful
  have looked : Watcher.firstMissing (Play.surroundings .top).observers [note] x =
      (.done none, x) := by
    simp [Watcher.firstMissing, Play.surroundings, Stage.observers, Action.after, h.cwd, h.tree,
      present]
  have missing : Ends (Watcher.firstMissing (Play.surroundings .top).observers [note]).inner
      (noteWatcher debounce, x) fun o y => o = .done none ∧ y = (noteWatcher debounce, x) := by
    refine .of_result (Action.inner_apply _ _) ?_
    rw [looked]
    exact ⟨rfl, rfl⟩
  refine Ends.of_read (missing.bind_of_done ?_)
  rintro _ rfl
  have begun := beginObserving_noteWatcher debounce (x := Watch.Mailboxed.update .resume x) h.fleet
  exact Ends.of_modify (Ends.bind_of_done (P := fun _ => True) ⟨begun, trivial⟩ fun _ _ => rfl)

/-- The watcher of these settings starts. -/
theorem startedWatcher_watchful {s : Settings} (hs : Watchful s) {debounce : Seconds}
    (held : s.getSeconds "DEBOUNCE_SECONDS" = .ok debounce) {x : Stage Cue} (h : Unobserved x) :
    ∃ found, (startedWatcher (Play.surroundings .top) s x).1 = .done (some found) := by
  obtain ⟨r, made⟩ := watcherOf_watchful hs held h
  have started := start_noteWatcher debounce (h.note r)
  rcases begun : Watcher.start (Play.surroundings .top).observers .top
    (noteWatcher debounce, Log.Logbook.note r x) with ⟨o, v, y⟩
  cases started.result begun
  refine ⟨v, congrArg Prod.fst (Action.recover_of_done (t := y) ?_ _)⟩
  rw [Action.bind_done made]
  exact Action.bind_done (carrying_of_done begun) _

/-- From such a stage the way to the supervision is paved. -/
theorem paved_watchful {s : Settings} (hs : Watchful s) {debounce : Seconds}
    (held : s.getSeconds "DEBOUNCE_SECONDS" = .ok debounce) {level : Value} {threshold : Log.Level}
    (resolved : Log.Journal.resolveLevel level = .ok threshold) :
    Paved (Play.surroundings .top) s level none Unobserved where
  note r _ h := h.note r
  setUpLog {x} h := by
    have setUp : (Play.surroundings .top).setUpLog level none x =
        (.done (), { x with journal := { x.journal with
          level := .debug, sinks := [⟨.console, threshold, .regular⟩], libraryLevel := .info } }) := by
      show Stage.onJournal (Log.Journal.setUp .top level none) x = _
      rw [Stage.onJournal, Log.Journal.setUp_of_none resolved]
    refine .of_result setUp ⟨rfl, h.cwd, h.tree, h.fleet, ?_⟩
    intro k hk
    cases List.mem_singleton.1 hk
    rfl
  setTitle _ _ h := ⟨rfl, h.cwd, h.tree, h.fleet, h.console⟩
  watcher h := startedWatcher_watchful hs held h

/-- A primary stays one wherever the flag stands, and whatever follows. It is started. -/
theorem role_alone_verbose :
    let w := Play.surroundings .top
    let loud := ["--verbose", "master", "slave", "--verbose"]
    (run w pointing ⟨2, 1⟩ ["master"] watchfulStage).1 =
        (run w pointing ⟨2, 1⟩ loud watchfulStage).1 ∧
      errands w pointing ⟨2, 1⟩ ["master"] watchfulStage =
        errands w pointing ⟨2, 1⟩ loud watchfulStage ∧
      (∃ what, .spawn what ∈ errands w pointing ⟨2, 1⟩ loud watchfulStage) ∧
      ∀ what, .spawn what ∈ errands w pointing ⟨2, 1⟩ loud watchfulStage →
        what.invocation = ⟨["cargo", "run"], .top⟩ := by
  intro w loud
  obtain ⟨s, loaded, hs⟩ := effective_watchful
  have fit := Settings.fit_of_effective loaded
  have same (request : Request) (hr : request.selector = some "master") :
      request.namesPrimary s = true := by
    rw [namesPrimary_eq fit, hr]
    decide
  have agreed : ∀ s', (Settings.effective pointing .top (w.tree watchfulStage)).result = .ok s' →
      Understood s' ∧
        (Request.parse loud).namesPrimary s' = (Request.parse ["master"]).namesPrimary s' := by
    intro s' loaded'
    cases loaded.symm.trans loaded'
    exact ⟨hs.level, (same (.parse loud) rfl).trans (same (.parse ["master"]) rfl).symm⟩
  obtain ⟨ends, asked, worded⟩ :=
    role_alone (Rehearsal.Play.indifferent_rehearsal .top) pointing ⟨2, 1⟩ agreed
  obtain ⟨wording, started⟩ := worded s loaded hs.sorted
  have command : wording.command = ["cargo", "run"] := by
    have items := Value.list.inj (Except.ok.inj (wording.command_eq.symm.trans hs.command))
    exact List.map_injective_iff.2 (fun _ _ => Value.text.inj) items
  have base : wording.base = .top :=
    Value.path.inj (Except.ok.inj (wording.base_eq.symm.trans hs.base))
  refine ⟨ends.symm, asked.symm, ?_, fun what hw => ?_⟩
  · obtain ⟨debounce, held⟩ : ∃ debounce, s.getSeconds "DEBOUNCE_SECONDS" = .ok debounce :=
      fit.seconds (by decide)
    have unfiled : logFile s = .ok none := by
      unfold logFile
      rw [hs.logFile]
      rfl
    have role := wording.derive_eq fit (Request.parse loud)
    have built := wording.build_settled fit role
    rw [command] at built
    have unobserved : Unobserved watchfulStage := ⟨rfl, rfl, rfl, by decide⟩
    exact run_spawns (paved_watchful hs held rfl) ⟨2, 1⟩ unobserved loaded rfl unfiled role built
  · rw [started what hw, same (.parse loud) rfl]
    simp [Wording.invocation, command, base]

end Desk

end Respawn.Session
