import Respawn.Proofs.Log.Handlers
import Respawn.Proofs.Session.Preparation
import Respawn.Proofs.Settings.Variables
import Respawn.Proofs.Text.Capitals

/-!
# The log that the settings ask for

A name that is no level stands for information, and a log file that cannot be opened is given up with
a record. So hardly any settings keep the log from being set up. Two kinds of them do: the name of
something else that is found where levels are looked up, and a log file whose path holds a NUL.

* `resolves_of_capitals`: what a name in capitals comes to as a level;
* `openFile_nul_iff`: when a NUL in the path of a log file is met;
* **`settings_set_log_up`**: what the settings of an environment make of the log.
-/

namespace Respawn

/-! ## 1. A NUL in a path -/

namespace Path

variable {cwd p : Path}

/-- The last name of a path is there from wherever it is seen, unless it leads up. -/
theorem last_mem_absolute {names : List String} {name : String} (h : p.parts = names ++ [name])
    (up : name ≠ "..") : name ∈ (cwd.absolute p).parts := by
  obtain ⟨before, seen⟩ : ∃ before, (cwd.within p).parts = before ++ [name] := by
    unfold Path.within
    split
    · exact ⟨names, h⟩
    · exact ⟨cwd.parts ++ names, by rw [h, List.append_assoc]⟩
  have kept (anchored : Bool) (names : List String) :
      collapseStep anchored names name = name :: names := if_neg up
  show name ∈ ((cwd.within p).parts.foldl (collapseStep _) []).reverse
  rw [seen, List.foldl_append, List.foldl_cons, List.foldl_nil, kept, List.mem_reverse]
  exact .head _

theorem isAskable_of_absolute (hp : p.parent.isAskable = true)
    (h : (cwd.absolute p).isAskable = true) : p.isAskable = true := by
  rw [isAskable_iff] at hp h ⊢
  intro name hn
  obtain empty | ⟨names, last, same⟩ := p.parts.eq_nil_or_concat
  · rw [empty] at hn
    cases hn
  · rw [List.concat_eq_append] at same
    rw [parent, same, List.dropLast_concat] at hp
    rw [same, List.mem_append, List.mem_singleton] at hn
    obtain before | rfl := hn
    · exact hp name before
    · by_cases up : name = ".."
      · rw [up]
        simp
      · exact h name (last_mem_absolute same up)

end Path

namespace Log

namespace Journal

variable {cwd p : Path} {j : Journal}

/-- The path of a log file holds a NUL that is met: in the name of a directory, or in the name of the
    file once its directories are there. -/
def NulMet (cwd p : Path) (t : FileTree) : Prop :=
  p.isAskable = false ∧
    (p.parent.isAskable = true → ∃ files, t.makeDirs cwd p.parent = .ok files)

/-- **When a NUL keeps a log file from being opened.** -/
theorem openFile_nul_iff (hc : cwd.isAskable = true) :
    (openFile cwd p j).1 = .raised .nulInPath ↔ NulMet cwd p j.files := by
  unfold openFile NulMet
  cases above : p.parent.isAskable with
  | false =>
    refine iff_of_true rfl ⟨?_, nofun⟩
    cases whole : p.isAskable with
    | false => rfl
    | true => cases above.symm.trans (Path.isAskable_parent whole)
  | true =>
    cases made : j.files.makeDirs cwd p.parent with
    | error e =>
      refine iff_of_false nofun fun met => ?_
      obtain ⟨files, there⟩ := met.2 rfl
      cases there
    | ok files =>
      have same : (cwd.absolute p).isAskable = p.isAskable :=
        Bool.eq_iff_iff.2 ⟨Path.isAskable_of_absolute above, Path.isAskable_absolute hc⟩
      dsimp only
      rw [same]
      cases p.isAskable with
      | false => exact iff_of_true rfl ⟨rfl, fun _ => ⟨files, rfl⟩⟩
      | true =>
        refine iff_of_false ?_ nofun
        simp only [Bool.not_true, Bool.false_eq_true, if_false]
        split <;> nofun

/-! ## 2. The name of a level -/

/-- What a name means as a level: the level that has it, or information if none has. -/
inductive Means (name : String) : Level → Prop
  | named {level} (h : (name, level) ∈ levelNames) : Means name level
  | other (h : ∀ level, (name, level) ∉ levelNames) : Means name .info

/-- A name that is found where levels are looked up and is not the name of a level. -/
def IsStray (name : String) : Prop := ∃ f, (name, f) ∈ strayNames

/-- What a name comes to as a level. -/
inductive Resolves (name : String) : Except Fault Level → Prop
  | level {level} (known : ¬ IsStray name) (means : Means name level) : Resolves name (.ok level)
  | stray {f} (h : (name, f) ∈ strayNames) : Resolves name (.error f)

/-- **What a name in capitals comes to as a level.** -/
theorem resolves_of_capitals {name : String} (h : Text.toUpper name.toList = name.toList) :
    Resolves name (resolveLevel (.text name)) := by
  have apart : ∀ e ∈ levelNames, ∀ e' ∈ strayNames, e'.1 ≠ e.1 := by decide
  show Resolves name (levelNamed name)
  unfold levelNamed
  rw [h, String.ofList_toList]
  dsimp only
  split
  · next found =>
    have same := List.find?_some found
    have listed := List.mem_of_find?_eq_some found
    rw [decide_eq_true_eq] at same
    cases same
    exact .level (fun ⟨_, stray⟩ => apart _ listed _ stray rfl) (.named listed)
  · next found =>
    have same := List.find?_some found
    rw [decide_eq_true_eq] at same
    cases same
    exact .stray (List.mem_of_find?_eq_some found)
  · next unnamed unknown =>
    refine .level (fun ⟨f, stray⟩ => ?_) (.other fun level listed => ?_)
    · exact List.find?_eq_none.1 unknown _ stray (decide_eq_true rfl)
    · exact List.find?_eq_none.1 unnamed _ listed (decide_eq_true rfl)

/-! ## 3. The log -/

variable {v : Value} {wanted : Option Path} {o : Outcome Unit} {k : Journal}

/-- The records that a log file costs: one where the system refuses it. -/
def refusals (cwd : Path) (wanted : Option Path) (j : Journal) : List Record :=
  match wanted.map fun p => (p, (openFile cwd p j).1) with
  | some (p, .raised (.os e)) => [refusalRecord p e]
  | _ => []

theorem refusals_of_refused {e : OsError} (given : wanted = some p)
    (answer : (openFile cwd p j).1 = .raised (.os e)) :
    refusals cwd wanted j = [refusalRecord p e] := by
  simp only [refusals, given, Option.map_some, answer]

theorem refusals_of_opened {place : List String} (given : wanted = some p)
    (answer : (openFile cwd p j).1 = .done place) : refusals cwd wanted j = [] := by
  simp only [refusals, given, Option.map_some, answer]

/-- The files after a log file was opened, or was refused. -/
def filesAfter (cwd : Path) (wanted : Option Path) (j : Journal) : FileTree :=
  (wanted.map fun p => (openFile cwd p j).2.files).getD j.files

theorem filesAfter_of_answer {answer : Outcome (List String)} {files : FileTree}
    (given : wanted = some p) (h : openFile cwd p j = (answer, { j with files := files })) :
    filesAfter cwd wanted j = files := by
  simp only [filesAfter, given, Option.map_some, h, Option.getD_some]

namespace SetsUp

/-- A log that was set up is as it was but for its levels and sinks, for the files, and for a record
    where the file was refused. -/
theorem records (h : SetsUp cwd v wanted j o k) (returns : o = .done ()) :
    k = { (refusals cwd wanted j).foldl (fun j r => j.emit r)
      { j with level := .debug, sinks := k.sinks, files := filesAfter cwd wanted j } with
      libraryLevel := .info } := by
  cases h with
  | console level given =>
    subst given
    rfl
  | file level given answer =>
    rw [refusals_of_opened given (congrArg Prod.fst answer), filesAfter_of_answer given answer]
    rfl
  | refused level given answer =>
    rw [refusals_of_refused given (congrArg Prod.fst answer), filesAfter_of_answer given answer,
      emit_sinks]
    rfl
  | nul level given answer => cases returns
  | unknown level => cases returns

/-- Without a level there is no sink. -/
theorem of_unknown (h : SetsUp cwd v wanted j o k) {f : Fault} (unknown : resolveLevel v = .error f) :
    o = .raised f ∧ k.sinks = [] := by
  cases h with
  | console level given => cases level.symm.trans unknown
  | file level given answer => cases level.symm.trans unknown
  | refused level given answer => cases level.symm.trans unknown
  | nul level given answer => cases level.symm.trans unknown
  | unknown level =>
    cases level.symm.trans unknown
    exact ⟨rfl, rfl⟩

/-- Where a NUL is met, the console is a sink already. -/
theorem of_nul (h : SetsUp cwd v wanted j o k) {threshold : Level}
    (known : resolveLevel v = .ok threshold) (given : wanted = some p)
    (met : (openFile cwd p j).1 = .raised .nulInPath) :
    o = .raised .nulInPath ∧ k.sinks = handlers threshold none := by
  cases h with
  | console level given' => cases given.symm.trans given'
  | file level given' answer =>
    cases given.symm.trans given'
    cases met.symm.trans (congrArg Prod.fst answer)
  | refused level given' answer =>
    cases given.symm.trans given'
    cases met.symm.trans (congrArg Prod.fst answer)
  | nul level given' answer =>
    cases level.symm.trans known
    exact ⟨rfl, rfl⟩
  | unknown level => cases level.symm.trans known

end SetsUp

/-- **What a name for the level and a wanted file make of the log.** It is set up unless the name is
    a stray one or a NUL is met. Then the console is a sink from the level that the name means, the
    file is one if it can be opened, and one that cannot be has cost a record. -/
structure Configured (cwd : Path) (name : String) (wanted : Option Path) (j : Journal)
    (o : Outcome Unit) (k : Journal) : Prop where
  returns_iff : o = .done () ↔ ¬ IsStray name ∧ ∀ p, wanted = some p → ¬ NulMet cwd p j.files
  sinks : o = .done () → ∃ threshold, Means name threshold ∧ k.level = .debug ∧
    k.sinks = handlers threshold (opened cwd wanted j)
  records : o = .done () → k = { (refusals cwd wanted j).foldl (fun j r => j.emit r)
    { j with level := .debug, sinks := k.sinks, files := filesAfter cwd wanted j } with
    libraryLevel := .info }
  stray : IsStray name → ∃ f, (name, f) ∈ strayNames ∧ o = .raised f ∧ k.sinks = []
  nul : ¬ IsStray name → ∀ p, wanted = some p → NulMet cwd p j.files →
    o = .raised .nulInPath ∧ ∃ threshold, Means name threshold ∧ k.sinks = handlers threshold none

theorem configured_of_setsUp {name : String} (capitals : Text.toUpper name.toList = name.toList)
    (hc : cwd.isAskable = true) (h : SetsUp cwd (.text name) wanted j o k) :
    Configured cwd name wanted j o k := by
  have resolves := resolves_of_capitals capitals
  cases level : resolveLevel (.text name) with
  | error f =>
    rw [level] at resolves
    cases resolves with
    | stray listed =>
      obtain ⟨raised, empty⟩ := h.of_unknown level
      have failed : o ≠ .done () := by
        rw [raised]
        nofun
      exact {
        returns_iff := iff_of_false failed fun fine => fine.1 ⟨f, listed⟩
        sinks := fun returns => absurd returns failed
        records := fun returns => absurd returns failed
        stray := fun _ => ⟨f, listed, raised, empty⟩
        nul := fun known => absurd ⟨f, listed⟩ known }
  | ok threshold =>
    rw [level] at resolves
    cases resolves with
    | level known means =>
      refine {
        returns_iff := h.returns_iff.trans (and_congr ?_ ?_)
        sinks := fun returns => ?_
        records := h.records
        stray := fun stray => absurd stray known
        nul := fun _ p given met => ?_ }
      · exact iff_of_true ⟨threshold, level⟩ known
      · exact forall_congr' fun p => forall_congr' fun _ => not_congr (openFile_nul_iff hc)
      · obtain ⟨threshold', level', sinks, root, -⟩ := h.returned returns
        cases level.symm.trans level'
        exact ⟨threshold, means, root, sinks⟩
      · obtain ⟨raised, console⟩ := h.of_nul level given ((openFile_nul_iff hc).2 met)
        exact ⟨raised, threshold, means, console⟩

end Journal

/-! ## 4. The settings -/

section Settings

open Settings (EnvReader effective environment)

/-- The name that an environment gives the level of the console, in capitals. -/
def levelName (env : EnvFile.Bindings) : String :=
  String.ofList (Text.toUpper ((env.get? "DEVLOOP_LOG_LEVEL").getD "INFO").toList)

/-- The log file that an environment asks for. -/
def wantedFile (env : EnvFile.Bindings) : Option Path :=
  let text := (env.get? "DEVLOOP_LOG_FILE").getD ""
  if text = "" then none else some (.ofText text)

theorem levelName_capitals (env : EnvFile.Bindings) :
    Text.toUpper (levelName env).toList = (levelName env).toList := by
  rw [levelName, String.toList_ofList]
  exact Text.toUpper_toUpper _

variable {surroundings : EnvFile.Bindings} {home cwd : Path} {tree : FileTree} {reader : EnvReader}
  {s : Settings}

/-- The settings in effect say of the log what the environment says. -/
theorem settings_log (h : (effective surroundings home tree reader).result = .ok s) :
    ∃ file, (reader surroundings home tree).result = .ok file ∧
      s.get "LOG_LEVEL" = .ok (.text (levelName (environment surroundings file))) ∧
      Session.logFile s = .ok (wantedFile (environment surroundings file)) := by
  obtain ⟨file, plain, entries, hf, hp, settles⟩ := Settings.effective_settles h
  obtain ⟨level, path⟩ := Settings.log_ofEnvironment hp
  have kept {name : String} (hn : name ≠ Settings.moduleName)
      (hm : Settings.modifiable.contains name = false) :
      Table.get? s name = Table.get? plain name :=
    (settles name hn).trans (Settings.mergedValue_of_fixed hp entries hm)
  refine ⟨file, hf, ?_, ?_⟩
  · exact (Settings.get_eq_ok_iff _ _ _).2 ((kept (by decide) (by decide)).trans level)
  · rw [Session.logFile,
      (Settings.get_eq_ok_iff _ _ _).2 ((kept (by decide) (by decide)).trans path), wantedFile]
    split <;> rfl

/-- **What the settings make of the log.** Where settings load, however the file `.env` is read, the
    log is set up from them, unless the name of the level, in capitals, is that of something else that
    is found where levels are looked up, or the path of the log file holds a NUL that is met. Then
    every other name than that of a level means information, and a log file that cannot be opened
    costs one record, and nothing but itself. -/
theorem settings_set_log_up (h : (effective surroundings home tree reader).result = .ok s)
    (hc : cwd.isAskable = true) (j : Journal) :
    ∃ file, (reader surroundings home tree).result = .ok file ∧
      Action.Ends (Setup.carryOut ⟨none, none⟩ s cwd) j
        (Journal.Configured cwd (levelName (environment surroundings file))
          (wantedFile (environment surroundings file)) j) := by
  obtain ⟨file, hf, level, wanted⟩ := settings_log h
  refine ⟨file, hf, ?_⟩
  rw [Setup.carryOut_eq (c := ⟨none, none⟩) level wanted]
  exact (Journal.setUp_ends cwd _ _ j).mono fun o k =>
    Journal.configured_of_setsUp (levelName_capitals _) hc

end Settings

/-! ## 5. A name in lower case, and a directory for a file -/

section Desk

open Settings (desk nothing pointing)

/-- The name of a level and a log file, in the surroundings beside the place of the overrides. -/
def logging (level file : String) : EnvFile.Bindings :=
  ("DEVLOOP_LOG_LEVEL", level) :: ("DEVLOOP_LOG_FILE", file) :: pointing

theorem get?_logging {level file key : String} (hl : key ≠ "DEVLOOP_LOG_LEVEL")
    (hf : key ≠ "DEVLOOP_LOG_FILE") (ho : key ≠ "DEVLOOP_OVERRIDES") :
    (logging level file).get? key = none := by
  simp [logging, pointing, Table.get?_cons, hl.symm, hf.symm, ho.symm]

/-- The settings load, whatever is said of the log. -/
theorem effective_logging (level file : String) :
    ∃ s, (Settings.effective (logging level file) .top (desk nothing)).result = .ok s := by
  have apart : ∀ src ∈ Settings.sources, src.key ≠ "DEVLOOP_LOG_LEVEL" ∧
      src.key ≠ "DEVLOOP_LOG_FILE" ∧ src.key ≠ "DEVLOOP_OVERRIDES" := by decide
  have base : Settings.basePath (logging level file) .top = .top := by
    rw [Settings.basePath, get?_logging (by decide) (by decide) (by decide)]
    rfl
  have told : (logging level file).get? "DEVLOOP_OVERRIDES" = some "/note" := by
    simp [logging, pointing, Table.get?_cons]
  have blank : Settings.readOverrides .top (desk nothing) Settings.note = .ok (.entries []) :=
    Settings.readOverrides_desk rfl rfl rfl
  have range : Settings.InRange [] := by
    intro e _ v entry
    cases entry
  obtain ⟨_, s, _, loaded, _⟩ := Settings.effective_desk_of_unset
    (fun src hs => get?_logging (apart src hs).1 (apart src hs).2.1 (apart src hs).2.2) base told
    blank range
  exact ⟨s, loaded⟩

theorem levelName_logging (level file : String) :
    levelName (logging level file) = String.ofList (Text.toUpper level.toList) := by
  simp [levelName, logging, Table.get?_cons]

theorem wantedFile_logging (level file : String) :
    wantedFile (logging level file) = if file = "" then none else some (.ofText file) := by
  simp [wantedFile, logging, Table.get?_cons]

/-- A name in lower case is the level's, and a directory is no log file and costs a record; but the
    name of a layout leaves no sink at all. -/
theorem settings_set_log_up_debug :
    (∃ s e k, (Settings.effective (logging "debug" "/") .top (desk nothing)).result = .ok s ∧
      Setup.carryOut ⟨none, none⟩ s .top crowded = (.done (), k) ∧
      k.sinks = [⟨.console, .debug, .regular⟩] ∧
      Journal.refusals .top (some .top) crowded = [Journal.refusalRecord .top e]) ∧
    ∃ s k, (Settings.effective (logging "basic_format" "") .top (desk nothing)).result = .ok s ∧
      Setup.carryOut ⟨none, none⟩ s .top crowded =
        (.raised (.unknownLevel "%(levelname)s:%(name)s:%(message)s"), k) ∧ k.sinks = [] := by
  have askable : Path.top.isAskable = true := rfl
  have configured (level file : String) : ∃ s,
      (Settings.effective (logging level file) .top (desk nothing)).result = .ok s ∧
        Action.Ends (Setup.carryOut ⟨none, none⟩ s .top) crowded
          (Journal.Configured .top (String.ofList (Text.toUpper level.toList))
            (if file = "" then none else some (.ofText file)) crowded) := by
    obtain ⟨s, loaded⟩ := effective_logging level file
    obtain ⟨contents, held, ends⟩ := settings_set_log_up loaded askable crowded
    cases (Settings.envFile_desk _ _).symm.trans held
    rw [Settings.environment_empty, levelName_logging, wantedFile_logging] at ends
    exact ⟨s, loaded, ends⟩
  constructor
  · obtain ⟨s, loaded, ends⟩ := configured "debug" "/"
    obtain ⟨e, refused⟩ := openFile_top crowded
    have debug : String.ofList (Text.toUpper "debug".toList) = "DEBUG" := by decide +kernel
    have above : (if "/" = "" then none else some (Path.ofText "/")) = some .top := by decide
    rw [debug, above] at ends
    rcases run : Setup.carryOut ⟨none, none⟩ s .top crowded with ⟨o, k⟩
    have configured := ends.result run
    have known : ∀ e ∈ Journal.strayNames, e.1 ≠ "DEBUG" := by decide
    have returns : o = .done () := by
      refine configured.returns_iff.2 ⟨fun ⟨f, stray⟩ => known _ stray rfl, fun p given met => ?_⟩
      cases given
      cases askable.symm.trans met.1
    obtain ⟨threshold, means, -, sinks⟩ := configured.sinks returns
    have level : threshold = .debug := by
      have listed : ∀ e ∈ Journal.levelNames, e.1 = "DEBUG" → e.2 = .debug := by decide
      cases means with
      | named h => exact listed _ h rfl
      | other h => exact absurd (by decide) (h .debug)
    refine ⟨s, e, k, loaded, returns ▸ run, ?_, Journal.refusals_of_refused rfl refused⟩
    rw [sinks, level]
    simp only [Journal.opened, Option.map_some, refused]
    rfl
  · obtain ⟨s, loaded, ends⟩ := configured "basic_format" ""
    have capitals : String.ofList (Text.toUpper "basic_format".toList) = "BASIC_FORMAT" := by
      decide +kernel
    rw [capitals] at ends
    rcases run : Setup.carryOut ⟨none, none⟩ s .top crowded with ⟨o, k⟩
    obtain ⟨f, stray, raised, sinks⟩ := (ends.result run).stray ⟨_, .head _⟩
    simp only [Journal.strayNames, List.mem_cons, List.not_mem_nil, or_false, Prod.mk.injEq] at stray
    obtain ⟨-, rfl⟩ | ⟨other, -⟩ := stray
    · exact ⟨s, k, loaded, raised ▸ run, sinks⟩
    · exact absurd other (by decide)

end Desk

end Log

end Respawn
