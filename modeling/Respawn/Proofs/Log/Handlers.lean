import Respawn.Proofs.Log.Console
import Respawn.Session

/-!
# The log that was set up last

Setting the log up takes away whatever sinks there were. So after any number of times the sinks are
those of the last one: the console, and a file if one was asked for that could be opened. A record
makes at most one line at each of them.

* `SetsUp`, `setUp_ends`: what setting the log up comes to;
* `emit_emitted`: what a record does where the log has been set up;
* **`last_setUp_wins`**: after any run of set-ups and records the last set-up counts.
-/

namespace Respawn.Action

variable {σ α β : Type} {s t u : σ}

/-- Where two actions in a row were done, so was each of them. -/
theorem bind_eq_done {x : Action σ α} {k : α → Action σ β} {b : β}
    (h : (x >>= k) s = (.done b, u)) : ∃ a t, x s = (.done a, t) ∧ k a t = (.done b, u) := by
  rcases hx : x s with ⟨o, t⟩
  cases o with
  | done a => exact ⟨a, t, rfl, (bind_done hx k).symm.trans h⟩
  | raised f => cases (bind_raised hx k).symm.trans h
  | unfinished => cases (bind_unfinished hx k).symm.trans h

theorem each_append_done {act : β → Action σ Unit} {bs cs : List β}
    (h : each act (bs ++ cs) s = (.done (), u)) :
    ∃ t, each act bs s = (.done (), t) ∧ each act cs t = (.done (), u) := by
  induction bs generalizing s with
  | nil => exact ⟨s, rfl, h⟩
  | cons b bs ih =>
    obtain ⟨a, t, first, rest⟩ := bind_eq_done (x := act b) (k := fun _ => each act (bs ++ cs)) h
    obtain ⟨v, done, more⟩ := ih rest
    exact ⟨v, (bind_done first fun _ => each act bs).trans done, more⟩

end Respawn.Action

namespace Respawn.Log

open Respawn.Action (Ends each bind_eq_done each_append_done)

/-! ## 1. One record -/

namespace Journal

variable {j : Journal}

/-- A record changes nothing but what has been written. -/
theorem deliver_frame (r : Record) (j : Journal) (k : Sink) :
    ∃ console files, deliver r j k = { j with console := console, files := files } := by
  unfold deliver
  split
  · unfold write
    split
    · exact ⟨_, j.files, rfl⟩
    · split
      · exact ⟨j.console, _, rfl⟩
      · exact ⟨j.console, j.files, rfl⟩
  · exact ⟨j.console, j.files, rfl⟩

theorem deliverAll_frame (r : Record) (j : Journal) (ks : List Sink) :
    ∃ console files, ks.foldl (deliver r) j = { j with console := console, files := files } := by
  induction ks generalizing j with
  | nil => exact ⟨j.console, j.files, rfl⟩
  | cons k ks ih =>
    obtain ⟨console, files, first⟩ := deliver_frame r j k
    obtain ⟨console', files', rest⟩ := ih { j with console := console, files := files }
    refine ⟨console', files', ?_⟩
    rw [List.foldl_cons, first, rest]

theorem emit_frame (r : Record) (j : Journal) : ∃ console errors files,
    emit r j = { j with console := console, errors := errors, files := files } := by
  unfold emit
  split
  · exact ⟨j.console, j.errors, j.files, rfl⟩
  · split
    · split
      · exact ⟨j.console, _, j.files, rfl⟩
      · exact ⟨j.console, j.errors, j.files, rfl⟩
    · obtain ⟨console, files, told⟩ := deliverAll_frame r j j.sinks
      exact ⟨console, j.errors, files, told⟩

theorem emit_sinks (r : Record) (j : Journal) : (emit r j).sinks = j.sinks := by
  obtain ⟨_, _, _, same⟩ := emit_frame r j
  rw [same]

theorem emit_level (r : Record) (j : Journal) : (emit r j).level = j.level := by
  obtain ⟨_, _, _, same⟩ := emit_frame r j
  rw [same]

theorem emit_libraryLevel (r : Record) (j : Journal) : (emit r j).libraryLevel = j.libraryLevel := by
  obtain ⟨_, _, _, same⟩ := emit_frame r j
  rw [same]

/-- The sinks of a log that was set up: the console, and the file for everything. -/
def handlers (threshold : Level) (place : Option (List String)) : List Sink :=
  ⟨.console, threshold, .regular⟩ ::
    (place.map fun place => ⟨.file place, .debug, .regular⟩).toList

/-- The line of a record. -/
def lineOf (j : Journal) (r : Record) : String := Layout.regular.line j.time r .none ++ "\n"

/-- A record makes one line at most at the console, and one at most in the file, and nothing else is
    changed. -/
structure Emitted (r : Record) (j j' : Journal) : Prop where
  console : j'.console = j.console ∨ j'.console = j.console ++ lineOf j r
  file : j'.files = j.files ∨ ∃ place bytes, ⟨.file place, .debug, .regular⟩ ∈ j.sinks ∧
    j.files.get? place = some (.file bytes) ∧
    j'.files = j.files.set place (some (.file (bytes ++ (lineOf j r).toUTF8.toList)))
  rest : { j' with console := j.console, files := j.files } = j

theorem Emitted.refl (r : Record) (j : Journal) : Emitted r j j := ⟨.inl rfl, .inl rfl, rfl⟩

/-- **What a record does where the log has been set up.** -/
theorem emit_emitted {threshold : Level} {place : Option (List String)}
    (h : j.sinks = handlers threshold place) (r : Record) : Emitted r j (emit r j) := by
  have told : ∃ console, (console = j.console ∨ console = j.console ++ lineOf j r) ∧
      deliver r j ⟨.console, threshold, .regular⟩ = { j with console := console } := by
    unfold deliver
    split
    · exact ⟨_, .inr rfl, rfl⟩
    · exact ⟨j.console, .inl rfl, rfl⟩
  obtain ⟨console, once, told⟩ := told
  have nonempty : j.sinks.isEmpty = false := by
    rw [h]
    rfl
  unfold emit
  split
  · exact .refl r j
  · rw [nonempty, if_neg Bool.false_ne_true, h, handlers, List.foldl_cons, told]
    cases place with
    | none => exact ⟨once, .inl rfl, rfl⟩
    | some place =>
      show Emitted r j (deliver r { j with console := console } ⟨.file place, .debug, .regular⟩)
      unfold deliver
      split
      · unfold write
        dsimp only
        split
        · next bytes held whole =>
          refine ⟨once, .inr ⟨place, bytes, ?_, held, rfl⟩, rfl⟩
          rw [h]
          exact .tail _ (.head _)
        · exact ⟨once, .inl rfl, rfl⟩
      · exact ⟨once, .inl rfl, rfl⟩

/-! ## 2. One set-up -/

variable {cwd : Path} {v : Value} {file : Option Path} {j k : Journal}

/-- What opening a log file comes to, and how it leaves the files, is a matter of the files alone. -/
theorem openFile_eq (cwd p : Path) (h : k.files = j.files) :
    openFile cwd p k = ((openFile cwd p j).1, { k with files := (openFile cwd p j).2.files }) := by
  obtain ⟨time, sinks, level, libraryLevel, console, errors, files⟩ := k
  obtain rfl : files = j.files := h
  unfold openFile
  dsimp only
  split
  · rfl
  · split
    · rfl
    · split
      · rfl
      · split <;> rfl

/-- A log file is opened, or the system refuses it, or its path holds a NUL. -/
theorem openFile_cases (cwd p : Path) (j : Journal) : ∃ o files,
    openFile cwd p j = (o, { j with files := files }) ∧
      ((∃ place, o = .done place) ∨ (∃ e, o = .raised (.os e)) ∨ o = .raised .nulInPath) := by
  unfold openFile
  split
  · exact ⟨_, j.files, rfl, .inr (.inr rfl)⟩
  · split
    · exact ⟨_, j.files, rfl, .inr (.inl ⟨_, rfl⟩)⟩
    · next files _ =>
      dsimp only
      split
      · exact ⟨_, files, rfl, .inr (.inr rfl)⟩
      · split
        · exact ⟨_, _, rfl, .inl ⟨_, rfl⟩⟩
        · exact ⟨_, files, rfl, .inr (.inl ⟨_, rfl⟩)⟩
        · exact ⟨_, files, rfl, .inr (.inl ⟨_, rfl⟩)⟩

/-- Where a log file is, if one is asked for and it can be opened. -/
def opened (cwd : Path) (file : Option Path) (j : Journal) : Option (List String) :=
  match file.map fun p => (openFile cwd p j).1 with
  | some (.done place) => some place
  | _ => none

/-- The record of a log file that cannot be opened. -/
def refusalRecord (p : Path) (e : OsError) : Record :=
  ⟨.error, rootLogger, s!"Failed to initialize file logging handler for '{p}': {e.message}. " ++
    "Logging to file will be disabled."⟩

section File

variable {p : Path}

theorem addFile_opened {place : List String} (h : openFile cwd p j = (.done place, k)) :
    addFile cwd p j =
      (.done (), { k with sinks := k.sinks ++ [⟨.file place, .debug, .regular⟩] }) := by
  simp [addFile, Action.recover, Action.after, h, addSink]

theorem addFile_refused {e : OsError} (h : openFile cwd p j = (.raised (.os e), k)) :
    addFile cwd p j = (.done (), emit (refusalRecord p e) k) := by
  simp only [addFile, Action.recover, Action.bind_apply, Action.after, h]
  rfl

theorem addFile_nul (h : openFile cwd p j = (.raised .nulInPath, k)) :
    addFile cwd p j = (.raised .nulInPath, k) := by
  simp [addFile, Action.recover, Action.after, h]

end File

/-- What setting the log up comes to: the console alone is set up, or a file as well, or the file is
    refused at the cost of a record; or its path holds a NUL, or there is no such level. -/
inductive SetsUp (cwd : Path) (v : Value) (file : Option Path) (j : Journal) :
    Outcome Unit → Journal → Prop
  | console {threshold} (level : resolveLevel v = .ok threshold) (wanted : file = none) :
    SetsUp cwd v file j (.done ()) { j with
      level := .debug
      libraryLevel := .info
      sinks := handlers threshold none }
  | file {threshold p place files} (level : resolveLevel v = .ok threshold) (wanted : file = some p)
      (answer : openFile cwd p j = (.done place, { j with files := files })) :
    SetsUp cwd v file j (.done ()) { j with
      level := .debug
      libraryLevel := .info
      sinks := handlers threshold (some place)
      files := files }
  | refused {threshold p e files} (level : resolveLevel v = .ok threshold) (wanted : file = some p)
      (answer : openFile cwd p j = (.raised (.os e), { j with files := files })) :
    SetsUp cwd v file j (.done ()) { emit (refusalRecord p e)
      { j with level := .debug, sinks := handlers threshold none, files := files } with
      libraryLevel := .info }
  | nul {threshold p files} (level : resolveLevel v = .ok threshold) (wanted : file = some p)
      (answer : openFile cwd p j = (.raised .nulInPath, { j with files := files })) :
    SetsUp cwd v file j (.raised .nulInPath)
      { j with level := .debug, sinks := handlers threshold none, files := files }
  | unknown {f} (level : resolveLevel v = .error f) :
    SetsUp cwd v file j (.raised f) { j with level := .debug, sinks := [] }

/-- **What setting the log up comes to.** -/
theorem setUp_ends (cwd : Path) (v : Value) (file : Option Path) (j : Journal) :
    Ends (setUp cwd v file) j (SetsUp cwd v file j) := by
  cases level : resolveLevel v with
  | error f =>
    have run : setUp cwd v file j = (.raised f, { j with level := .debug, sinks := [] }) := by
      simp [setUp, level, Action.after, Action.ofExcept]
    exact .of_result run (.unknown level)
  | ok threshold =>
    cases file with
    | none =>
      refine .of_result ?_ (.console level rfl)
      rw [setUp_of_level level]
      rfl
    | some p =>
      obtain ⟨o, files, answer, kinds⟩ := openFile_cases cwd p j
      have later := openFile_eq cwd p (j := j)
        (k := { j with level := .debug, sinks := handlers threshold none }) rfl
      rw [answer] at later
      have run : setUp cwd v (some p) j = (do
          addFile cwd p
          .modify fun j => { j with libraryLevel := .info } : Action Journal Unit)
          { j with level := .debug, sinks := handlers threshold none } := by
        rw [setUp_of_level level]
        rfl
      unfold Ends
      rw [run]
      obtain ⟨place, rfl⟩ | ⟨e, rfl⟩ | rfl := kinds
      · rw [Action.bind_done (addFile_opened later)]
        exact .file level rfl answer
      · rw [Action.bind_done (addFile_refused later)]
        exact .refused level rfl answer
      · rw [Action.bind_raised (addFile_nul later)]
        exact .nul level rfl answer

theorem SetsUp.returned {o : Outcome Unit} (h : SetsUp cwd v file j o k) (returns : o = .done ()) :
    ∃ threshold, resolveLevel v = .ok threshold ∧ k.sinks = handlers threshold (opened cwd file j) ∧
      k.level = .debug ∧ k.libraryLevel = .info := by
  cases h with
  | console level wanted =>
    subst wanted
    exact ⟨_, level, rfl, rfl, rfl⟩
  | file level wanted answer =>
    subst wanted
    refine ⟨_, level, ?_, rfl, rfl⟩
    simp only [opened, Option.map_some, answer]
  | refused level wanted answer =>
    subst wanted
    refine ⟨_, level, ?_, emit_level _ _, rfl⟩
    simp only [opened, Option.map_some, answer]
    exact emit_sinks _ _
  | nul level wanted answer => cases returns
  | unknown level => cases returns

/-- Whether the log is set up. -/
theorem SetsUp.returns_iff {o : Outcome Unit} (h : SetsUp cwd v file j o k) : o = .done () ↔
    (∃ threshold, resolveLevel v = .ok threshold) ∧
      ∀ p, file = some p → (openFile cwd p j).1 ≠ .raised .nulInPath := by
  cases h with
  | console level wanted =>
    refine iff_of_true rfl ⟨⟨_, level⟩, fun p given => ?_⟩
    cases wanted.symm.trans given
  | file level wanted answer =>
    refine iff_of_true rfl ⟨⟨_, level⟩, fun p given => ?_⟩
    cases wanted.symm.trans given
    rw [answer]
    nofun
  | refused level wanted answer =>
    refine iff_of_true rfl ⟨⟨_, level⟩, fun p given => ?_⟩
    cases wanted.symm.trans given
    rw [answer]
    nofun
  | nul level wanted answer =>
    refine iff_of_false nofun fun fine => fine.2 _ wanted ?_
    rw [answer]
  | unknown level =>
    refine iff_of_false nofun fun fine => ?_
    obtain ⟨⟨threshold, known⟩, -⟩ := fine
    cases level.symm.trans known

/-- **The log is set up from the files as they are, and from nothing else that was there before.** -/
theorem setUp_alone (h : setUp cwd v file j = (.done (), k)) {fresh : Journal}
    (same : fresh.files = j.files) : ∃ alone, setUp cwd v file fresh = (.done (), alone) ∧
      alone.sinks = k.sinks ∧ alone.level = k.level := by
  have outcome (p : Path) : (openFile cwd p fresh).1 = (openFile cwd p j).1 := by
    rw [openFile_eq cwd p same]
  have here : SetsUp cwd v file j (.done ()) k := (setUp_ends cwd v file j).result h
  have there := setUp_ends cwd v file fresh
  revert there
  unfold Ends
  rcases run : setUp cwd v file fresh with ⟨o, alone⟩
  intro there
  have returns : o = .done () := by
    rw [there.returns_iff]
    simp only [outcome]
    exact here.returns_iff.1 rfl
  obtain ⟨threshold, level, sinks, root, -⟩ := here.returned rfl
  obtain ⟨threshold', level', sinks', root', -⟩ := there.returned returns
  cases level.symm.trans level'
  have place : opened cwd file fresh = opened cwd file j := by
    unfold opened
    simp only [outcome]
  rw [returns]
  exact ⟨alone, rfl, by rw [sinks', place, sinks], root'.trans root.symm⟩

end Journal

/-! ## 3. One set-up after another -/

/-- What is asked of the log by one call: a level for the console and a log file, where these are
    not left to the settings. -/
structure Setup where
  level : Option Value
  file : Option Path

namespace Setup

def levelIn (c : Setup) (s : Settings) : Except Fault Value :=
  match c.level with
  | some v => .ok v
  | none => s.get "LOG_LEVEL"

def fileIn (c : Setup) (s : Settings) : Except Fault (Option Path) :=
  match c.file with
  | some p => .ok (some p)
  | none => Session.logFile s

/-- The call. -/
def carryOut (c : Setup) (s : Settings) (cwd : Path) : Action Journal Unit := do
  let v ← .ofExcept (c.levelIn s)
  let file ← .ofExcept (c.fileIn s)
  Journal.setUp cwd v file

end Setup

/-- The log is set up, or a record is made. -/
inductive Deed where
  | setUp (c : Setup)
  | note (r : Record)

def Deed.carryOut (s : Settings) (cwd : Path) : Deed → Action Journal Unit
  | .setUp c => c.carryOut s cwd
  | .note r => .modify (Journal.emit r)

section Deeds

variable {s : Settings} {cwd : Path} {c : Setup} {j k : Journal}

/-- The log as it stands: its sinks, and from which level up records pass. -/
def Journal.Standing (j k : Journal) : Prop :=
  k.sinks = j.sinks ∧ k.level = j.level ∧ k.libraryLevel = j.libraryLevel

/-- Records change nothing of that. -/
theorem notes_standing {records : List Record}
    (h : each (Deed.carryOut s cwd) (records.map .note) j = (.done (), k)) : j.Standing k := by
  induction records generalizing j with
  | nil =>
    cases h
    exact ⟨rfl, rfl, rfl⟩
  | cons r records ih =>
    obtain ⟨sinks, level, libraryLevel⟩ := ih (j := j.emit r) h
    exact ⟨sinks.trans (j.emit_sinks r), level.trans (j.emit_level r),
      libraryLevel.trans (j.emit_libraryLevel r)⟩

theorem Setup.carryOut_eq {v : Value} {file : Option Path} (level : c.levelIn s = .ok v)
    (wanted : c.fileIn s = .ok file) : c.carryOut s cwd = Journal.setUp cwd v file := by
  unfold carryOut
  rw [level, wanted]
  rfl

theorem Setup.carryOut_done (h : c.carryOut s cwd j = (.done (), k)) : ∃ v file,
    c.levelIn s = .ok v ∧ c.fileIn s = .ok file ∧
      c.carryOut s cwd = Journal.setUp cwd v file := by
  unfold carryOut at h
  cases level : c.levelIn s with
  | error f =>
    rw [level] at h
    cases h
  | ok v =>
    cases wanted : c.fileIn s with
    | error f =>
      rw [level, wanted] at h
      cases h
    | ok file => exact ⟨v, file, rfl, rfl, carryOut_eq level wanted⟩

/-- **After any run of set-ups and records the last set-up counts.** Whatever sinks there were at the
    beginning, and whatever was set up since, the root level is the one for everything, and the sinks
    are those that the last set-up alone would have made of the files as it found them: the console at
    its level, and the file for everything if one was wanted that could be opened. So a record makes
    one line at most at each of them. -/
theorem last_setUp_wins {earlier : List Deed} {records : List Record} {start : Journal}
    (h : each (Deed.carryOut s cwd) (earlier ++ .setUp c :: records.map .note) start =
      (.done (), j)) :
    ∃ found v file threshold, each (Deed.carryOut s cwd) earlier start = (.done (), found) ∧
      c.levelIn s = .ok v ∧ c.fileIn s = .ok file ∧ Journal.resolveLevel v = .ok threshold ∧
      j.level = .debug ∧ j.libraryLevel = .info ∧
      j.sinks = Journal.handlers threshold (Journal.opened cwd file found) ∧
      (∀ fresh : Journal, fresh.files = found.files → ∃ alone,
        c.carryOut s cwd fresh = (.done (), alone) ∧ alone.sinks = j.sinks ∧ alone.level = j.level) ∧
      ∀ r, Journal.Emitted r j (j.emit r) := by
  obtain ⟨found, before, rest⟩ := each_append_done h
  obtain ⟨_, set, last, after⟩ := bind_eq_done (x := c.carryOut s cwd) rest
  obtain ⟨v, file, level, wanted, run⟩ := Setup.carryOut_done last
  have last : Journal.setUp cwd v file found = (.done (), set) := run ▸ last
  rw [run]
  obtain ⟨threshold, known, sinks, root, library⟩ :=
    ((Journal.setUp_ends cwd v file found).result last).returned rfl
  obtain ⟨sinks', root', library'⟩ := notes_standing after
  have stands := sinks'.trans sinks
  refine ⟨found, v, file, threshold, before, level, wanted, known, root'.trans root,
    library'.trans library, stands, fun fresh same => ?_, Journal.emit_emitted stands⟩
  obtain ⟨alone, returns, sinksAlone, levelAlone⟩ := Journal.setUp_alone last same
  exact ⟨alone, returns, sinksAlone.trans sinks'.symm, levelAlone.trans root'.symm⟩

end Deeds

/-! ## 4. A file, and a directory for a file -/

theorem locate_top (t : FileTree) (aim : FileTree.Aim) : t.locate aim .top .top = .ok [] := by
  have short : ¬ FileTree.pathLimit < Path.top.text.utf8ByteSize := by decide
  rw [FileTree.locate, if_neg short]
  show t.locateFrom aim FileTree.linkLimit [] [] = _
  rw [FileTree.locateFrom]

theorem makeDirs_top (t : FileTree) : t.makeDirs .top .top = t.keepDir .top .top .alreadyThere := by
  have held : t.makeDir .top .top = .error .alreadyThere := by
    rw [FileTree.makeDir, locate_top]
    rfl
  rw [FileTree.makeDirs, held]

theorem absolute_top : Path.top.absolute .top = .top := by decide

/-- The directory above all others is no log file. -/
theorem openFile_top (j : Journal) :
    ∃ e, (Journal.openFile .top .top j).1 = .raised (.os e) := by
  have parent : Path.top.parent = .top := rfl
  have askable : Path.top.isAskable = true := by decide
  unfold Journal.openFile
  rw [parent, askable, makeDirs_top, absolute_top]
  unfold FileTree.keepDir FileTree.lookupFrom
  rw [locate_top]
  cases above : j.files.top with
  | dir entries =>
    have refused : j.files.write .top id = .error .isDirectory := by
      rw [FileTree.write, locate_top]
      simp [FileTree.get?, Node.get?, above]
    simp [FileTree.get?, Node.get?, above, askable, refused]
  | file _ => simp [FileTree.get?, Node.get?, above]
  | link _ => simp [FileTree.get?, Node.get?, above]

/-- A file right below it. -/
def fileA : Path := ⟨.root, ["a"]⟩

/-- A log with two sinks that somebody else has set up, where there are no files. -/
def crowded : Journal := { Journal.bare ⟨0, 0⟩ .empty with
  sinks := [⟨.console, .unset, .preliminary⟩, ⟨.console, .error, .regular⟩] }

theorem openFile_crowded : (Journal.openFile .top fileA crowded).1 = .done ["a"] := by
  have parent : fileA.parent = .top := rfl
  have dirs : crowded.files.makeDirs .top .top = .ok .empty := by
    rw [makeDirs_top]
    simp only [FileTree.keepDir, FileTree.lookupFrom, locate_top]
    rfl
  have place : FileTree.empty.locate .opening .top fileA = .ok ["a"] := by
    have short : ¬ FileTree.pathLimit < fileA.text.utf8ByteSize := by decide
    rw [FileTree.locate, if_neg short]
    show FileTree.empty.locateFrom .opening FileTree.linkLimit [] ["a"] = _
    rw [FileTree.locateFrom]
    rfl
  have written : FileTree.empty.write fileA id = .ok ⟨.dir [("a", .file [])]⟩ := by
    rw [FileTree.write, place]
    rfl
  have askable : Path.top.isAskable = true ∧ fileA.isAskable = true := by
    simp [Path.isAskable, Path.top, fileA]
  have full : Path.top.absolute fileA = fileA := by decide
  simp only [Journal.openFile, parent, askable, dirs, full, place, written]
  rfl

/-- Everything, also in a file; then warnings, also in a file that is a directory. -/
def loud : Setup := ⟨some (.text "debug"), some fileA⟩

def terse : Setup := ⟨some (.int 30), some .top⟩

def remark : Record := ⟨.error, "console", "Something happened"⟩

/-- The file is a sink after the first set-up; the second one leaves the console alone. -/
theorem last_setUp_wins_terse : ∃ found j,
    each (Deed.carryOut [] .top) [.setUp loud, .note remark] crowded = (.done (), found) ∧
    found.sinks = [⟨.console, .debug, .regular⟩, ⟨.file ["a"], .debug, .regular⟩] ∧
    each (Deed.carryOut [] .top) [.setUp terse, .note remark] found = (.done (), j) ∧
    j.sinks = [⟨.console, .warning, .regular⟩] ∧ j.level = .debug ∧
    ∀ r, Journal.Emitted r j (j.emit r) := by
  have returns {v : Value} {p : Path} {threshold : Level} {j : Journal}
      (level : Journal.resolveLevel v = .ok threshold)
      (fine : (Journal.openFile .top p j).1 ≠ .raised .nulInPath) :
      ∃ k, Journal.setUp .top v (some p) j = (.done (), k) := by
    refine ⟨_, Prod.ext ((Journal.setUp_ends .top v (some p) j).returns_iff.2 ⟨⟨_, level⟩, ?_⟩) rfl⟩
    intro _ given
    cases given
    exact fine
  have low : Journal.resolveLevel (.text "debug") = .ok .debug := by with_unfolding_all rfl
  obtain ⟨k, first⟩ : ∃ k, loud.carryOut [] .top crowded = (.done (), k) :=
    returns low (by rw [openFile_crowded]; nofun)
  have before : each (Deed.carryOut [] .top) ([] ++ .setUp loud :: [remark].map .note) crowded =
      (.done (), k.emit remark) := Action.bind_done first _
  obtain ⟨e, refused⟩ := openFile_top (k.emit remark)
  obtain ⟨k', second⟩ : ∃ k', terse.carryOut [] .top (k.emit remark) = (.done (), k') :=
    returns (rfl : Journal.resolveLevel (.int 30) = .ok .warning) (by rw [refused]; nofun)
  have after : each (Deed.carryOut [] .top) [.setUp terse, .note remark] (k.emit remark) =
      (.done (), k'.emit remark) := Action.bind_done second _
  have all : each (Deed.carryOut [] .top)
      ([.setUp loud, .note remark] ++ .setUp terse :: [remark].map .note) crowded =
        (.done (), k'.emit remark) := (Action.bind_done first _).trans after
  obtain ⟨_, _, _, _, ⟨⟩, ⟨⟩, ⟨⟩, known, -, -, sinks, -⟩ := last_setUp_wins before
  cases low.symm.trans known
  obtain ⟨_, _, _, _, before', ⟨⟩, ⟨⟩, ⟨⟩, root, -, sinks', -, once⟩ := last_setUp_wins all
  cases before.symm.trans before'
  refine ⟨k.emit remark, k'.emit remark, before, ?_, after, ?_, root, once⟩
  · rw [sinks]
    simp only [Journal.opened, Option.map_some, openFile_crowded]
    rfl
  · rw [sinks']
    simp only [Journal.opened, Option.map_some, refused]
    rfl

end Respawn.Log
