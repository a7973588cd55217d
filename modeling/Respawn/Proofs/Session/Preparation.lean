import Respawn.Proofs.Actions
import Respawn.Proofs.Settings.InEffect
import Respawn.Session

/-!
# Before the watcher

Under settings that are fit, a session finds its role and everything its plans need. Three steps can
still go wrong: the log is not set up where a level has a stray name or the path of its file holds a
NUL, a command line has no words, and a word of it is no text.

* `setUp_concludes`: why the log may not be set up;
* `Fit.role`, `Fit.launchPlan`, `Fit.stopPlan`: what settings that are fit always give;
* `Fit.build_cases`: how the making of a command line ends.
-/

namespace Respawn

open Respawn.Action (Concludes)

/-! ## 1. The log -/

namespace Path

theorem isAskable_iff {p : Path} :
    p.isAskable = true ↔ ∀ name ∈ p.parts, name.contains '\x00' = false := by
  simp [isAskable]

/-- A path seen from a directory holds a NUL only if one of the two does. -/
theorem isAskable_absolute {cwd p : Path} (hc : cwd.isAskable = true) (hp : p.isAskable = true) :
    (cwd.absolute p).isAskable = true := by
  rw [isAskable_iff] at hc hp ⊢
  exact fun name hn => (mem_absolute hn).elim (hc name) (hp name)

theorem isAskable_parent {p : Path} (h : p.isAskable = true) : p.parent.isAskable = true := by
  rw [isAskable_iff] at h ⊢
  exact fun name hn => h name (List.dropLast_subset _ hn)

end Path

namespace Log.Journal

/-- The opening of a log file succeeds, or the system refuses it, or its path holds a NUL. -/
theorem openFile_concludes {cwd : Path} (hc : cwd.isAskable = true) (p : Path) :
    Concludes (fun f => (∃ e, f = .os e) ∨ f = .nulInPath ∧ p.isAskable = false)
      (openFile cwd p) := by
  intro j
  unfold openFile
  split
  · rename_i nul
    refine .raised (.inr ⟨rfl, ?_⟩)
    cases hp : p.isAskable with
    | false => rfl
    | true => simp [Path.isAskable_parent hp] at nul
  · split
    · exact .raised (.inl ⟨_, rfl⟩)
    · dsimp only
      split
      · rename_i nul
        refine .raised (.inr ⟨rfl, ?_⟩)
        cases hp : p.isAskable with
        | false => rfl
        | true => simp [Path.isAskable_absolute hc hp] at nul
      · split
        · exact .done _
        · exact .raised (.inl ⟨_, rfl⟩)
        · exact .raised (.inl ⟨_, rfl⟩)

/-- A log file is added, or not, unless its path holds a NUL. -/
theorem addFile_concludes {cwd : Path} (hc : cwd.isAskable = true) (p : Path) :
    Concludes (fun f => f = .nulInPath ∧ p.isAskable = false) (addFile cwd p) := by
  refine ((openFile_concludes hc p).bind fun _ => .modify _).recover (fun f _ y hy => ?_)
    fun f hf hn => ?_
  · split at hy
    · cases hy
      exact .modify _
    · cases hy
  · obtain ⟨e, rfl⟩ | nul := hf
    · cases hn
    · exact nul

/-- **The log is set up, unless there is no such level or the path of its file holds a NUL.** -/
theorem setUp_concludes {cwd : Path} (hc : cwd.isAskable = true) (level : Value)
    (file : Option Path) :
    Concludes (fun f => resolveLevel level = .error f ∨
      f = .nulInPath ∧ ∃ p, file = some p ∧ p.isAskable = false) (setUp cwd level file) := by
  refine .bind (.modify _) fun _ => .bind (.ofExcept fun f => .inl) fun threshold => ?_
  refine .bind (.modify _) fun _ => ?_
  cases file with
  | none => exact .modify _
  | some p =>
    refine .bind ((addFile_concludes hc p).mono fun f hf => .inr ?_) fun _ => .modify _
    exact ⟨hf.1, p, rfl, hf.2⟩

/-- Where a level by name is refused, its name is a stray one. -/
theorem stray_of_resolveLevel {name : String} {f : Fault}
    (h : resolveLevel (.text name) = .error f) :
    (String.ofList (Text.toUpper name.toList), f) ∈ strayNames := by
  change levelNamed name = .error f at h
  unfold levelNamed at h
  dsimp only at h
  split at h
  · cases h
  · rename_i hs
    cases h
    have same := List.find?_some hs
    rw [decide_eq_true_eq] at same
    exact same ▸ List.mem_of_find?_eq_some hs
  · cases h

end Log.Journal

/-! ## 2. The role -/

namespace Settings

variable {s : Settings}

/-- Under settings that are fit there is a role; a replica has the host of the settings. -/
theorem Fit.role (h : Fit s) (selector : Option String) :
    Role.derive selector s = .ok .primary ∨ ∃ host port, get s "PRIMARY_HOST" = .ok host ∧
      Role.derive selector s = .ok (.replica host port) := by
  have name : get s "PRIMARY_ROLE_NAME" = .ok (.text "master") :=
    h.constant_eq (by simp [constants])
  obtain ⟨host, there⟩ : ∃ host, get s "PRIMARY_HOST" = .ok host := h.there (by decide)
  obtain ⟨v, port, held, whole⟩ :
      ∃ v port, get s "PRIMARY_PORT" = .ok v ∧ toWhole v = .ok port := h.whole (by decide)
  by_cases selected : Role.selects selector (.text "master") = true
  · exact .inl (by simp only [Role.derive, name, bind, Except.bind, if_pos selected]; rfl)
  · refine .inr ⟨host, port, there, ?_⟩
    simp only [Role.derive, name, bind, Except.bind, if_neg selected, there, held, whole]
    rfl

/-! ## 3. The command line -/

/-- A value that may become a word of the command line. -/
inductive Spoken (s : Settings) (v : Value) : Prop
  | command {command : Value} {items : List Value} (h : get s "BUILD_COMMAND" = .ok command)
      (hi : command.items = .ok items) (hv : v ∈ items)
  | separator (h : get s "ARGS_SEPARATOR" = .ok v)
  | host (h : get s "PRIMARY_HOST" = .ok v)

/-- The faults of settings that give no command line for another reason than that it is empty: the
    build command has no items at all, or a word is no text. -/
inductive Unspeakable (s : Settings) : Fault → Prop
  | command {v : Value} (h : get s "BUILD_COMMAND" = .ok v)
      (hv : v.items = .error (.notIterable v.kind)) : Unspeakable s (.notIterable v.kind)
  | word (index : Nat) {v : Value} (h : Spoken s v) (hv : v.kind ≠ .text) :
      Unspeakable s (.notText index v.kind)

theorem items_error {v : Value} {f : Fault} (h : v.items = .error f) : f = .notIterable v.kind := by
  cases v <;> cases h <;> rfl

theorem textsFrom_error {index : Nat} {vs : List Value} {f : Fault}
    (h : Value.textsFrom index vs = .error f) :
    ∃ place, ∃ v ∈ vs, v.kind ≠ .text ∧ f = .notText place v.kind := by
  induction vs generalizing index with
  | nil => cases h
  | cons v rest ih =>
    by_cases text : v.kind = .text
    · cases v <;> cases text
      obtain ⟨place, v, hv, other⟩ := ih (map_eq_error.1 h)
      exact ⟨place, v, List.mem_cons_of_mem _ hv, other⟩
    · refine ⟨index, v, List.mem_cons_self, text, ?_⟩
      cases v <;> first | exact absurd rfl text | (cases h; rfl)

theorem mem_assemble {command flags : List Value} {separator v : Value}
    (h : v ∈ Invocation.assemble command separator flags) :
    v ∈ command ∨ v = separator ∨ v ∈ flags := by
  unfold Invocation.assemble at h
  split at h
  · exact .inl h
  · rcases List.mem_append.1 h with h | h
    · rcases List.mem_append.1 h with h | h
      · exact .inl h
      · split at h
        · exact .inr (.inl (List.mem_singleton.1 h))
        · cases h
    · exact .inr (.inr h)

/-- The flags of a role that was derived: what is no text among them is the host. -/
theorem Fit.flags (h : Fit s) {selector : Option String} {r : Role}
    (hr : Role.derive selector s = .ok r) : ∃ flags, r.flags s = .ok flags ∧
      ∀ v ∈ flags, v.kind ≠ .text → get s "PRIMARY_HOST" = .ok v := by
  obtain primary | ⟨host, port, held, replica⟩ := h.role selector
  · cases primary.symm.trans hr
    exact ⟨[], rfl, nofun⟩
  · cases replica.symm.trans hr
    obtain ⟨own, there⟩ : ∃ own, get s "REPLICA_PORT" = .ok own := h.there (by decide)
    refine ⟨[.text "--port", .text own.shown, .text "--replicaof", host, .text (toString port)],
      by simp only [Role.flags, there]; rfl, fun v hv odd => ?_⟩
    simp only [List.mem_cons, List.not_mem_nil, or_false] at hv
    rcases hv with rfl | rfl | rfl | rfl | rfl
    · exact absurd rfl odd
    · exact absurd rfl odd
    · exact absurd rfl odd
    · exact held
    · exact absurd rfl odd

/-- **How the making of a command line ends.** -/
theorem Fit.build_cases (h : Fit s) {selector : Option String} {r : Role}
    (hr : Role.derive selector s = .ok r) : (∃ i, Invocation.build r s = .ok i) ∨
      Invocation.build r s = .error .emptyCommand ∨
      ∃ f, Invocation.build r s = .error f ∧ Unspeakable s f := by
  obtain ⟨command, told⟩ : ∃ command, get s "BUILD_COMMAND" = .ok command := h.there (by decide)
  obtain ⟨separator, apart⟩ : ∃ separator, get s "ARGS_SEPARATOR" = .ok separator :=
    h.there (by decide)
  obtain ⟨base, place⟩ := h.base
  have place := (get_eq_ok_iff _ _ _).2 place
  obtain ⟨flags, flagged, odd⟩ := h.flags hr
  cases hi : command.items with
  | error f =>
    cases items_error hi
    refine .inr (.inr ⟨_, ?_, .command told hi⟩)
    simp only [Invocation.build, told, bind, Except.bind, hi]
  | ok items =>
    by_cases empty : items.isEmpty = true
    · refine .inr (.inl ?_)
      simp only [Invocation.build, told, bind, Except.bind, hi, if_pos empty]
      rfl
    · have built : Invocation.build r s =
          (Value.texts (Invocation.assemble items separator flags)).map fun argv => ⟨argv, base⟩ := by
        simp only [Invocation.build, told, bind, Except.bind, hi, if_neg empty, flagged, apart, place]
        rfl
      cases spoken : Value.texts (Invocation.assemble items separator flags) with
      | ok argv => exact .inl ⟨_, built.trans (by rw [spoken]; rfl)⟩
      | error f =>
        obtain ⟨index, v, hv, text, rfl⟩ := textsFrom_error spoken
        refine .inr (.inr ⟨_, built.trans (by rw [spoken]; rfl), .word index ?_ text⟩)
        rcases mem_assemble hv with hv | rfl | hv
        · exact .command told hi hv
        · exact .separator apart
        · exact .host (odd v hv text)

/-! ## 4. Plans -/

theorem Fit.launchPlan (h : Fit s) (isolation : Child.Isolation) :
    ∃ launch, Child.launchPlan s isolation none none none = .ok launch := by
  have name : get s "CHILD_PROCESS_NAME" = .ok (.text "server") :=
    h.constant_eq (by simp [constants])
  obtain ⟨capture, told⟩ : ∃ capture, get s "CAPTURE_CHILD_OUTPUT" = .ok capture :=
    h.there (by decide)
  obtain ⟨window, time⟩ : ∃ window, s.getSeconds "STARTUP_CHECK_SECONDS" = .ok window :=
    h.seconds (by decide)
  exact ⟨⟨"server", capture.isTrue, window, isolation⟩, by
    simp only [Child.launchPlan, Child.chosenName, Child.chosenCapture, Child.orSetting, name, told,
      time]
    rfl⟩

theorem Fit.stopPlan (h : Fit s) : ∃ stop, Child.stopPlan s none none = .ok stop := by
  have patience : s.getSeconds "KILL_TIMEOUT" = .ok (.whole 5) :=
    getSeconds_eq (h.constant_eq (v := .int 5) (by simp [constants]))
  obtain ⟨grace, time⟩ : ∃ grace, s.getSeconds "GRACEFUL_SHUTDOWN_TIMEOUT" = .ok grace :=
    h.seconds (by decide)
  exact ⟨⟨grace, .whole 5, Child.pollTick⟩, by
    simp only [Child.stopPlan, Child.orSetting, time, patience]
    rfl⟩

theorem Fit.interval (h : Fit s) : s.getSeconds "SUPERVISOR_SLEEP_INTERVAL" = .ok (.real half) :=
  getSeconds_eq (h.constant_eq (v := .real half) (by simp [constants]))

end Settings

end Respawn
