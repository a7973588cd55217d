import Respawn.Log.Journal
import Respawn.Proofs.Actions

/-!
# What the console tells

From which level up the console tells what is logged makes no difference but for the console itself:
a log file takes everything, and nothing is read back.

* `Alike`: journals that differ at the console only;
* `Alike.emit`: they stay so through every record;
* `emit_console`: where only the console listens, a record changes nothing but what is told;
* `setUp_agrees`: so they do where the log is set up, once from one level up and once from another.
-/

namespace Respawn.Log

open Respawn.Action (Agrees)

/-! ## 1. Journals that differ at the console -/

/-- A sink without the level of the console. -/
def Sink.plain (k : Sink) : Sink :=
  match k.target with
  | .console => { k with threshold := .unset }
  | .file _ => k

theorem Sink.plain_target (k : Sink) : k.plain.target = k.target := by
  unfold Sink.plain
  split <;> rfl

/-- Two sinks that are the same but for the level of the console are both the console, or the same. -/
theorem Sink.plain_inj {k k' : Sink} (h : k'.plain = k.plain) :
    (k.target = .console ∧ k'.target = .console) ∨ k' = k := by
  have target : k'.target = k.target := by rw [← k.plain_target, ← k'.plain_target, h]
  cases at' : k.target with
  | console => exact .inl ⟨rfl, target.trans at'⟩
  | file place =>
    have same : k.plain = k := by simp only [Sink.plain, at']
    have same' : k'.plain = k' := by simp only [Sink.plain, target.trans at']
    exact .inr (same'.symm.trans (h.trans same))

namespace Journal

/-- Journals that are the same but for what was told at the console, and from which level up. -/
def Alike (j k : Journal) : Prop :=
  ∃ console sinks, sinks.map Sink.plain = j.sinks.map Sink.plain ∧
    k = { j with console := console, sinks := sinks }

theorem Alike.refl (j : Journal) : Alike j j := ⟨j.console, j.sinks, rfl, rfl⟩

theorem Alike.write {j k : Journal} (h : Alike j k) (target : Target) (line : String) :
    Alike (j.write target line) (k.write target line) := by
  obtain ⟨console, sinks, same, rfl⟩ := h
  cases target with
  | console => exact ⟨_, sinks, same, rfl⟩
  | file place =>
    unfold Journal.write
    dsimp only
    split
    · exact ⟨console, sinks, same, rfl⟩
    · exact ⟨console, sinks, same, rfl⟩

/-- What the console is told, or not told. -/
theorem deliver_console {k : Sink} (h : k.target = .console) (r : Record) (j : Journal) :
    ∃ console, deliver r j k = { j with console := console } := by
  unfold deliver
  split
  · rw [h]
    exact ⟨_, rfl⟩
  · exact ⟨j.console, rfl⟩

theorem deliverAll_console {ks : List Sink} (h : ∀ k ∈ ks, k.target = .console) (r : Record)
    (j : Journal) : ∃ console, ks.foldl (deliver r) j = { j with console := console } := by
  induction ks generalizing j with
  | nil => exact ⟨j.console, rfl⟩
  | cons k ks ih =>
    obtain ⟨first, told⟩ := deliver_console (h k List.mem_cons_self) r j
    obtain ⟨console, rest⟩ := ih (fun k hk => h k (List.mem_cons_of_mem _ hk)) (deliver r j k)
    refine ⟨console, ?_⟩
    rw [List.foldl_cons, rest, told]

/-- Where only the console listens, a record changes what is told, and nothing else. -/
theorem emit_console {j : Journal} (h : ∀ k ∈ j.sinks, k.target = .console) (r : Record) :
    ∃ console errors, emit r j = { j with console := console, errors := errors } := by
  unfold emit
  split
  · exact ⟨j.console, j.errors, rfl⟩
  · split
    · split
      · exact ⟨j.console, _, rfl⟩
      · exact ⟨j.console, j.errors, rfl⟩
    · obtain ⟨console, told⟩ := deliverAll_console h r j
      exact ⟨console, j.errors, told⟩

theorem Alike.deliver {j j' : Journal} {k k' : Sink} (h : Alike j j') (hk : k'.plain = k.plain)
    (r : Record) : Alike (deliver r j k) (deliver r j' k') := by
  obtain ⟨here, there⟩ | rfl := Sink.plain_inj hk
  · obtain ⟨c, told⟩ := deliver_console here r j
    obtain ⟨c', told'⟩ := deliver_console there r j'
    obtain ⟨_, sinks, same, rfl⟩ := h
    rw [told, told']
    exact ⟨c', sinks, same, rfl⟩
  · have time : j'.time = j.time := by
      obtain ⟨_, _, _, rfl⟩ := h
      rfl
    unfold Journal.deliver
    rw [time]
    split
    · exact h.write _ _
    · exact h

theorem Alike.deliverAll {j j' : Journal} (h : Alike j j') (r : Record) :
    ∀ {ks ks' : List Sink}, ks'.map Sink.plain = ks.map Sink.plain →
      Alike (ks.foldl (Journal.deliver r) j) (ks'.foldl (Journal.deliver r) j') := by
  intro ks
  induction ks generalizing j j' with
  | nil =>
    intro ks' hk
    cases List.map_eq_nil_iff.1 hk
    exact h
  | cons k ks ih =>
    intro ks' hk
    cases ks' with
    | nil => cases hk
    | cons k' ks' =>
      obtain ⟨first, rest⟩ := List.cons_eq_cons.1 hk
      exact ih (h.deliver first r) rest

/-- **What differs at the console only does so after every record.** -/
theorem Alike.emit {j k : Journal} (h : Alike j k) (r : Record) : Alike (emit r j) (emit r k) := by
  obtain ⟨console, sinks, same, rfl⟩ := id h
  have empty : sinks.isEmpty = j.sinks.isEmpty := by
    have size := congrArg List.length same
    rw [List.length_map, List.length_map] at size
    cases sinks <;> cases hs : j.sinks <;> simp_all
  have level : levelOf { j with console := console, sinks := sinks } r.logger =
    j.levelOf r.logger := rfl
  unfold Journal.emit
  rw [level]
  dsimp only
  rw [empty]
  split
  · exact h
  · split
    · split
      · exact ⟨console, sinks, same, rfl⟩
      · exact h
    · exact h.deliverAll r same

/-! ## 2. Setting up -/

theorem addSink_agrees {k k' : Sink} (h : k'.plain = k.plain) :
    Agrees Alike (addSink k) (addSink k') := by
  refine .modify fun j _ => ?_
  rintro ⟨console, sinks, same, rfl⟩
  refine ⟨console, sinks ++ [k'], ?_, rfl⟩
  simp only [List.map_append, List.map_cons, List.map_nil, same, h]

theorem openFile_agrees (cwd p : Path) : Agrees Alike (openFile cwd p) (openFile cwd p) := by
  rintro j _ ⟨console, sinks, same, rfl⟩
  unfold openFile
  dsimp only
  split
  · exact ⟨rfl, console, sinks, same, rfl⟩
  · split
    · exact ⟨rfl, console, sinks, same, rfl⟩
    · split
      · exact ⟨rfl, console, sinks, same, rfl⟩
      · split <;> exact ⟨rfl, console, sinks, same, rfl⟩

theorem addFile_agrees (cwd p : Path) : Agrees Alike (addFile cwd p) (addFile cwd p) := by
  refine .recover ((openFile_agrees cwd p).bind fun _ => addSink_agrees rfl) fun f => ?_
  split
  · exact .some (.modify fun _ _ h => h.emit _)
  · exact .none

/-- A set-up where the level is understood. -/
theorem setUp_of_level {level : Value} {threshold : Level}
    (h : resolveLevel level = .ok threshold) (cwd : Path) (file : Option Path) :
    setUp cwd level file = (do
      .modify fun j => { j with level := .debug, sinks := [] }
      addSink ⟨.console, threshold, .regular⟩
      match file with
      | some p => addFile cwd p
      | none => pure ()
      .modify fun j => { j with libraryLevel := .info }) := by
  unfold setUp
  rw [h]
  rfl

/-- Without a log file only the console is set up. -/
theorem setUp_of_none {level : Value} {threshold : Level}
    (h : resolveLevel level = .ok threshold) (cwd : Path) (j : Journal) :
    setUp cwd level none j = (.done (), { j with
      level := .debug, sinks := [⟨.console, threshold, .regular⟩], libraryLevel := .info }) := by
  rw [setUp_of_level h]
  rfl

/-- **From which level up the console tells what is logged makes a difference there only.** -/
theorem setUp_agrees {level level' : Value} {threshold threshold' : Level}
    (h : resolveLevel level = .ok threshold) (h' : resolveLevel level' = .ok threshold') (cwd : Path)
    (file : Option Path) : Agrees Alike (setUp cwd level file) (setUp cwd level' file) := by
  rw [setUp_of_level h, setUp_of_level h']
  have console : Agrees Alike (addSink ⟨.console, threshold, .regular⟩)
    (addSink ⟨.console, threshold', .regular⟩) := addSink_agrees rfl
  refine .bind (.modify fun j _ => ?_) fun _ => console.bind fun _ => ?_
  · rintro ⟨console, sinks, -, rfl⟩
    exact ⟨console, [], rfl, rfl⟩
  · have last : Agrees Alike (.modify fun j => { j with libraryLevel := .info })
        (.modify fun j => { j with libraryLevel := .info }) := by
      refine .modify fun j _ => ?_
      rintro ⟨console, sinks, same, rfl⟩
      exact ⟨console, sinks, same, rfl⟩
    cases file with
    | none => exact .bind (.pure ()) fun _ => last
    | some p => exact (addFile_agrees cwd p).bind fun _ => last

/-- Every name of a level is understood. -/
theorem resolveLevel_named {name : String} (h : name ∈ levelNames.map Prod.fst) :
    ∃ level, resolveLevel (.text name) = .ok level := by
  have understood : ∀ name ∈ levelNames.map Prod.fst,
      (resolveLevel (.text name)).toOption.isSome = true := by decide +kernel
  have here := understood name h
  cases told : resolveLevel (.text name) with
  | ok level => exact ⟨level, rfl⟩
  | error f =>
    rw [told] at here
    cases here

end Journal

end Respawn.Log
